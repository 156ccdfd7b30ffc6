import CleanLaunch.Bytes

/-! The numbers that a shell of the extended language draws.

    Each number comes from the seed that the one before it has left: the seed is multiplied modulo a prime,
    and its halves are combined. No number follows itself. -/

namespace CleanLaunch.Shell

/-- A sequence of numbers that looks random. -/
structure RandomNumbers where
  seed : Nat := 1
  /-- The number that was drawn last. -/
  last : Nat := 0
  /-- The process that the sequence was begun for; a child begins its own one. -/
  owner? : Option Nat := none

namespace RandomNumbers

/-- The prime that products are taken modulo, and what seeds are multiplied by. -/
def modulus : Nat := 2147483647

def factor : Nat := 16807

/-- The seed that stands for none. -/
def usualSeed : Nat := 123459876

/-- One more than the largest number. -/
def limit : Nat := 32768

/-- The seed behind a seed of 32 bits: the product is taken modulo the prime without leaving 32 bits. -/
def nextSeed (seed : Nat) : Nat :=
  let seed := if seed = 0 then usualSeed else seed
  let (high, low) := (seed / 127773, seed % 127773)
  let value : Int := factor * low - 2836 * high
  (if value < 0 then value + modulus else value).toNat

/-- Draws a number that differs from the last one, in so many steps at most. -/
def drawFrom : (bound : Nat) → RandomNumbers → RandomNumbers
  | 0, numbers => numbers
  | bound + 1, numbers =>
    let seed := nextSeed numbers.seed
    let value := ((seed / 65536) ^^^ (seed % 65536)) % limit
    if value = numbers.last then drawFrom bound { numbers with seed }
    else { numbers with seed, last := value }

/-- Draws the next number. -/
def draw (numbers : RandomNumbers) : RandomNumbers := drawFrom 1000 numbers

end RandomNumbers

end CleanLaunch.Shell
