import CleanLaunch.Shell.Floating

/-! Arithmetic with binary floating-point numbers.

    A result is computed exactly and then rounded to the nearest number of a range. -/

namespace CleanLaunch.Shell

namespace Floating

/-- A whole number times a power of two, rounded. -/
def Range.rounded (range : Range) (negative : Bool) (mantissa : Nat) (exponent : Int) : Floating :=
  if 0 ≤ exponent then range.ofQuotient negative (mantissa * Nat.pow 2 exponent.toNat) 1
  else range.ofQuotient negative mantissa (Nat.pow 2 (-exponent).toNat)

/-- A whole number, rounded. -/
def Range.ofInt (range : Range) (n : Int) : Floating := range.ofQuotient (decide (n < 0)) n.natAbs 1

def isFinite : Floating → Bool
  | .finite .. => true
  | _ => false

def isUndefined : Floating → Bool
  | .undefined _ => true
  | _ => false

def isZero : Floating → Bool
  | .finite _ mantissa _ => mantissa == 0
  | _ => false

/-- The number with the other sign. -/
def negated : Floating → Floating
  | .finite negative mantissa exponent => .finite (!negative) mantissa exponent
  | .infinite negative => .infinite (!negative)
  | .undefined negative => .undefined (!negative)

/-- A sum. -/
def add (range : Range) : Floating → Floating → Floating
  | .finite n a x, .finite m b y =>
    let exponent := min x y
    let total := scaledTo exponent n a x + scaledTo exponent m b y
    if total = 0 then .finite (n && m) 0 0
    else range.rounded (decide (total < 0)) total.natAbs exponent
  | .undefined n, _ => .undefined n
  | _, .undefined m => .undefined m
  | .infinite n, .infinite m => if n == m then .infinite n else .undefined true
  | .infinite n, _ => .infinite n
  | _, .infinite m => .infinite m

def subtract (range : Range) (first second : Floating) : Floating := add range first second.negated

/-- A product. -/
def multiply (range : Range) : Floating → Floating → Floating
  | .finite n a x, .finite m b y => range.rounded (n != m) (a * b) (x + y)
  | .undefined n, _ => .undefined n
  | _, .undefined m => .undefined m
  | .infinite n, other => if other.isZero then .undefined true else .infinite (n != other.isNegative)
  | other, .infinite m => if other.isZero then .undefined true else .infinite (m != other.isNegative)

/-- A quotient. -/
def divide (range : Range) : Floating → Floating → Floating
  | .finite n a x, .finite m b y =>
    if b = 0 then if a = 0 then .undefined true else .infinite (n != m)
    else
      let shift := x - y
      range.ofQuotient (n != m) (a * Nat.pow 2 shift.toNat) (b * Nat.pow 2 (-shift).toNat)
  | .undefined n, _ => .undefined n
  | _, .undefined m => .undefined m
  | .infinite n, .finite m _ _ => .infinite (n != m)
  | .infinite _, .infinite _ => .undefined true
  | .finite n _ _, .infinite m => .finite (n != m) 0 0

/-- The remainder of a quotient without its fraction, with the sign of what is divided. -/
def remainder (range : Range) : Floating → Floating → Floating
  | .finite n a x, .finite _ b y =>
    if b = 0 then .undefined true
    else
      let exponent := min x y
      let top := a * Nat.pow 2 (x - exponent).toNat
      let bottom := b * Nat.pow 2 (y - exponent).toNat
      range.rounded n (top % bottom) exponent
  | .undefined n, _ => .undefined n
  | _, .undefined m => .undefined m
  | .infinite _, _ => .undefined true
  | value, .infinite _ => value

/-- Is a number less than another one? What is no number at all is not. -/
def isLess (first second : Floating) : Bool :=
  !first.isUndefined && !second.isUndefined && first.order second == .lt

/-- Are two numbers the same? -/
def isSame (first second : Floating) : Bool :=
  !first.isUndefined && !second.isUndefined && first.order second == .eq

end Floating

end CleanLaunch.Shell
