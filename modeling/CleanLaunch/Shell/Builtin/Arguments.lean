import CleanLaunch.Shell.State

/-! Reading the arguments of builtins. -/

namespace CleanLaunch.Shell

namespace Arguments

open Shell.Action

/-- Flags that were read, each with its argument if it takes one, and the words behind them. -/
structure Flags where
  flags : List (UInt8 × Bytes) := []
  rest : List Bytes

/-- Was there a certain flag? -/
def Flags.has (read : Flags) (letter : Char) : Bool :=
  read.flags.any fun flag => flag.1.toNat == letter.toNat

/-- Reads the letters of one word; `words` are those behind it. -/
def letters (known : String) : Bytes → Flags → Action Flags
  | [], read => return read
  | letter :: rest, read => do
    match (utf8 known).dropWhile (· != letter) with
    | _ :: 58 :: _ =>
      if letter == 58 then fail (utf8 "Illegal option -" ++ [letter])
      else if !rest.isEmpty then return { read with flags := (letter, rest) :: read.flags }
      else match read.rest with
        | argument :: words => return ⟨(letter, argument) :: read.flags, words⟩
        | [] => fail (utf8 "No arg for -" ++ [letter] ++ utf8 " option")
    | _ :: _ =>
      if letter == 58 then fail (utf8 "Illegal option -" ++ [letter])
      else letters known rest { read with flags := (letter, []) :: read.flags }
    | [] => fail (utf8 "Illegal option -" ++ [letter])

/-- Reads the flags at the head of some words. `known` has the letters that may be there; a colon
    behind a letter says that it takes an argument. -/
def flags (known : String) (words : List Bytes) : Action Flags := go (words.length + 1) ⟨[], words⟩
where
  go : (bound : Nat) → Flags → Action Flags
    | 0, read => return read
    | bound + 1, read => do
      match read.rest with
      | [45, 45] :: words => return { read with rest := words }
      | (45 :: letter :: more) :: words =>
        go bound (← letters known (letter :: more) { read with rest := words })
      | _ => return read

/-- The first letter of the first flag, if there is one, and the words behind that flag's word. -/
def firstFlag (known : String) (words : List Bytes) : Action (Option UInt8 × List Bytes) := do
  match words with
  | [45, 45] :: rest => return (none, rest)
  | (45 :: letter :: _) :: rest =>
    if (utf8 known).contains letter then return (some letter, rest)
    else fail (utf8 "Illegal option -" ++ [letter])
  | _ => return (none, words)

end Arguments

end CleanLaunch.Shell
