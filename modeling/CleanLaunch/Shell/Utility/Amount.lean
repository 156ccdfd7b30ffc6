import CleanLaunch.Shell.Utility.Call

/-! Amounts: whole numbers with a suffix that multiplies them, such as `10k` or `3MB`. -/

namespace CleanLaunch.Shell.Utility

open Shell.Action

/-- What came of reading an amount. -/
inductive Amount
  | value (n : Nat)
  /-- It is more than a number of the system can hold. -/
  | tooLarge
  | invalid
  /-- There is something behind the number that is no suffix. -/
  | strange
  deriving DecidableEq

namespace Amount

/-- The largest amount. -/
def largest : Nat := 18446744073709551615

/-- What a suffix multiplies by, for those letters that are known. A letter alone or with `iB` behind it
    stands for a power of 1024, with `B` or `D` for a power of 1000. -/
def factor? (known : String) (suffix : Bytes) : Option Nat :=
  match suffix with
  | [] => some 1
  | letter :: rest =>
    let character := Char.ofNat letter.toNat
    if !known.toList.contains character then none
    else
      let plain (n : Nat) : Option Nat := if rest.isEmpty then some n else none
      let base : Option Nat :=
        if rest.isEmpty || rest = utf8 "iB" then some 1024
        else if rest = [66] || rest = [68] then some 1000
        else none
      let power (n : Nat) : Option Nat := base.map (Nat.pow · n)
      match character with
      | 'b' => plain 512
      | 'B' => plain 1024
      | 'c' => plain 1
      | 'w' => plain 2
      | 'k' | 'K' => power 1
      | 'm' | 'M' => power 2
      | 'g' | 'G' => power 3
      | 't' | 'T' => power 4
      | 'P' => power 5
      | 'E' => power 6
      | 'Z' => power 7
      | 'Y' => power 8
      | 'R' => power 9
      | 'Q' => power 10
      | _ => none

/-- Reads an amount. `known` are the letters of suffixes; one of them alone stands for itself. -/
def read (known : String) (text : Bytes) : Amount :=
  let text := text.dropWhile fun byte => byte == 32 || (9 ≤ byte && byte ≤ 13)
  let text := if text.head? == some 43 then text.drop 1 else text
  let digits := text.takeWhile Bytes.isDigit
  let suffix := text.drop digits.length
  let isAlone := digits.isEmpty && !suffix.isEmpty
  if digits.isEmpty && !(isAlone && (factor? known (suffix.take 1)).isSome) then .invalid
  else
    let n := if isAlone then 1 else digits.foldl (fun n byte => n * 10 + Bytes.digitValue byte) 0
    match factor? known suffix with
    | none => .strange
    | some factor => if largest < n * factor then .tooLarge else .value (n * factor)

/-- The suffixes that most utilities know. -/
def usualSuffixes : String := "bkKmMGTPEZYRQ"

/-- The amount of a flag, or the complaint about it. An amount that is too large says so. -/
def require (known what : String) (text : Bytes) : Action (Except Bytes Nat) := do
  let shown := utf8 what ++ utf8 ": " ++ (← quoted text)
  match read known text with
  | .value n => return .ok n
  | .tooLarge => return .error (shown ++ utf8 ": Value too large for defined data type")
  | .invalid | .strange => return .error shown

/-- A whole number of a flag between bounds, perhaps with a sign, or the complaint about it. -/
def integer (least most : Int) (what : String) (text : Bytes) : Action (Except Bytes Int) := do
  let shown := utf8 what ++ utf8 ": " ++ (← quoted text)
  let trimmed := text.dropWhile fun byte => byte == 32 || (9 ≤ byte && byte ≤ 13)
  let isNegative := trimmed.head? == some 45
  let digits := if isNegative || trimmed.head? == some 43 then trimmed.drop 1 else trimmed
  match natural? digits with
  | none => return .error shown
  | some n =>
    let value : Int := if isNegative then -(n : Int) else n
    if least ≤ value && value ≤ most then return .ok value
    else if (1073741823 : Int) < value || value < -1073741824 then
      return .error (shown ++ utf8 ": Value too large for defined data type")
    else return .error (shown ++ utf8 ": Numerical result out of range")

/-- The largest whole number of the usual size, and of the largest one. -/
def mostUsual : Int := 2147483647

def mostInteger : Int := 9223372036854775807

end Amount

end CleanLaunch.Shell.Utility
