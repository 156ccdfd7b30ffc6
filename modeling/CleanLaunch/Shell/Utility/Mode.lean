import CleanLaunch.Bytes

/-! Permission modes as text: octal digits, or what changes for whom. -/

namespace CleanLaunch.Shell.Utility

namespace Mode

/-- The bits of a class of users: all of a digit, and those of special bits. -/
def classBits (letter : UInt8) : Nat :=
  match Char.ofNat letter.toNat with
  | 'u' => 0o4700
  | 'g' => 0o2070
  | 'o' => 0o1007
  | _ => 0o7777

/-- The permissions of one class of users given to all of them. -/
def copied (letter : UInt8) (mode : Nat) : Nat :=
  let digit := match Char.ofNat letter.toNat with
    | 'u' => mode / 0o100 % 8
    | 'g' => mode / 0o10 % 8
    | _ => mode % 8
  digit * 0o111

/-- The bits a permission letter stands for. -/
def permission? (isDirectory : Bool) (mode : Nat) (letter : UInt8) : Option Nat :=
  match Char.ofNat letter.toNat with
  | 'r' => some 0o444
  | 'w' => some 0o222
  | 'x' => some 0o111
  | 'X' => some (if isDirectory || mode &&& 0o111 != 0 then 0o111 else 0)
  | 's' => some 0o6000
  | 't' => some 0o1000
  | _ => none

/-- A mode with an operation applied. `affected` are the bits of the users it is for; without any of them it is
    for all, as far as the mask allows. `kept` are bits that it does not touch. -/
def apply (operator : UInt8) (affected umask kept bits mode : Nat) : Nat :=
  let reach := if affected = 0 then 0o7777 ^^^ (umask &&& 0o777) else affected
  let bits := bits &&& reach &&& (0o7777 ^^^ kept)
  if operator == 43 then mode ||| bits
  else if operator == 45 then mode &&& (0o7777 ^^^ bits)
  else
    let preserved := (if affected = 0 then 0 else 0o7777 ^^^ affected) ||| kept
    (mode &&& preserved) ||| bits

def isOperator (byte : UInt8) : Bool := byte == 43 || byte == 45 || byte == 61

/-- Applies operations like `+x-w` for some users. -/
def operations? (isDirectory : Bool) (affected umask : Nat) :
    (bound : Nat) → Bytes → (mode : Nat) → Option Nat
  | 0, _, _ => none
  | _, [], mode => some mode
  | bound + 1, operator :: rest, mode =>
    if !isOperator operator then none
    else
      let what := rest.takeWhile (!isOperator ·)
      let after := rest.drop what.length
      let isOctal := !what.isEmpty && what.all fun byte => 48 ≤ byte && byte ≤ 55
      let bits : Option Nat :=
        if isOctal then some (what.foldl (fun n byte => n * 8 + Bytes.digitValue byte) 0)
        else match what with
          | [letter] =>
            if (utf8 "ugo").contains letter then some (copied letter mode)
            else permission? isDirectory mode letter
          | _ => what.foldlM (fun bits letter =>
              (permission? isDirectory mode letter).map (bits ||| ·)) 0
      match bits with
      | none => none
      | some bits =>
        let mentioned := if isOctal then 0o7777 else if affected = 0 then bits else affected &&& bits
        let kept := if isDirectory then 0o6000 &&& (0o7777 ^^^ mentioned) else 0
        operations? isDirectory affected umask bound after (apply operator affected umask kept bits mode)

/-- The mode that a text makes of another one, if it is valid. -/
def change? (isDirectory : Bool) (umask : Nat) (text : Bytes) (mode : Nat) : Option Nat :=
  let isOctal := !text.isEmpty && text.all fun byte => 48 ≤ byte && byte ≤ 55
  if isOctal then
    let value := text.foldl (fun n byte => n * 8 + Bytes.digitValue byte) 0
    let kept := if isDirectory && text.length < 5 then mode &&& 0o6000 else 0
    if value ≤ 0o7777 then some (value ||| kept) else none
  else
    (text.splitAt 44).foldlM (fun mode clause =>
      let users := clause.takeWhile (utf8 "ugoa").contains
      let affected := users.foldl (fun bits letter => bits ||| classBits letter) 0
      let operations := clause.drop users.length
      if operations.isEmpty then none
      else operations? isDirectory affected umask (operations.length + 1) operations mode) mode

/-- The letters of a mode. -/
def letters (mode : Nat) : Bytes :=
  let part (digit : Nat) (isSpecial : Bool) (small capital : UInt8) : Bytes :=
    [if digit &&& 4 != 0 then 114 else 45, if digit &&& 2 != 0 then 119 else 45,
     if isSpecial then if digit &&& 1 != 0 then small else capital
     else if digit &&& 1 != 0 then 120 else 45]
  part (mode / 0o100 % 8) (mode &&& 0o4000 != 0) 115 83 ++
    part (mode / 0o10 % 8) (mode &&& 0o2000 != 0) 115 83 ++
    part (mode % 8) (mode &&& 0o1000 != 0) 116 84

/-- Octal digits of a mode, at least `width` of them. -/
def octal (width mode : Nat) : Bytes :=
  let digits := (Nat.toDigits 8 mode).map fun digit => digit.toNat.toUInt8
  List.replicate (width - digits.length) 48 ++ digits

end Mode

end CleanLaunch.Shell.Utility
