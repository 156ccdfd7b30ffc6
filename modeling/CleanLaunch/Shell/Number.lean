import CleanLaunch.Bytes

/-! Whole numbers in texts.

    A number has blanks and a sign before it and is read as far as its digits go: `Number.read?`. A value
    that does not fit into 64 bits with a sign becomes the nearest one that does. -/

namespace CleanLaunch.Shell

namespace Number

def isSpace (byte : UInt8) : Bool := byte == 32 || (9 ≤ byte && byte ≤ 13)

def largest : Int := 9223372036854775807

def smallest : Int := -9223372036854775808

/-- Value of a digit in a base, if it is one. -/
def digit? (base : Nat) (byte : UInt8) : Option Nat :=
  let value :=
    if Bytes.isDigit byte then Bytes.digitValue byte
    else if 97 ≤ byte && byte ≤ 122 then byte.toNat - 87
    else if 65 ≤ byte && byte ≤ 90 then byte.toNat - 55
    else base
  if value < base then some value else none

/-- The digits at the head of a text as a number, and the text after them. -/
def digits (base : Nat) (text : Bytes) : Nat × Bytes :=
  let read := text.takeWhile fun byte => (digit? base byte).isSome
  (read.foldl (fun value byte => value * base + (digit? base byte).getD 0) 0,
    text.drop read.length)

/-- The number at the head of a text without a sign. Without a base, it is hexadecimal after `0x`,
    octal after `0`, and decimal otherwise. -/
def natural? (base : Option Nat) (text : Bytes) : Option (Nat × Bytes) :=
  let isHexadecimal : Bool := match text with
    | 48 :: letter :: byte :: _ => (letter == 120 || letter == 88) && (digit? 16 byte).isSome
    | _ => false
  match base with
  | some base =>
    if text.head?.any fun byte => (digit? base byte).isSome then some (digits base text) else none
  | none =>
    if isHexadecimal then some (digits 16 (text.drop 2))
    else if text.head? == some 48 then some (digits 8 text)
    else if text.head?.any Bytes.isDigit then some (digits 10 text)
    else none

/-- What was read of a text as a number. -/
structure Read where
  value : Int
  /-- Is this the number itself, and not the nearest one that fits? -/
  isExact : Bool
  rest : Bytes

/-- The number at the head of a text, if there is one. -/
def read? (base : Option Nat) (text : Bytes) : Option Read :=
  let text := text.dropWhile isSpace
  let isNegative := text.head? == some 45
  let unsigned := if isNegative || text.head? == some 43 then text.drop 1 else text
  (natural? base unsigned).map fun (value, rest) =>
    let exact : Int := if isNegative then -value else value
    let value := max smallest (min largest exact)
    ⟨value, value == exact, rest⟩

/-- The number a whole text is, with blanks around it. Where the base is not given, no digits at all
    make zero. -/
def ofText? (base : Option Nat) (text : Bytes) : Option Int :=
  match read? base text with
  | some read => if read.isExact && read.rest.all isSpace then some read.value else none
  | none => if base.isNone && text.all isSpace then some 0 else none

/-- Decimal text of a number. -/
def text (value : Int) : Bytes :=
  if value < 0 then 45 :: Bytes.decimal value.natAbs else Bytes.decimal value.natAbs

end Number

end CleanLaunch.Shell
