import CleanLaunch.Bytes

/-! Characters of texts.

    Where characters are wide, one of them may have several bytes. A character is known by its code; a byte
    that belongs to no character counts as one of its own, with a code that no character has. -/

namespace CleanLaunch.Shell

namespace Character

/-- Do characters have several bytes in a locale? -/
def isWideIn (locale : Bytes) : Bool :=
  let set := (locale.drop 2).filter (· != 45)
  (utf8 "C.").isPrefixOf locale &&
    set.map (fun byte => if 65 ≤ byte && byte ≤ 90 then byte + 32 else byte) == utf8 "utf8"

/-- Variables that name the locale of characters; the first one that has a value counts. -/
def localeVariables : List Bytes := ["LC_ALL", "LC_CTYPE", "LANG"].map utf8

/-- Codes from here on stand for bytes that belong to no character. -/
def strayCode : Nat := 0x110000

/-- How many bytes the character has that begins with a byte, if one can. -/
def lengthFrom (byte : UInt8) : Option Nat :=
  if byte < 0x80 then some 1
  else if 0xc2 ≤ byte && byte ≤ 0xdf then some 2
  else if 0xe0 ≤ byte && byte ≤ 0xef then some 3
  else if 0xf0 ≤ byte && byte ≤ 0xf4 then some 4
  else none

/-- The least code that needs some number of bytes. -/
def leastCode (length : Nat) : Nat :=
  if length = 2 then 0x80 else if length = 3 then 0x800 else if length = 4 then 0x10000 else 0

/-- The code of the character of several bytes at the head of a text, if there is one, and its length. -/
def wide? (text : Bytes) : Option (Nat × Nat) :=
  match text with
  | [] => none
  | byte :: _ =>
    match lengthFrom byte with
    | none | some 1 => none
    | some length =>
      let rest := (text.take length).drop 1
      let isComplete := rest.length + 1 = length && rest.all fun other => 0x80 ≤ other && other ≤ 0xbf
      let head := byte.toNat % Nat.pow 2 (7 - length)
      let code := rest.foldl (fun code other => code * 64 + other.toNat % 64) head
      let isValid := leastCode length ≤ code && code < strayCode && !(0xd800 ≤ code && code ≤ 0xdfff)
      if isComplete && isValid then some (code, length) else none

/-- The code of the first character of a text and its length. -/
def first? (wide : Bool) (text : Bytes) : Option (Nat × Nat) :=
  match text with
  | [] => none
  | byte :: _ =>
    if !wide || byte < 0x80 then some (byte.toNat, 1)
    else (wide? text).or (some (strayCode + byte.toNat, 1))

/-- The codes of the characters of a text. -/
def codes (wide : Bool) (text : Bytes) : List Nat := go (text.length + 1) text
where
  go : (bound : Nat) → Bytes → List Nat
    | 0, _ => []
    | bound + 1, text =>
      match first? wide text with
      | some (code, length) => code :: go bound (text.drop length)
      | none => []

/-- The characters of a text, each by its bytes. -/
def pieces (wide : Bool) (text : Bytes) : List Bytes := go (text.length + 1) text
where
  go : (bound : Nat) → Bytes → List Bytes
    | 0, _ => []
    | bound + 1, text =>
      match first? wide text with
      | some (_, length) => text.take length :: go bound (text.drop length)
      | none => []

/-- How many characters a text has. -/
def count (wide : Bool) (text : Bytes) : Nat :=
  if wide then (pieces true text).length else text.length

/-- The bytes of a character. -/
def encode (wide : Bool) (code : Nat) : Bytes :=
  if strayCode ≤ code then [(code - strayCode).toUInt8]
  else if !wide || code < 0x80 then [code.toUInt8]
  else
    let tail (n : Nat) : UInt8 := (0x80 + code / Nat.pow 64 n % 64).toUInt8
    if code < 0x800 then [(0xc0 + code / 64).toUInt8, tail 0]
    else if code < 0x10000 then [(0xe0 + code / 4096).toUInt8, tail 1, tail 0]
    else [(0xf0 + code / 262144).toUInt8, tail 2, tail 1, tail 0]

/-- Is a code in one of some ranges? -/
def isAmong (ranges : List (Nat × Nat)) (code : Nat) : Bool :=
  ranges.any fun (low, high) => low ≤ code && code ≤ high

/-- Small letters that are a fixed distance behind their capital ones. -/
def shiftedLetters : List (Nat × Nat × Nat) :=
  [(0x61, 0x7a, 32), (0xe0, 0xf6, 32), (0xf8, 0xfe, 32), (0x3ac, 0x3ac, 38), (0x3ad, 0x3af, 37),
   (0x3b1, 0x3c1, 32), (0x3c3, 0x3cb, 32), (0x3cc, 0x3cc, 64), (0x3cd, 0x3ce, 63), (0x430, 0x44f, 32),
   (0x450, 0x45f, 80), (0x561, 0x586, 48), (0xff41, 0xff5a, 32)]

/-- Ranges where capital letters and small ones take turns, a capital one first. -/
def pairedLetters : List (Nat × Nat) :=
  [(0x100, 0x12f), (0x132, 0x137), (0x139, 0x148), (0x14a, 0x177), (0x179, 0x17e), (0x370, 0x373),
   (0x3d8, 0x3ef), (0x460, 0x481), (0x48a, 0x4bf), (0x4d0, 0x52f), (0x1e00, 0x1e95), (0x1ea0, 0x1eff)]

/-- Single letters, the small one first. -/
def otherLetters : List (Nat × Nat) := [(0xff, 0x178), (0xb5, 0x39c), (0x3c2, 0x3a3)]

/-- The capital letter of a small one; other characters stay. -/
def toUpper (code : Nat) : Nat :=
  match shiftedLetters.find? fun (low, high, _) => low ≤ code && code ≤ high with
  | some (_, _, distance) => code - distance
  | none =>
    match pairedLetters.find? fun (low, high) => low ≤ code && code ≤ high with
    | some (low, _) => code - (code - low) % 2
    | none => (otherLetters.lookup code).getD code

/-- The small letter of a capital one; other characters stay. -/
def toLower (code : Nat) : Nat :=
  match shiftedLetters.find? fun (low, high, distance) => low ≤ code + distance && code + distance ≤ high with
  | some (_, _, distance) => if code + distance = 0x3c2 then code else code + distance
  | none =>
    match pairedLetters.find? fun (low, high) => low ≤ code && code ≤ high with
    | some (low, _) => code + 1 - (code - low) % 2
    | none => ((otherLetters.find? (·.2 = code)).map (·.1)).getD code

/-- Letters beyond those of seven bits, roughly. -/
def wideLetters : List (Nat × Nat) :=
  [(0xaa, 0xaa), (0xb5, 0xb5), (0xba, 0xba), (0xc0, 0xd6), (0xd8, 0xf6), (0xf8, 0x2c1), (0x370, 0x373),
   (0x376, 0x377), (0x37b, 0x37d), (0x386, 0x386), (0x388, 0x481), (0x48a, 0x52f), (0x531, 0x556),
   (0x561, 0x587), (0x5d0, 0x5ea), (0x620, 0x64a), (0x904, 0x939), (0xe01, 0xe30), (0x10a0, 0x10ff),
   (0x1e00, 0x1fff), (0x3041, 0x3096), (0x30a1, 0x30fa), (0x3400, 0x4dbf), (0x4e00, 0x9fff),
   (0xac00, 0xd7a3), (0xf900, 0xfaff), (0xff21, 0xff3a), (0xff41, 0xff5a), (0x20000, 0x2fa1f)]

def isUpper (code : Nat) : Bool := toLower code != code

def isLower (code : Nat) : Bool := toUpper code != code || code == 0xdf

def isAlpha (code : Nat) : Bool :=
  isAmong [(0x41, 0x5a), (0x61, 0x7a)] code || isAmong wideLetters code

def isDigit (code : Nat) : Bool := 0x30 ≤ code && code ≤ 0x39

def isAlnum (code : Nat) : Bool := isDigit code || isAlpha code

/-- May a character be part of a word? -/
def isWord (code : Nat) : Bool := code == 95 || isAlnum code

def isSpace (code : Nat) : Bool :=
  isAmong [(9, 13), (32, 32), (0x1680, 0x1680), (0x2000, 0x2006), (0x2008, 0x200a), (0x2028, 0x2029),
    (0x205f, 0x205f), (0x3000, 0x3000)] code

def isControl (code : Nat) : Bool :=
  isAmong [(0, 31), (127, 159), (0x2028, 0x2029)] code

def isPrintable (code : Nat) : Bool := code < strayCode && !isControl code

/-- The members of a class, if there is a class of that name. -/
def class? (name : Bytes) : Option (Nat → Bool) :=
  let isGraph (code : Nat) : Bool := isPrintable code && !isSpace code
  match String.fromUTF8? ⟨name.toArray⟩ with
  | some "upper" => some isUpper
  | some "lower" => some isLower
  | some "alpha" => some isAlpha
  | some "digit" => some isDigit
  | some "alnum" => some isAlnum
  | some "space" => some isSpace
  | some "blank" => some fun code => code == 9 || (isSpace code && code == 32) || (0x1680 ≤ code && isSpace code)
  | some "punct" => some fun code => isGraph code && !isAlnum code
  | some "cntrl" => some isControl
  | some "print" => some isPrintable
  | some "graph" => some isGraph
  | some "xdigit" => some (isAmong [(48, 57), (65, 70), (97, 102)])
  | _ => none

/-- Columns that a character takes. -/
def width (code : Nat) : Nat :=
  if !isPrintable code then 0
  else if isAmong [(0x300, 0x36f), (0x483, 0x489), (0x591, 0x5bd), (0x200b, 0x200f), (0x20d0, 0x20ff),
      (0xfe00, 0xfe0f), (0xfe20, 0xfe2f)] code then 0
  else if isAmong [(0x1100, 0x115f), (0x2e80, 0x303e), (0x3041, 0xa4cf), (0xac00, 0xd7a3), (0xf900, 0xfaff),
      (0xfe30, 0xfe6f), (0xff01, 0xff60), (0xffe0, 0xffe6), (0x1f300, 0x1f64f), (0x1f680, 0x1f6ff),
      (0x1f900, 0x1f9ff), (0x20000, 0x3fffd)] code then 2
  else 1

/-- Changes every character of a text. -/
def map (wide : Bool) (change : Nat → Nat) (text : Bytes) : Bytes :=
  (codes wide text).flatMap fun code =>
    if !wide && 0x80 ≤ code then [code.toUInt8] else encode wide (change code)

end Character

end CleanLaunch.Shell
