/-! Byte strings.

    Whatever crosses the boundary to the kernel (paths, arguments, environment entries, listings,
    log lines) is a list of bytes. Text enters as its UTF-8 bytes, numbers as decimal digits. -/

namespace CleanLaunch

/-- A byte string. -/
abbrev Bytes := List UInt8

/-- The UTF-8 bytes of a text. -/
def utf8 (text : String) : Bytes := text.toUTF8.data.toList

/-- The sum of some numbers. -/
def sumOf (numbers : List Nat) : Nat := numbers.foldl (· + ·) 0

namespace Bytes

/-- Offset of the first NUL byte, if there is one. -/
def nulOffset? (bytes : Bytes) : Option Nat := bytes.findIdx? (· == 0)

/-- What a reader of NUL-terminated strings sees: the bytes before the first NUL. -/
def beforeNul (bytes : Bytes) : Bytes := bytes.takeWhile (· != 0)

/-- Is the byte an ASCII digit? -/
def isDigit (byte : UInt8) : Bool := 48 ≤ byte && byte ≤ 57

/-- Value of an ASCII digit. -/
def digitValue (byte : UInt8) : Nat := byte.toNat - 48

/-- Decimal text of a number. -/
def decimal (n : Nat) : Bytes := (Nat.toDigits 10 n).map fun digit => digit.toNat.toUInt8

/-- The `width` low bytes of a number, lowest first. -/
def littleEndian : (width : Nat) → Nat → Bytes
  | 0, _ => []
  | width + 1, n => n.toUInt8 :: littleEndian width (n / 256)

/-- Splits at every occurrence of a byte; empty parts are kept, so there is always one part. -/
def splitAt (separator : UInt8) : Bytes → List Bytes
  | [] => [[]]
  | byte :: rest =>
    match splitAt separator rest with
    | [] => [[byte]]
    | part :: parts =>
      if byte == separator then [] :: part :: parts else (byte :: part) :: parts

/-- The parts with a separator between neighbours. -/
def joinWith (separator : Bytes) : List Bytes → Bytes
  | [] => []
  | [part] => part
  | part :: parts => part ++ separator ++ joinWith separator parts

end Bytes

end CleanLaunch
