import CleanLaunch.Shell.Utility.Input

/-! The utilities `base64`, `base32` and `basenc`, which write bytes in few characters and read them back.

    Most of the encodings cut the bits of the bytes into digits of a number of bits each. One takes four bytes
    for a number of five digits. -/

namespace CleanLaunch.Shell.Utility

open Shell.Action

/-- An encoding. Bytes and digits come in groups that hold the same number of bits. -/
structure Encoding where
  symbols : Bytes
  /-- Bits of a digit, if every digit has a number of its own. -/
  bits : Option Nat
  /-- Digits of a group. -/
  group : Nat
  /-- Are short groups filled up? -/
  isPadded : Bool := false
  /-- Is the first digit the lowest one? -/
  isReversed : Bool := false
  /-- Digits that a group must have before it is looked at. -/
  least : Nat := group

namespace Encoding

def upper : Bytes := (List.range 26).map fun n => (65 + n).toUInt8

def base64 : Encoding :=
  ⟨upper ++ upper.map (· + 32) ++ utf8 "0123456789+/", some 6, 4, true, false, 2⟩

def base64url : Encoding :=
  ⟨upper ++ upper.map (· + 32) ++ utf8 "0123456789-_", some 6, 4, true, false, 2⟩

def base32 : Encoding := ⟨upper ++ utf8 "234567", some 5, 8, true, false, 8⟩

def base32hex : Encoding := ⟨utf8 "0123456789" ++ upper.take 22, some 5, 8, true, false, 8⟩

def base16 : Encoding := ⟨utf8 "0123456789ABCDEF", some 4, 2, false, false, 2⟩

def base2msbf : Encoding := ⟨utf8 "01", some 1, 8, false, false, 8⟩

def base2lsbf : Encoding := ⟨utf8 "01", some 1, 8, false, true, 8⟩

def z85 : Encoding :=
  ⟨utf8 "0123456789abcdefghijklmnopqrstuvwxyzABCDEFGHIJKLMNOPQRSTUVWXYZ.-:+=^!/*?&<>()[]\x7b\x7d@%$#",
    none, 5, false, false, 5⟩

/-- Bytes of a group. -/
def bytesOfGroup (encoding : Encoding) : Nat :=
  match encoding.bits with
  | some bits => bits * encoding.group / 8
  | none => 4

/-- The base of the numbers that digits of a group make up. -/
def base (encoding : Encoding) : Nat := encoding.symbols.length

/-- Parts of a text of a length each. -/
def parts (size : Nat) : (bound : Nat) → Bytes → List Bytes
  | 0, _ => []
  | bound + 1, text => if text.isEmpty then [] else text.take size :: parts size bound (text.drop size)

/-- The number that bytes make up, the first one being the highest. -/
def numberOf (bytes : Bytes) : Nat := bytes.foldl (fun n byte => n * 256 + byte.toNat) 0

/-- The digits of a group of bytes. -/
def encodeGroup (encoding : Encoding) (bytes : Bytes) : Bytes :=
  let size := encoding.bytesOfGroup
  let number := numberOf (bytes ++ List.replicate (size - bytes.length) 0)
  let digit (n : Nat) : UInt8 :=
    (encoding.symbols[number / Nat.pow encoding.base (encoding.group - 1 - n) % encoding.base]?).getD 0
  let count := match encoding.bits with
    | some bits => (8 * bytes.length + bits - 1) / bits
    | none => encoding.group
  let digits := (List.range count).map digit
  let digits := if encoding.isReversed then digits.reverse else digits
  digits ++ if encoding.isPadded then List.replicate (encoding.group - count) 61 else []

/-- The digits of a text. -/
def encode (encoding : Encoding) (text : Bytes) : Bytes :=
  ((parts encoding.bytesOfGroup text.length text).map encoding.encodeGroup).flatten

/-- The bytes that a group of digits stands for, as many as there are, and whether the group is whole. -/
def decodeGroup (encoding : Encoding) (digits : Bytes) : Bytes × Bool :=
  let digits := if encoding.isReversed then digits.reverse else digits
  let values := digits.map fun digit => encoding.symbols.findIdx? (· == digit)
  let value (n : Nat) : Option Nat := (values[n]?).join
  let number := (List.range encoding.group).foldl (fun sum n => sum * encoding.base + (value n).getD 0) 0
  let size := encoding.bytesOfGroup
  let byte (n : Nat) : UInt8 := (number / Nat.pow 256 (size - 1 - n) % 256).toUInt8
  if digits.length < encoding.least then ([], false)
  else match encoding.bits with
  | none =>
    if values.all (·.isSome) && number < Nat.pow 256 size then ((List.range size).map byte, true)
    else ([], false)
  | some bits =>
    let firstDigit (n : Nat) : Nat := (8 * n + bits - 1) / bits
    let isGood (n : Nat) : Bool :=
      ((List.range (firstDigit (n + 1))).drop (firstDigit n)).all fun n => (value n).isSome
    let good := ((List.range size).takeWhile isGood).length
    let rest := digits.drop (firstDigit good)
    let isWhole := good = size || encoding.isPadded && 0 < good && digits.length = encoding.group &&
      rest.all (· == 61)
    ((List.range good).map byte, isWhole)

/-- The bytes that digits stand for, and whether they all do. Newlines are passed over. -/
def decode (encoding : Encoding) (text : Bytes) : Bytes × Bool :=
  let digits := text.filter (· != 10)
  let groups := (parts encoding.group digits.length digits).map encoding.decodeGroup
  let whole := groups.takeWhile (·.2)
  (whole.flatMap (·.1) ++ ((groups.drop whole.length).head?.map (·.1)).getD [],
    whole.length = groups.length)

/-- A text in lines of a length; none means a single line without its end. -/
def wrap (width : Nat) (text : Bytes) : Bytes :=
  if width = 0 then text else (parts width text.length text).flatMap (· ++ [10])

/-- The length of lines that a word asks for. One that no number can hold means a single line. -/
def width? (word : Bytes) : Option Nat :=
  let word := word.dropWhile fun byte => byte == 32 || (9 ≤ byte && byte ≤ 13)
  let digits := if word.head? == some 43 then word.drop 1 else word
  (natural? digits).map fun n => if n ≤ 9223372036854775807 then n else 0

/-- Encodes or decodes a file. -/
def convert (encoding : Encoding) (call : Call) : Action Nat := do
  let stop (problem : Bytes) : Action Nat := do
    complain problem
    return 1
  let quote := Quotation.text (hasWideCharacters (← get))
  let wanted := call.argument? 'w'
  let width := match wanted with
    | none => some 76
    | some word => width? word
  match width, call.operands with
  | none, _ => stop (utf8 "invalid wrap size: " ++ quote (wanted.getD []))
  | _, _ :: extra :: _ => refuse 1 (utf8 "extra operand " ++ (← quotedName extra))
  | some width, operands =>
    match ← content (operands.headD [45]) with
    | .closed errno => stop ((← plainName (operands.headD [45])) ++ utf8 ": " ++ errno.wording)
    | .unreadable errno => stop (utf8 "read error: " ++ errno.wording)
    | .text text =>
      if call.has 'd' then
        let text := if call.has 'i' then
            text.filter fun byte => encoding.symbols.contains byte || byte == 61
          else text
        let (bytes, isWhole) := encoding.decode text
        print bytes
        if isWhole then finish 0 1 else stop (utf8 "invalid input")
      else if encoding.bits.isNone && text.length % encoding.bytesOfGroup ≠ 0 then
        stop (utf8 "invalid input (length must be multiple of 4 characters)")
      else
        print (wrap width (encoding.encode text))
        finish 0 1

/-- The flags of all encodings. -/
def flags : List LongFlag :=
  [⟨"decode", 'd', .nothing⟩, ⟨"wrap", 'w', .argument⟩, ⟨"ignore-garbage", 'i', .nothing⟩]

/-- The encodings by their names. -/
def table : List (String × Char × Encoding) :=
  [("base64", 'α', base64), ("base64url", 'β', base64url), ("base32", 'γ', base32),
   ("base32hex", 'δ', base32hex), ("base16", 'ε', base16), ("base2msbf", 'ζ', base2msbf),
   ("base2lsbf", 'η', base2lsbf), ("z85", 'θ', z85)]

end Encoding

/-- Encodes or decodes a file in one encoding. -/
def encodeIn (encoding : Encoding) (arguments : List Bytes) : Action Nat :=
  withCall ⟨"diw:", Encoding.flags, .atEnd⟩ 1 arguments encoding.convert

/-- Encodes or decodes a file in the encoding that a flag names. -/
def basenc (arguments : List Bytes) : Action Nat :=
  let names := Encoding.table.map fun (name, letter, _) => (⟨name, letter, .nothing⟩ : LongFlag)
  withCall ⟨"diw:", Encoding.flags ++ names, .atEnd⟩ 1 arguments fun call =>
    let encoding? := call.flags.findSome? fun (letter, _) =>
      (Encoding.table.find? fun entry => entry.2.1 == letter).map (·.2.2)
    match encoding? with
    | some encoding => encoding.convert call
    | none => refuse 1 (utf8 "missing encoding type")

end CleanLaunch.Shell.Utility
