import CleanLaunch.Shell.Builtin.Arguments
import CleanLaunch.Shell.Extended.Escapes
import CleanLaunch.Shell.Layout

/-! The builtins that print: `echo` and `printf`. -/

namespace CleanLaunch.Shell

namespace Printing

open Shell.Action

def isOctal (byte : UInt8) : Bool := 48 ≤ byte && byte ≤ 55

/-- The byte written as up to `count` octal digits, and the text after them. -/
def octal (count : Nat) (text : Bytes) : UInt8 × Bytes :=
  let digits := (text.take count).takeWhile isOctal
  ((digits.foldl (fun value byte => value * 8 + Bytes.digitValue byte) 0).toUInt8,
    text.drop digits.length)

/-- The byte a backslash and a letter stand for. -/
def letterEscape? (letter : UInt8) : Option UInt8 :=
  (List.lookup letter
    [(92, 92), (97, 7), (98, 8), (101, 27), (102, 12), (110, 10), (114, 13), (116, 9), (118, 11)])

/-- The byte an escape stands for, its backslash already passed, and the text after it. An escape
    that stands for nothing leaves the backslash. -/
def escape (text : Bytes) : UInt8 × Bytes :=
  match text with
  | [] => (92, [])
  | byte :: rest =>
    if isOctal byte then octal 3 text
    else match letterEscape? byte with
      | some value => (value, rest)
      | none => (92, text)

/-- A text with its escapes replaced, up to `\c`, and whether that was there. Octal escapes begin
    with a zero of their own. -/
def unescape : (bound : Nat) → Bytes → (read : Bytes) → Bytes × Bool
  | 0, _, read => (read.reverse, false)
  | bound + 1, text, read =>
    match text with
    | [] => (read.reverse, false)
    | 92 :: 99 :: _ => (read.reverse, true)
    | 92 :: 48 :: rest =>
      let (value, rest) := octal 3 rest
      unescape bound rest (value :: read)
    | 92 :: rest =>
      let (value, rest) := escape rest
      unescape bound rest (value :: read)
    | byte :: rest => unescape bound rest (byte :: read)

/-- The arguments of `echo` with blanks between them, up to `\c`, and whether that was there. -/
def echoText : List Bytes → Bytes × Bool
  | [] => ([], false)
  | argument :: rest =>
    let (text, stops) := unescape (argument.length + 1) argument []
    if stops then (text, true)
    else if rest.isEmpty then (text, false)
    else
      let (more, stops) := echoText rest
      (text ++ 32 :: more, stops)

def echo (arguments : List Bytes) : Action Nat := do
  let quiet := arguments.head? = some (utf8 "-n")
  let (text, stops) := echoText (if quiet then arguments.drop 1 else arguments)
  print (if quiet || stops then text else text ++ [10])
  return 0

/-- Reads the flags of `echo` in the extended language, where they are words of the letters `n`, `e` and
    `E`. -/
def echoFlags : (quiet escapes : Bool) → List Bytes → Bool × Bool × List Bytes
  | quiet, escapes, words@((45 :: letters) :: rest) =>
    if !letters.isEmpty && letters.all (utf8 "neE").contains then
      let escapes := match letters.reverse.find? (· != 110) with
        | some letter => letter == 101
        | none => escapes
      echoFlags (quiet || letters.contains 110) escapes rest
    else (quiet, escapes, words)
  | quiet, escapes, words => (quiet, escapes, words)

/-- Runs `echo` in the extended language. -/
def extendedEcho (arguments : List Bytes) : Action Nat := do
  let (quiet, escapes, words) := echoFlags false false arguments
  let text := Bytes.joinWith [32] words
  let (text, stops) := if escapes then Escapes.replaced .echo text else (text, false)
  print (if quiet || stops then text else text ++ [10])
  return 0

/-- Formatting in progress: arguments not yet used, and the status so far. -/
structure Formatting where
  arguments : List Bytes
  /-- Has any argument been used? -/
  usedAny : Bool := false
  status : Nat := 0

abbrev Formatter := StateT Formatting Action

/-- The next argument, if there is one. -/
def nextArgument : Formatter (Option Bytes) := do
  let formatting ← get
  match formatting.arguments with
  | [] => return none
  | argument :: rest =>
    set { formatting with arguments := rest, usedAny := true }
    return some argument

/-- Reports an argument that is no number as a whole. -/
def complain (text : Bytes) (problem : String) : Formatter Unit := do
  warn (text ++ utf8 ": " ++ utf8 problem)
  modify fun formatting => { formatting with status := 1 }

/-- Reports what is left of an argument behind the number in it, if anything is. -/
def check (text rest : Bytes) (isExact : Bool) : Formatter Unit := do
  if !rest.isEmpty then
    complain text
      (if rest.length = text.length then "expected numeric value" else "not completely converted")
  else if !isExact then complain text "Numerical result out of range"

/-- The byte behind a quotation mark at the head of an argument. -/
def quotedByte? (text : Bytes) : Option UInt8 :=
  if text.head? == some 34 || text.head? == some 39 then some (text.getD 1 0) else none

/-- Numbers of 64 bits. -/
def wordRange : Int := 18446744073709551616

/-- The next argument as a number. -/
def nextNumber (signed : Bool) : Formatter Int := do
  match ← nextArgument with
  | none => return 0
  | some text =>
    match quotedByte? text with
    | some byte => return byte.toNat
    | none =>
      let unsigned := text.dropWhile Number.isSpace
      let isNegative := unsigned.head? == some 45
      let signless := if isNegative || unsigned.head? == some 43 then unsigned.drop 1 else unsigned
      match if signed then none else Number.natural? none signless with
      | some (value, rest) =>
        let fits := value < wordRange
        check text rest fits
        return if !fits then wordRange - 1
          else if isNegative then (-(value : Int)) % wordRange else value
      | none =>
        match Number.read? none text with
        | some read =>
          check text read.rest read.isExact
          return read.value
        | none =>
          check text text true
          return 0

/-- The next argument as a floating-point number. -/
def nextFloating : Formatter Floating := do
  match ← nextArgument with
  | none => return .finite false 0 0
  | some text =>
    match quotedByte? text with
    | some byte => return .finite false byte.toNat 0
    | none =>
      match Floating.read? .double text with
      | some read =>
        check text read.rest true
        return read.value
      | none =>
        check text text true
        return .finite false 0 0

/-- The width or precision of a conversion, written out or taken from the arguments. -/
def amount (text : Bytes) : Formatter (Option Int × Bytes) := do
  match text with
  | 42 :: rest => return (some (← nextNumber true), rest)
  | _ =>
    let (value, rest) := Number.digits 10 text
    return (if rest.length = text.length then none else some value, rest)

/-- The layout of a conversion, and the text from its letter on. -/
def readLayout (format : Bytes) : Formatter (Layout × Bytes) := do
  let (layout, rest) := Layout.flags format.length {} format
  let (width, rest) ← amount rest
  let layout := match width with
    | some width => layout.withWidth width
    | none => layout
  match rest with
  | 46 :: rest =>
    let (precision, rest) ← amount rest
    return (layout.withPrecision (precision.getD 0), rest)
  | _ => return (layout, rest)

/-- Prints one conversion, its percent sign already passed. The result is the format after it, unless
    printing stops there. -/
def conversion (format : Bytes) : Formatter (Option Bytes) := do
  let (layout, rest) ← readLayout format
  match rest with
  | [] => fail (utf8 "missing format character")
  | letter :: rest =>
    let put (text : Bytes) : Formatter (Option Bytes) := do
      print text
      return some rest
    match Char.ofNat letter.toNat with
    | 's' => put (layout.text ((← nextArgument).getD []))
    | 'b' =>
      let argument := (← nextArgument).getD []
      let (text, stops) := unescape (argument.length + 1) argument []
      print (layout.text text)
      return if stops then none else some rest
    | 'c' => put (layout.pad [((← nextArgument).getD []).headD 0])
    | 'd' | 'i' => put (layout.integer (← nextNumber true))
    | 'u' | 'o' | 'x' | 'X' =>
      put (layout.natural letter ((← nextNumber false) % wordRange).toNat)
    | 'a' | 'A' | 'e' | 'E' | 'f' | 'F' | 'g' | 'G' =>
      put (layout.floating .double letter (← nextFloating))
    | _ =>
      let directive := format.take (format.length - rest.length)
      fail (37 :: directive ++ utf8 ": invalid directive")

/-- Prints a format once; the result says whether printing stops for good. -/
def formatOnce : (bound : Nat) → Bytes → Formatter Bool
  | 0, _ => return false
  | bound + 1, format =>
    match format with
    | [] => return false
    | 92 :: rest => do
      let (value, rest) := escape rest
      print [value]
      formatOnce bound rest
    | 37 :: 37 :: rest => do
      print [37]
      formatOnce bound rest
    | 37 :: rest => do
      match ← conversion rest with
      | some rest => formatOnce bound rest
      | none => return true
    | byte :: rest => do
      print [byte]
      formatOnce bound rest

/-- Prints a format again and again until the arguments are used up. -/
def formatAll (format : Bytes) : (bound : Nat) → Formatter Unit
  | 0 => return
  | bound + 1 => do
    modify fun formatting => { formatting with usedAny := false }
    let stops ← formatOnce (format.length + 1) format
    let formatting ← get
    if !stops && formatting.usedAny && !formatting.arguments.isEmpty then formatAll format bound

def printf (arguments : List Bytes) : Action Nat := do
  match (← Arguments.flags "" arguments).rest with
  | [] => fail (utf8 "usage: printf format [arg ...]")
  | format :: arguments =>
    let ((), formatting) ← (formatAll format (arguments.length + 1)).run { arguments }
    return formatting.status

end Printing

end CleanLaunch.Shell
