import CleanLaunch.Shell.Builtin.Printing
import CleanLaunch.Shell.Utility.Call

/-! The utilities `printf` and `echo`. Unlike the builtins of these names, they know more escapes, and numbers
    of more digits. -/

namespace CleanLaunch.Shell.Utility

open Shell.Action

namespace Formatting

/-- Formatting in progress: arguments not yet used, and the status so far. -/
structure Progress where
  arguments : List Bytes
  status : Nat := 0

/-- How formatting ends early. -/
inductive Stop
  /-- It was asked for. -/
  | asked
  | failed (message : Bytes)

abbrev Formatter := ExceptT Stop (StateT Progress Action)

def act {α : Type} (action : Action α) : Formatter α := ExceptT.lift (StateT.lift action)

def put (text : Bytes) : Formatter Unit := act (print text)

/-- The next argument, if there is one. -/
def next : Formatter (Option Bytes) := do
  let progress ← get
  match progress.arguments with
  | [] => return none
  | argument :: rest =>
    set { progress with arguments := rest }
    return some argument

/-- Reports a problem with an argument. -/
def fault (text problem : Bytes) : Formatter Unit := do
  act (do complain ((← quoted text) ++ utf8 ": " ++ problem))
  modify fun progress => { progress with status := 1 }

def hexDigits (count : Nat) (text : Bytes) : Bytes :=
  (text.take count).takeWhile fun byte => (Number.digit? 16 byte).isSome

/-- The UTF-8 bytes of a character, or its escape where characters have one byte. -/
def wideCharacter (wide : Bool) (code : Nat) : Bytes :=
  if wide || code < 128 then utf8 (String.singleton (Char.ofNat code))
  else
    let capital := (Nat.toDigits 16 code).map fun digit => digit.toUpper.toNat.toUInt8
    let width := if code < 65536 then 4 else 8
    [92, if width = 4 then 117 else 85] ++ List.replicate (width - capital.length) 48 ++ capital

/-- Prints the escape behind a backslash and gives the text after it. `zeros` says that octal escapes
    begin with a zero of their own. -/
def escape (zeros : Bool) (text : Bytes) : Formatter Bytes := do
  match text with
  | [] =>
    put [92]
    return []
  | letter :: rest =>
    let letters : List (UInt8 × UInt8) := [(34, 34), (92, 92), (97, 7), (98, 8), (101, 27), (102, 12), (110, 10),
      (114, 13), (116, 9), (118, 11)]
    if letter == 99 then throw .asked
    else if letter == 120 then
      let digits := hexDigits 2 rest
      if digits.isEmpty then throw (.failed (utf8 "missing hexadecimal number in escape"))
      put [(Number.digits 16 digits).1.toUInt8]
      return rest.drop digits.length
    else if letter == 117 || letter == 85 then
      let width := if letter == 117 then 4 else 8
      let digits := hexDigits width rest
      if digits.length < width then
        throw (.failed (utf8 "missing hexadecimal number in escape"))
      let wide := hasWideCharacters (← act get)
      put (wideCharacter wide (Number.digits 16 digits).1)
      return rest.drop width
    else if Printing.isOctal letter then
      let (value, rest) := Printing.octal 3 (if zeros && letter == 48 then rest else text)
      put [value]
      return rest
    else match List.lookup letter letters with
      | some value =>
        put [value]
        return rest
      | none =>
        put [92, letter]
        return rest

/-- Prints a text with its escapes replaced. -/
def unescape (zeros : Bool) : (bound : Nat) → Bytes → Formatter Unit
  | 0, _ | _, [] => return
  | bound + 1, 92 :: rest => do unescape zeros bound (← escape zeros rest)
  | bound + 1, byte :: rest => do
    put [byte]
    unescape zeros bound rest

/-- Reports what is left of an argument behind the number in it. -/
def check (text rest : Bytes) : Formatter Unit := do
  if rest.length = text.length then
    if !text.isEmpty then fault text (utf8 "expected a numeric value")
  else if !rest.isEmpty then fault text (utf8 "value not completely converted")

/-- The byte behind a quotation mark; what is behind it is reported. -/
def quotedByte? (text : Bytes) : Formatter (Option UInt8) := do
  match text with
  | mark :: byte :: more =>
    if mark == 34 || mark == 39 then
      if !more.isEmpty then
        act (complain (utf8 "warning: " ++ more ++
          utf8 ": character(s) following character constant have been ignored"))
      return some byte
    else return none
  | _ => return none

def wordRange : Int := 18446744073709551616

/-- The next argument as a whole number. -/
def nextInteger (signed : Bool) : Formatter Int := do
  match ← next with
  | none => return 0
  | some text =>
    match ← quotedByte? text with
    | some byte => return byte.toNat
    | none =>
      let unsigned := text.dropWhile Number.isSpace
      let isNegative := unsigned.head? == some 45
      let unsigned := if isNegative || unsigned.head? == some 43 then unsigned.drop 1 else unsigned
      match Number.natural? none unsigned with
      | none =>
        check text text
        return 0
      | some (value, rest) =>
        let value : Int := if isNegative then -value else value
        let least := if signed then Number.smallest else -(wordRange - 1)
        let largest := if signed then Number.largest else wordRange - 1
        if value < least || largest < value then fault text Errno.ERANGE.wording
        else check text rest
        return if signed then max least (min largest value)
          else if value < least || largest < value then largest else value % wordRange

/-- The next argument as a floating-point number. -/
def nextFloating : Formatter Floating := do
  match ← next with
  | none => return .finite false 0 0
  | some text =>
    match ← quotedByte? text with
    | some byte => return .finite false byte.toNat 0
    | none =>
      match Floating.read? .extended text with
      | some read =>
        check text read.rest
        return read.value
      | none =>
        check text text
        return .finite false 0 0

/-- A width or precision, written out or taken from the arguments. -/
def amount (text : Bytes) : Formatter (Option Int × Bytes) := do
  match text with
  | 42 :: rest => return (some (← nextInteger true), rest)
  | _ =>
    let (value, rest) := Number.digits 10 text
    return (if rest.length = text.length then none else some value, rest)

/-- Prints one conversion, its percent sign already passed, and gives the format after it. -/
def conversion (format : Bytes) : Formatter Bytes := do
  let format := format.filter (· != 39)
  let (layout, rest) := Layout.flags format.length {} format
  let (width, rest) ← amount rest
  let layout := match width with
    | some width => layout.withWidth width
    | none => layout
  let (layout, rest) ← match rest with
    | 46 :: rest =>
      let (precision, rest) ← amount rest
      pure (layout.withPrecision (precision.getD 0), rest)
    | _ => pure (layout, rest)
  let rest := rest.dropWhile (utf8 "hlLjzt").contains
  let isBare := rest.length = format.length
  let invalid {α : Type} : Formatter α :=
    throw (.failed (37 :: format.take (format.length - rest.length + 1) ++
      utf8 ": invalid conversion specification"))
  match rest with
  | [] => invalid
  | letter :: rest =>
    match Char.ofNat letter.toNat with
    | 's' => put (layout.text ((← next).getD []))
    | 'b' =>
      let text := (← next).getD []
      if !isBare then invalid
      unescape true (text.length + 1) text
    | 'q' =>
      if !isBare then invalid
      let wide := hasWideCharacters (← act get)
      match ← next with
      | some text => put (Quotation.wordIfNeeded wide text)
      | none => put []
    | 'c' => put (layout.pad [((← next).getD []).headD 0])
    | 'd' | 'i' => put (layout.integer (← nextInteger true))
    | 'u' | 'o' | 'x' | 'X' => put (layout.natural letter (← nextInteger false).toNat)
    | 'a' | 'A' | 'e' | 'E' | 'f' | 'F' | 'g' | 'G' =>
      put (layout.floating .extended letter (← nextFloating))
    | _ => invalid
    return rest

/-- Prints a format once. -/
def formatOnce : (bound : Nat) → Bytes → Formatter Unit
  | 0, _ | _, [] => return
  | bound + 1, byte :: rest => do
    if byte == 92 then formatOnce bound (← escape false rest)
    else if byte == 37 then
      match rest with
      | 37 :: rest =>
        put [37]
        formatOnce bound rest
      | _ => formatOnce bound (← conversion rest)
    else
      put [byte]
      formatOnce bound rest

/-- Prints a format as long as it uses arguments up. -/
def formatAll (format : Bytes) : (bound : Nat) → Formatter Unit
  | 0 => return
  | bound + 1 => do
    let before := (← get).arguments.length
    formatOnce (format.length + 1) format
    let after := (← get).arguments
    if !after.isEmpty then
      if after.length = before then
        act (do
          complain (utf8 "warning: ignoring excess arguments, starting with " ++
            (← quoted (after.headD []))))
      else formatAll format bound

end Formatting

open Formatting in
/-- Prints its arguments as a format says. -/
def printf (arguments : List Bytes) : Action Nat := do
  let arguments := if arguments.head? = some [45, 45] then arguments.drop 1 else arguments
  match arguments with
  | [] => missingOperand "operand"
  | format :: arguments =>
    if arguments.isEmpty && (format = utf8 "--help" || format = utf8 "--version") then
      leave .abandoned
    let (result, progress) ← ((formatAll format (arguments.length + 1)).run).run { arguments }
    match result with
    | .ok () | .error .asked => finish progress.status 1
    | .error (.failed message) =>
      complain message
      return 1

/-- A text with the escapes of `echo` replaced, up to `\c`, and whether that was there. -/
def echoText : (bound : Nat) → Bytes → (read : Bytes) → Bytes × Bool
  | 0, _, read | _, [], read => (read.reverse, false)
  | bound + 1, 92 :: letter :: rest, read =>
    let escapes : List (UInt8 × UInt8) := [(92, 92), (97, 7), (98, 8), (101, 27), (102, 12),
      (110, 10), (114, 13), (116, 9), (118, 11)]
    let digits := Formatting.hexDigits 2 rest
    if letter == 99 then (read.reverse, true)
    else if letter == 120 && !digits.isEmpty then
      echoText bound (rest.drop digits.length) ((Number.digits 16 digits).1.toUInt8 :: read)
    else if Printing.isOctal letter then
      let (value, rest) := Printing.octal 3 (if letter == 48 then rest else letter :: rest)
      echoText bound rest (value :: read)
    else match escapes.lookup letter with
      | some value => echoText bound rest (value :: read)
      | none => echoText bound rest (letter :: 92 :: read)
  | bound + 1, byte :: rest, read => echoText bound rest (byte :: read)

/-- Prints its arguments. Escapes count with the flag `e`, or if the user wants things strict; then there are
    no flags but a first `n`. -/
def echo (arguments : List Bytes) : Action Nat := do
  let strict := isStrict (← get)
  let isFlags (word : Bytes) : Bool :=
    word.head? = some 45 && 1 < word.length && (word.drop 1).all (utf8 "neE").contains
  let flagged := !strict || arguments.head? = some (utf8 "-n")
  let flags := if flagged then (arguments.takeWhile isFlags).flatMap (·.drop 1) else []
  let words := if flagged then arguments.dropWhile isFlags else arguments
  if !strict && (arguments = [utf8 "--help"] || arguments = [utf8 "--version"]) then leave .abandoned
  let ending := if flags.contains 110 then [] else [10]
  let text := Bytes.joinWith [32] words
  let (text, stops) :=
    if strict || (flags.filter (· != 110)).getLast? = some 101 then
      echoText (text.length + 1) text []
    else (text, false)
  print (if stops then text else text ++ ending)
  finish 0 1

end CleanLaunch.Shell.Utility
