import CleanLaunch.Calendar.Layout
import CleanLaunch.Shell.Clock
import CleanLaunch.Shell.Builtin.Printing
import CleanLaunch.Shell.Extended.Inputs
import CleanLaunch.Shell.Extended.Quoting

/-! The builtin `printf` of the extended language.

    A format is printed again and again until the arguments are used up. What is printed may go to a
    variable instead. An argument that is no number counts as far as it is one, and makes the status a
    failure. -/

namespace CleanLaunch.Shell

namespace Formats

open Shell.Action

/-- A format that is being printed. -/
structure Progress where
  arguments : List Bytes
  usedAny : Bool := false
  /-- What has been printed, the last piece first, and how long that is in this round. -/
  printed : List Bytes := []
  length : Nat := 0
  /-- Was there an argument that is no number? -/
  isFaulty : Bool := false

abbrev Formatter := StateT Progress Action

def put (text : Bytes) : Formatter Unit :=
  modify fun progress => { progress with
    printed := text :: progress.printed, length := progress.length + text.length }

/-- The next argument, if there is one. -/
def next : Formatter (Option Bytes) := do
  let progress ← get
  match progress.arguments with
  | [] => return none
  | argument :: rest =>
    set { progress with arguments := rest, usedAny := true }
    return some argument

def fault (text : Bytes) : Formatter Unit := do
  let kind := match text with
    | 48 :: 120 :: _ => "hex "
    | 48 :: digit :: _ => if Bytes.isDigit digit then "octal " else ""
    | _ => ""
  warn (text ++ utf8 ": invalid " ++ utf8 kind ++ utf8 "number")
  modify fun progress => { progress with isFaulty := true }

/-- Says that a number is too large; the nearest one is taken. -/
def warnOfRange (text : Bytes) : Formatter Unit :=
  warn (utf8 "warning: " ++ text ++ utf8 ": " ++ Errno.ERANGE.wording)

/-- The next argument as a whole number. -/
def integer (signed : Bool) : Formatter Int := do
  match ← next with
  | none => return 0
  | some text =>
    match Printing.quotedByte? text with
    | some byte => return byte.toNat
    | none =>
      let unsigned := text.dropWhile Number.isSpace
      let isNegative := unsigned.head? == some 45
      let unsigned := if isNegative || unsigned.head? == some 43 then unsigned.drop 1 else unsigned
      match Number.natural? none unsigned with
      | none =>
        if !text.isEmpty then fault text
        return 0
      | some (value, rest) =>
        let value : Int := if isNegative then -value else value
        let range := Printing.wordRange
        let least := if signed then Number.smallest else 1 - range
        let largest := if signed then Number.largest else range - 1
        if !rest.isEmpty then fault text
        if value < least || largest < value then
          if rest.isEmpty then warnOfRange text
          return if signed then max least (min largest value) else range - 1
        return if signed then value else value % range

/-- The next argument as a floating-point number. -/
def floating (range : Floating.Range) : Formatter Floating := do
  match ← next with
  | none => return .finite false 0 0
  | some text =>
    match Printing.quotedByte? text with
    | some byte => return .finite false byte.toNat 0
    | none =>
      match Floating.read? range text with
      | some read =>
        if !read.rest.isEmpty then fault text
        return read.value
      | none =>
        if !text.isEmpty then fault text
        return .finite false 0 0

/-- A width or precision, written out or taken from the arguments. -/
def amount (text : Bytes) : Formatter (Option Int × Bytes) := do
  match text with
  | 42 :: rest => return (some (← integer true), rest)
  | _ =>
    let (sign, text) := if text.head? = some 45 then (-1, text.drop 1) else ((1 : Int), text)
    let (value, rest) := Number.digits 10 text
    return (if rest.length = text.length then none else some (sign * value), rest)

/-- The layout of a conversion, and the text from its letter on. -/
def layout (format : Bytes) : Formatter (Layout × Bytes) := do
  let (layout, rest) := Layout.flags format.length {} format
  let (width, rest) ← amount rest
  let layout := match width with
    | some width => layout.withWidth width
    | none => layout
  let (layout, rest) ← match rest with
    | 46 :: rest => do
      let (precision, rest) ← amount rest
      pure (layout.withPrecision (precision.getD 0), rest)
    | _ => pure (layout, rest)
  return (layout, rest.dropWhile (utf8 "hjlLtz").contains)

/-- The format of a time between parentheses, and the text behind it. -/
def timeFormat : (depth : Nat) → (read : Bytes) → Bytes → Option (Bytes × Bytes)
  | _, _, [] => none
  | depth, read, 41 :: rest =>
    if depth = 0 then some (read.reverse, rest) else timeFormat (depth - 1) (41 :: read) rest
  | depth, read, 40 :: rest => timeFormat (depth + 1) (40 :: read) rest
  | depth, read, byte :: rest => timeFormat depth (byte :: read) rest

/-- Why a format is given up. -/
inductive Stop
  /-- An argument asked for the end. -/
  | asked
  | failed (status : Nat)

/-- What describes the zone of times, if that is exported. -/
def exportedZone? (state : State) : Option Bytes :=
  ((state.bindings.lookup Clock.variableName).filter (·.exported)).bind (·.value?)

/-- Prints one conversion, its percent sign already passed. The result is the format behind it, unless
    printing stops there. -/
def conversion (format : Bytes) : Formatter (Except Stop Bytes) := do
  let isStrict := (← getThe State).options.isOn .strict
  let range := if isStrict then Floating.Range.double else .extended
  let (layout, rest) ← layout format
  match rest with
  | [] =>
    warn (utf8 "\x60%" ++ format ++ utf8 "': missing format character")
    return .error (.failed 1)
  | letter :: rest =>
    let goOn (text : Bytes) : Formatter (Except Stop Bytes) := do
      put text
      return .ok rest
    match Char.ofNat letter.toNat with
    | 's' => goOn (layout.text ((← next).getD []))
    | 'c' => goOn (layout.pad [((← next).getD []).headD 0])
    | 'b' =>
      let (text, stops) := Escapes.replaced .argument ((← next).getD [])
      put (layout.text text)
      return if stops then .error .asked else .ok rest
    | 'q' =>
      let wide := (← getThe State).hasWideTexts
      goOn (layout.text (Quoting.backslashed wide ((← next).getD [])))
    | 'Q' =>
      let argument := (← next).getD []
      let argument := (layout.precision.map argument.take).getD argument
      goOn (Layout.pad layout (Quoting.backslashed (← getThe State).hasWideTexts argument))
    | 'd' | 'i' => goOn (layout.integer (← integer true))
    | 'u' | 'o' | 'x' | 'X' => goOn (layout.natural letter (← integer false).toNat)
    | 'a' | 'A' | 'e' | 'E' | 'f' | 'F' | 'g' | 'G' =>
      goOn (layout.floating range letter (← floating range))
    | 'n' =>
      let name := (← next).getD []
      if name.isEmpty then return .ok rest
      let length := (← get).length
      if ← Inputs.put name (Bytes.decimal length) then return .ok rest
      else return .error (.failed 1)
    | '(' =>
      match timeFormat 0 [] rest with
      | some (timeFormat, 84 :: rest) =>
        let given ← if (← get).arguments.isEmpty then pure (-1) else integer true
        let state ← getThe State
        let seconds := if given = -1 then state.world.now.fdiv Files.partsPerSecond
          else if given = -2 then Host.World.startSecond else given
        let moment := Calendar.Moment.ofSeconds (← Clock.zone (exportedZone? state)) seconds 0
        put (layout.text (moment.shown (if timeFormat.isEmpty then utf8 "%X" else timeFormat)))
        return .ok rest
      | other =>
        let byte := (other.map (·.2)).getD []
        warn (utf8 "warning: \x60" ++ byte.take 1 ++ utf8 "': invalid time format specification")
        put [37]
        return .ok format
    | _ =>
      warn (utf8 "\x60" ++ [letter] ++ utf8 "': invalid format character")
      return .error (.failed 1)

/-- Prints a format once. -/
def once : (bound : Nat) → Bytes → Formatter (Option Stop)
  | 0, _ => return none
  | _, [] => return none
  | bound + 1, 92 :: rest => do
    match Escapes.one .format rest with
    | none => return none
    | some (bytes, rest) =>
      put bytes
      once bound rest
  | bound + 1, 37 :: 37 :: rest => do
    put [37]
    once bound rest
  | bound + 1, 37 :: rest => do
    match ← conversion rest with
    | .ok rest => once bound rest
    | .error stop => return some stop
  | bound + 1, byte :: rest => do
    put [byte]
    once bound rest

/-- Prints a format again and again until the arguments are used up. -/
def all (format : Bytes) : (bound : Nat) → Formatter (Option Stop)
  | 0 => return none
  | bound + 1 => do
    modify fun progress => { progress with usedAny := false, length := 0 }
    match ← once (format.length + 1) format with
    | some stop => return some stop
    | none =>
      let progress ← get
      if progress.usedAny && !progress.arguments.isEmpty then all format bound else return none

/-- Runs `printf`. -/
def printf (arguments : List Bytes) : Action Nat := do
  let read ← Usage.flags "v:" arguments
  let target? := Usage.argument? read 'v'
  match target? with
  | some name =>
    if !Inputs.isReference name then
      Inputs.refuseName name
      return 2
  | none => pure ()
  match read.rest with
  | [] => Usage.refuse
  | format :: arguments =>
    let (stop?, progress) ← (all format (arguments.length + 1)).run { arguments }
    let text := progress.printed.reverse.flatten
    let failed ← match target? with
      | some name => (!·) <$> Inputs.put name (text.takeWhile (· != 0))
      | none =>
        print text
        pure false
    return match stop? with
      | some (.failed status) => status
      | _ => if progress.isFaulty || failed then 1 else 0

end Formats

end CleanLaunch.Shell
