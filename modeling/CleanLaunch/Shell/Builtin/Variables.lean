import CleanLaunch.Shell.Builtin.Arguments
import CleanLaunch.Shell.Expansion

/-! The builtins that set variables, parameters and switches. -/

namespace CleanLaunch.Shell

namespace Variables

open Shell.Action

/-- Runs `export` or `readonly`: marks variables, giving them values where asked. -/
def declare (title : Bytes) (isMarked : Variable → Bool) (marks : Marks) (arguments : List Bytes) :
    Action Nat := do
  let (flag?, words) ← Arguments.firstFlag "p" arguments
  if words.isEmpty || flag?.isSome then
    print (listing title isMarked (← get).bindings)
  else
    for word in words do
      let (name, value?) := declaration word
      requireName name
      match value?, (← get).bindings.lookup name with
      | none, some old =>
        modify fun state => { state with
          bindings := put state.bindings name { old with
            exported := old.exported || marks.exported
            readOnly := old.readOnly || marks.readOnly } }
      | _, _ => change name value? marks
  return 0

def markExported (arguments : List Bytes) : Action Nat :=
  declare (utf8 "export") (·.exported) { exported := true } arguments

def markReadOnly (arguments : List Bytes) : Action Nat :=
  declare (utf8 "readonly") (·.readOnly) { readOnly := true } arguments

/-- Runs `local`: keeps variables for the function that runs. -/
def keepLocal (arguments : List Bytes) : Action Nat := do
  if (← get).locals.isEmpty then fail (utf8 "not in a function")
  for argument in arguments do makeLocal argument {}
  return 0

def unsetAll (arguments : List Bytes) : Action Nat := do
  let read ← Arguments.flags "vf" arguments
  let kind := read.flags.head?.map (·.1)
  for name in read.rest do
    if kind = some 102 then
      modify fun state => { state with functions := state.functions.filter (·.name ≠ name) }
    else unset (declaration name).1
  return 0

/-- Runs `set`: changes switches and positional parameters. -/
def setSwitches (arguments : List Bytes) : Action Nat := do
  if arguments.isEmpty then
    print (listing [] (·.value?.isSome) (← get).bindings)
    return 0
  let state ← get
  let start : Options.Reading := { options := state.options, rest := arguments }
  match Options.read false (arguments.length + 1) start with
  | .error refusal =>
    print refusal.before.listings
    modify fun state => { state with options := refusal.before.options }
    fail refusal.problem.text
  | .ok reading =>
    print reading.listings
    let isNew := reading.ended || !reading.rest.isEmpty
    if reading.options.isOn .monitor && !state.options.isOn .monitor then
      complain .noTerminal
    modify fun state => { state with
      options := reading.options.put false .monitor
      positional := if isNew then reading.rest else state.positional
      optionProgress := if isNew then {} else state.optionProgress }
    return 0

def shift (arguments : List Bytes) : Action Nat := do
  let count ← match arguments with
    | [] => pure 1
    | text :: _ => number text
  let state ← get
  if state.positional.length < count then fail (utf8 "can't shift that many")
  set { state with positional := state.positional.drop count, optionProgress := {} }
  return 0

/-- A line of input that is read byte by byte. -/
structure InputLine where
  /-- What has been read, the last mark first. Bytes behind a backslash are outside of all regions, so
      that separators among them divide nothing. -/
  read : List Mark := [.begins false]
  afterBackslash : Bool := false
  isOver : Bool := false
  /-- Did the input end before the line did? -/
  ended : Bool := false

namespace InputLine

/-- Ends the region of what was read and begins another one, with some marks between them. -/
def interrupt (line : InputLine) (marks : List Mark) : InputLine :=
  { line with read := .begins false :: marks ++ .ends :: line.read, afterBackslash := false }

/-- A line with one more byte. A backslash quotes the byte after it, or joins two lines, unless the line
    is read as it is. -/
def add (raw : Bool) (line : InputLine) (byte : UInt8) : InputLine :=
  if byte == 0 then line
  else if line.afterBackslash then
    line.interrupt (if byte == 10 then [] else [.byte byte true])
  else if byte == 92 && !raw then { line with afterBackslash := true }
  else if byte == 10 then { line with isOver := true }
  else { line with read := .byte byte false :: line.read }

def marks (line : InputLine) : List Mark := (Mark.ends :: line.read).reverse

end InputLine

/-- Reads a line of input. -/
def nextLine (raw : Bool) : Action InputLine :=
  repeatFrom {} fun line => do
    match ← readInput 0 (some 1) with
    | .ok (byte :: _) =>
      let line := line.add raw byte
      return (line, !line.isOver)
    | _ => return ({ line with ended := true }, false)

/-- Runs `read`: sets variables to the parts of one line of input. -/
def readNames (arguments : List Bytes) : Action Nat := do
  let flags ← Arguments.flags "p:r" arguments
  let names := flags.rest
  if names.isEmpty then fail (utf8 "arg count")
  let line ← nextLine (flags.has 'r')
  let fields := Splitting.fieldsAtMost (some names.length) (← Expansion.separators) line.marks
  for (name, n) in names.zipIdx do
    assign name (Mark.text (fields.getD n []))
  return if line.ended then 1 else 0

/-- What an option letter is among those that are known, behind an optional colon. -/
inductive Letter
  | unknown | plain | withArgument
  deriving DecidableEq

def letterKind (known : Bytes) (letter : UInt8) : Letter :=
  match if letter == 58 then [] else known.dropWhile (· != letter) with
  | [] => .unknown
  | _ :: 58 :: _ => .withArgument
  | _ => .plain

/-- Runs `getopts`: sets a variable to the next option among some words. -/
def getOptions (arguments : List Bytes) : Action Nat := do
  match arguments with
  | known :: name :: own =>
    let state ← get
    let words := if own.isEmpty then state.positional else own
    let isQuiet := known.head? == some 58
    let known := if isQuiet then known.drop 1 else known
    let progress := state.optionProgress
    let start := if words.length + 1 < progress.index then { index := 1 } else progress
    let word := words.getD (start.index - 2) []
    let inWord := if 1 < start.index then start.offset.filter (· < word.length) else none
    let current := words.getD (start.index - 1) []
    let finish (value : Bytes) (progress : OptionProgress) (status : Nat) : Action Nat := do
      Variables.assign (utf8 "OPTIND") (Bytes.decimal progress.index)
      modify fun state => { state with optionProgress := {} }
      Variables.assign name value
      modify fun state => { state with optionProgress := progress }
      return status
    let atEnd (index : Nat) : Action Nat := finish [63] { index } 1
    let option (index offset : Nat) (word : Bytes) : Action Nat := do
      let letter := word.getD offset 0
      let rest := word.drop (offset + 1)
      let goOn : OptionProgress :=
        { index, offset := if rest.isEmpty then none else some (offset + 1) }
      match letterKind known letter with
      | .unknown =>
        if isQuiet then Variables.assign (utf8 "OPTARG") [letter]
        else
          printError (utf8 "Illegal option -" ++ [letter, 10])
          Variables.unset (utf8 "OPTARG")
        finish [63] goOn 0
      | .plain =>
        Variables.assign (utf8 "OPTARG") []
        finish [letter] goOn 0
      | .withArgument =>
        if !rest.isEmpty then
          Variables.assign (utf8 "OPTARG") rest
          finish [letter] { index } 0
        else match words[index - 1]? with
          | some argument =>
            Variables.assign (utf8 "OPTARG") argument
            finish [letter] { index := index + 1 } 0
          | none =>
            if isQuiet then
              Variables.assign (utf8 "OPTARG") [letter]
              finish [58] { index } 0
            else
              printError (utf8 "No arg for -" ++ letter :: utf8 " option\n")
              Variables.unset (utf8 "OPTARG")
              finish [63] { index } 0
    match inWord with
    | some offset => option start.index offset word
    | none =>
      match current with
      | [45, 45] => atEnd (start.index + 1)
      | 45 :: _ :: _ => option (start.index + 1) 1 current
      | _ => atEnd start.index
  | _ => fail (utf8 "Usage: getopts optstring var [arg...]")

end Variables

end CleanLaunch.Shell
