import CleanLaunch.Shell.Builtin.Variables
import CleanLaunch.Shell.Extended.Assigning
import CleanLaunch.Shell.Extended.Usage

/-! The builtins of the extended language that read: `read` and `mapfile` lines of input, `getopts` the
    options among some words. -/

namespace CleanLaunch.Shell

namespace Inputs

open Shell.Action
open Variables (InputLine)

/-- Is a text the name of a variable, or of an element of one? -/
def isReference (text : Bytes) : Bool := Parser.isName (Lists.split text).1

def refuseName (name : Bytes) : Action Unit :=
  warn (utf8 "\x60" ++ name ++ utf8 "': not a valid identifier")

/-- Gives a variable a value; says whether it took it. -/
def put (name value : Bytes) : Action Bool := do
  let (own, subscript?) := Lists.split name
  if !Parser.isName own then
    refuseName name
    return false
  let builtin := (← get).builtin
  modify fun state => { state with builtin := none }
  let failed ← catchFailure
    (Assigning.perform { name := own, subscript?, content := .text value } fun entry => entry)
  modify fun state => { state with builtin }
  return !failed

/-- Gives some variables their values, up to the first that does not take its value. -/
def putAll : List (Bytes × Bytes) → Action Nat
  | [] => return 0
  | (name, value) :: rest => do
    if ← put name value then putAll rest else return 1

/-- Puts a list of values into a variable. -/
def putList (name : Bytes) (values : List Bytes) : Action Nat := do
  if !Parser.isName name then
    refuseName name
    return 1
  let elements := values.map fun value => ({ value } : Assigning.Element)
  let failed ← catchFailure
    (Assigning.perform { name, content := .elements elements } fun entry => entry)
  return if failed then 1 else 0

/-- How a line of input is read. -/
structure Manner where
  /-- The byte that ends it, unless only its length does. -/
  delimiter? : Option UInt8 := some 10
  raw : Bool := false
  /-- The most characters that are read, which may have several bytes each. -/
  most? : Option Nat := none
  wide : Bool := false
  descriptor : Nat := 0

/-- Reads a line of input byte by byte. -/
def line (manner : Manner) : Action InputLine := do
  let start : InputLine × Nat × Nat := ({}, 0, 0)
  let (line, _) ← repeatFrom start fun (line, count, left) => do
    match ← readInput manner.descriptor (some 1) with
    | .ok (byte :: _) =>
      let isEnd := manner.delimiter? = some byte && !line.afterBackslash
      let length := if manner.wide then (Character.lengthFrom byte).getD 1 else 1
      let left := if left = 0 then length - 1 else left - 1
      let counted := if left = 0 then count + 1 else count
      let goesOn := left ≠ 0 || manner.most?.all (counted < ·)
      if isEnd then return ((line, count, 0), false)
      else if byte == 0 then return ((line, count, 0), true)
      else if line.afterBackslash && byte == 10 then return ((line.interrupt [], count, 0), true)
      else if line.afterBackslash then
        return ((line.interrupt [.byte byte true], counted, left), goesOn)
      else if byte == 92 && !manner.raw then
        return (({ line with afterBackslash := true }, count, 0), true)
      else
        return (({ line with read := .byte byte false :: line.read }, counted, left), goesOn)
    | _ => return (({ line with ended := true }, count, 0), false)
  return line

/-- The descriptor that a flag names. A failure has been reported. -/
def descriptor (read : Arguments.Flags) : Action (Option Nat) := do
  match Usage.argument? read 'u' with
  | none => return some 0
  | some text =>
    match Usage.number? text with
    | none =>
      warn (text ++ utf8 ": invalid file descriptor specification")
      return none
    | some value =>
      if 0 ≤ value && (← fileOf? value.toNat).isSome then return some value.toNat
      warn (text ++ utf8 ": invalid file descriptor: " ++ Errno.EBADF.wording)
      return none

/-- Is a text a length of time? -/
def isDuration (text : Bytes) : Bool :=
  let parts := text.splitAt 46
  !text.isEmpty && parts.length ≤ 2 && parts.all (·.all Bytes.isDigit)

/-- The number that a flag has, if it is one that is not negative. The second part is missing if it is
    something else, which has been reported. -/
def count (read : Arguments.Flags) (letter : Char) (problem : String) : Action (Option (Option Nat)) := do
  match Usage.argument? read letter with
  | none => return some none
  | some text =>
    match Usage.number? text with
    | some value =>
      if 0 ≤ value then return some (some value.toNat)
      warn (text ++ utf8 ": " ++ utf8 problem)
      return none
    | none =>
      warn (text ++ utf8 ": " ++ utf8 problem)
      return none

/-- Gives the variables that `read` names what was read of a line. -/
def distribute (read : Arguments.Flags) (isExact : Bool) (line : InputLine) : Action Nat := do
  let separators ← if isExact then pure [] else Expansion.separators
  match Usage.argument? read 'a', read.rest with
  | some name, _ =>
    putList name ((Splitting.splitFields separators line.marks).map Mark.text)
  | none, [] => putAll [(utf8 "REPLY", Mark.text line.marks)]
  | none, names =>
    let fields := if isExact then [line.marks]
      else Splitting.fieldsAtMost (some names.length) separators line.marks
    putAll (names.zipIdx.map fun (name, n) => (name, Mark.text (fields.getD n [])))

/-- Runs `read`. -/
def read (arguments : List Bytes) : Action Nat := do
  let read ← Usage.flags "ersa:d:i:n:p:t:u:N:" arguments
  match Usage.argument? read 't' with
  | some text =>
    if !isDuration text then
      return ← Usage.failing (text ++ utf8 ": invalid timeout specification")
  | none => pure ()
  let isExact := read.has 'N'
  match ← descriptor read, ← count read (if isExact then 'N' else 'n') "invalid number" with
  | some descriptor, some most? =>
    if (Usage.argument? read 't').any fun text => text.all fun byte => byte == 48 || byte == 46 then
      return 0
    match read.rest with
    | name :: _ =>
      if !isReference name then
        refuseName name
        return 1
    | [] => pure ()
    if most? = some 0 then
      if read.has 'a' then return 0 else return ← putAll (read.rest.map fun name => (name, []))
    let delimiter? : Option UInt8 := if isExact then none
      else match Usage.argument? read 'd' with
        | some text => some (text.headD 0)
        | none => some 10
    let wide := (← get).hasWideTexts
    let line ← line { delimiter?, raw := read.has 'r', most?, wide, descriptor }
    let status ← distribute read isExact line
    return if status ≠ 0 || line.ended then 1 else 0
  | _, _ => return 1

/-- Lines in a text, each with what ends it. -/
def linesOf (delimiter : UInt8) : (current : Bytes) → Bytes → List Bytes
  | [], [] => []
  | current, [] => [current.reverse]
  | current, byte :: rest =>
    if byte == delimiter then (byte :: current).reverse :: linesOf delimiter [] rest
    else linesOf delimiter (byte :: current) rest

/-- Reads some lines of input, not more than are asked for. -/
def someLines (descriptor : Nat) (delimiter : UInt8) (most : Nat) : Action (List Bytes) := do
  let (lines, _) ← repeatFrom (([], []) : List Bytes × Bytes) fun (lines, current) => do
    match ← readInput descriptor (some 1) with
    | .ok (byte :: _) =>
      if byte == delimiter then
        let lines := (byte :: current).reverse :: lines
        return ((lines, []), lines.length < most)
      else return ((lines, byte :: current), true)
    | _ => return ((if current.isEmpty then lines else current.reverse :: lines, []), false)
  return lines.reverse

/-- Runs `mapfile`. -/
def mapFile (arguments : List Bytes) : Action Nat := do
  let read ← Usage.flags "d:u:n:O:tC:c:s:" arguments
  if read.has 'C' then leave .abandoned
  match ← descriptor read, ← count read 'n' "invalid line count",
      ← count read 'O' "invalid array origin", ← count read 's' "invalid line count" with
  | some descriptor, some most?, some origin?, some skipped? =>
    let name := read.rest.headD (utf8 "MAPFILE")
    if name.isEmpty then return ← Usage.failing (utf8 "empty array variable name")
    if !Parser.isName name then
      refuseName name
      return 1
    let delimiter := ((Usage.argument? read 'd').map (·.headD 0)).getD 10
    let skipped := skipped?.getD 0
    let lines ← match most?.getD 0 with
      | 0 =>
        match ← readInput descriptor none with
        | .ok content => pure (linesOf delimiter [] content)
        | .error _ => pure []
      | most => someLines descriptor delimiter (skipped + most)
    let stripped (line : Bytes) : Bytes :=
      if read.has 't' && line.getLast? = some delimiter then line.dropLast else line
    let values := (lines.drop skipped).map fun line => (stripped line).filter (· != 0)
    let elements := values.zipIdx.map fun (value, n) =>
      ({ subscript? := some (Bytes.decimal (origin?.getD 0 + n)), value } : Assigning.Element)
    let failed ← catchFailure
      (Assigning.perform { name, appends := origin?.isSome, content := .elements elements }
        fun entry => if Lists.isList entry then entry else Lists.emptied entry)
    return if failed then 1 else 0
  | _, _, _, _ => return 1

/-- What was found among some words. -/
inductive Finding
  | ended
  | unknown (letter : UInt8)
  /-- An option without the argument it needs. -/
  | lacking (letter : UInt8)
  | found (letter : UInt8) (argument : Bytes)

/-- Finds the next option among some words, and tells how far they have been read then. -/
def nextOption (known : Bytes) (words : List Bytes) (progress : OptionProgress) :
    Finding × OptionProgress :=
  let index := max 1 progress.index
  let word := words.getD (index - 1) []
  let start? : Option Nat :=
    match progress.offset.filter (· < word.length) with
    | some offset => some offset
    | none => if word.head? = some 45 && 1 < word.length then some 1 else none
  if words.length < index then (.ended, { index := words.length + 1 })
  else if word = [45, 45] && (progress.offset.filter (· < word.length)).isNone then
    (.ended, { index := index + 1 })
  else match start? with
    | none => (.ended, { index })
    | some offset =>
      let letter := word.getD offset 0
      let rest := word.drop (offset + 1)
      let after : OptionProgress :=
        if rest.isEmpty then { index := index + 1 } else { index, offset := some (offset + 1) }
      match Variables.letterKind known letter with
      | .unknown => (.unknown letter, after)
      | .plain => (.found letter [], after)
      | .withArgument =>
        if !rest.isEmpty then (.found letter rest, { index := index + 1 })
        else match words[index]? with
          | some argument => (.found letter argument, { index := index + 2 })
          | none => (.lacking letter, { index := index + 1 })

/-- Runs `getopts`. -/
def getOptions (arguments : List Bytes) : Action Nat := do
  match (← Usage.flags "" arguments).rest with
  | known :: name :: own =>
    let state ← get
    let words := if own.isEmpty then state.positional else own
    let isQuiet := known.head? = some 58
    let known := if isQuiet then known.drop 1 else known
    let (finding, progress) := nextOption known words state.optionProgress
    Lists.assign (utf8 "OPTIND") (Bytes.decimal progress.index)
    modify fun state => { state with optionProgress := progress }
    let optionArgument := utf8 "OPTARG"
    let forget : Action Unit := modify fun state => { state with
      bindings := Variables.erase state.bindings optionArgument }
    let complainOf (letter : UInt8) (problem : String) : Action Unit := do
      let isSilent := isQuiet || (← valueOf? (utf8 "OPTERR")) = some (utf8 "0")
      if !isSilent then
        printError (state.name ++ utf8 ": " ++ utf8 problem ++ utf8 " -- " ++ [letter, 10])
    let tell (value : Bytes) (argument? : Option Bytes) : Action Nat := do
      match argument? with
      | some argument => Lists.assign optionArgument argument
      | none => forget
      if ← put name value then return 0 else return 1
    match finding with
    | .ended =>
      forget
      let _ ← put name [63]
      return 1
    | .unknown letter =>
      complainOf letter "illegal option"
      tell [63] (if isQuiet then some [letter] else none)
    | .lacking letter =>
      complainOf letter "option requires an argument"
      if isQuiet then tell [58] (some [letter]) else tell [63] none
    | .found letter argument =>
      let isPlain := Variables.letterKind known letter = .plain
      tell [letter] (if isPlain then none else some argument)
  | _ => Usage.refuse

end Inputs

end CleanLaunch.Shell
