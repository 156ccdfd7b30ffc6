import CleanLaunch.Shell.CommandLine
import CleanLaunch.Shell.Task

/-! Running the commands of a text.

    A text is read line by line, and each line is run before the next one is read. In the extended language
    an error may give up the rest of a line, with everything that has begun on it, and go on with the
    next. -/

namespace CleanLaunch.Shell

open Shell.Action

namespace Texts

/-- Reading and running commands line by line. -/
structure Progress where
  source : Source
  /-- Has a command been run? -/
  ranAny : Bool := false

/-- The lines of a text that a reading has passed. -/
def passed (before after : Source) : Bytes :=
  before.rest.take (before.rest.length - after.rest.length)

/-- The line of a source with a certain number. -/
def lineText (source : Source) (line : Nat) : Bytes :=
  ((source.rest.splitAt 10)[line - source.line]?).getD []

/-- What messages of the extended language name as the place of a text. -/
def placeOf (state : State) (origin : Origin) : Bytes :=
  if origin = .substituted then state.name ++ utf8 ": command substitution" else
  state.place ++ utf8 (match origin with
    | .argument => ": -c"
    | .evaluated => ": eval"
    | .action | .event => ": trap"
    | .lastAction => ": exit trap"
    | .file | .substituted => "")

/-- Is a text the one that the shell was started for? -/
def isMain (state : State) (origin : Origin) : Bool :=
  origin = .argument || (origin = .file && state.extras.frames.isEmpty)

/-- Reports the here-documents that the end of a text has cut off. -/
def report (remarks : List Remark) : Action Unit := do
  let state ← get
  if state.dialect = .extended then
    for remark in remarks.reverse do
      printError (state.place ++ utf8 ": line " ++ Bytes.decimal remark.line ++
        utf8 ": warning: here-document at line " ++ Bytes.decimal remark.start ++
        utf8 " delimited by end-of-file (wanted \x60" ++ remark.delimiter ++ utf8 "')\n")

/-- The line of a text where a reading has stopped, how far it was read, and whether all of it was. -/
def stoppedLine (text rest : Bytes) : Bytes × Nat × Bool :=
  let read := text.take (text.length - rest.length)
  let isWhole := read.getLast? == some 10
  let inner := if isWhole then read.dropLast else read
  let start := inner.length - (inner.reverse.takeWhile (· != 10)).length
  let line := (text.drop start).takeWhile (· != 10)
  (line, read.length - start, isWhole)

def isBlank (byte : UInt8) : Bool := byte == 32 || byte == 9 || byte == 10

/-- The word of a line that is shown as the place of an error: the one that ends behind a number of bytes. -/
def wordBefore (line : Bytes) (position : Nat) : Bytes :=
  let whole := line ++ [10]
  let last := min position line.length
  let ended := ((whole.take (last + 1)).reverse.dropWhile isBlank).reverse
  if ended.length ≤ 1 then whole.take 1
  else
    let word := (ended.reverse.takeWhile fun byte => !(utf8 " \n\t;|&").contains byte).reverse
    let start := ended.length - word.length
    if start = 0 then ended
    else if isBlank (ended.getD (start - 1) 0) then word
    else ended.drop (start - 1)

/-- What the extended language says of an error: lines to print, each with the number of the line it names. -/
def complaints (source : Source) (error : GrammarError) : List (Nat × Bytes) :=
  let (line, position, isWhole) := stoppedLine source.rest error.rest
  let near := if isWhole then error.line - 1 else error.line
  let offending (text : Bytes) : Bytes := utf8 "\x60" ++ text ++ utf8 "'"
  match error.fault with
  | .unsuited said true => said ++ [(error.line, utf8 "syntax error: unexpected end of file")]
  | .unsuited said false =>
    said ++ [(near, utf8 "syntax error near \x60" ++ wordBefore line position ++ utf8 "'"),
      (near, offending line)]
  | .badCounting text _ =>
    [(error.line, error.fault.extendedText), (error.line, utf8 "syntax error: \x60((" ++ text ++ utf8 "))'")]
  | .openGroup start =>
    [(start, GrammarFault.extendedText (.openQuotation 41)), (error.line, error.fault.extendedText)]
  | fault =>
    let isNewline := match fault with
      | .unexpected token _ _ => token.isNewline
      | _ => false
    let number := if isNewline then error.line - 1 else error.line
    (number, fault.extendedText) ::
      if fault.showsLine then [(number, offending (lineText source number))] else []

/-- Reports that a text cannot be read. The extended language shows the line where that is. What is read
    for a builtin or an action is only given up; but a strict shell ends when such a text begins with what
    cannot be read. -/
def refuse (origin : Origin) (progress : Progress) (source : Source) (error : GrammarError) :
    Action Unit := do
  match source.dialect with
  | .standard => fail (utf8 "Syntax error: " ++ error.fault.text)
  | .extended =>
    report error.remarks
    let said := complaints source error
    let line := (said.getLast?.map (·.1)).getD error.line
    modify fun state => { state with line }
    let state ← get
    for (line, text) in said do
      printError (placeOf state origin ++ utf8 ": line " ++ Bytes.decimal line ++ utf8 ": " ++ text ++ [10])
    setStatus (if error.isInner then failureStatus state false else 2)
    let isToken := match error.fault with
      | .unexpected .. | .unsuited .. => true
      | _ => false
    let endsStrict := (origin = .evaluated || origin = .file) && isToken && !progress.ranAny &&
      state.options.isOn .strict
    if isMain state origin || endsStrict then leave .ended

/-- Is a command a simple one without redirections? -/
def isPlain : Command → Bool
  | .simple _ _ _ redirects => redirects.isEmpty
  | _ => false

/-- May the last line of an argument be run in place of the shell? -/
def isReplaceable : Option Command → Bool
  | some (.both _ last) | some (.either _ last) | some (.sequence _ last) => isPlain last
  | some command => isPlain command
  | none => false

/-- Runs the commands of a line. In the extended language, an error that does not end the shell gives up
    the line: what has begun on it is undone. -/
def runLine (run : Runner) (manner : Manner) (command : Option Command) : Action Unit := do
  let before ← get
  try run (.command command manner) catch
    | .failed =>
      let state ← get
      if state.dialect = .standard then leave .failed
      if state.pid ≠ state.shellPid || state.status = 127 then leave .ended
      Opening.unwind before.redirections.length
      Variables.popLocals state.locals.length before.locals.length
      modify fun state => { state with
        loopDepth := before.loopDepth, skip := .nothing, builtin := before.builtin
        extras := { state.extras with frames := before.extras.frames } }
    | escape => throw escape

/-- Reads the next line of a text and runs it. `shows` says that the lines are shown if the shell is to do
    so. -/
def nextLine (run : Runner) (origin : Origin) (manner : Manner) (progress : Progress) :
    Action (Progress × Bool) := do
  let state ← get
  let isExtended := state.dialect = .extended
  let usesAliases := !isExtended || state.extras.switches.contains (utf8 "expand_aliases")
  let source := { progress.source with
    dialect := state.dialect, aliases := if usesAliases then state.aliases else []
    isStrict := isExtended && state.options.isOn .strict
    hasGroups := isExtended && state.extras.switches.contains (utf8 "extglob")
    texts := [], remarks := [], nextText := state.hereTexts.length }
  let showLines (text : Bytes) : Action Unit := do
    if (isExtended || origin = .file) && state.options.isOn .verbose then printError text
  match CommandLine.next? source with
  | .error error =>
    let lines := error.line - source.line
    showLines (Bytes.joinWith [10] ((source.rest.splitAt 10).take (lines + 1)))
    modify fun state => { state with line := error.line }
    refuse origin progress source error
    return ({ progress with ranAny := true }, false)
  | .ok none =>
    showLines source.rest
    modify fun state => { state with atTextEnd := true }
    return (progress, false)
  | .ok (some line) =>
    showLines (passed source line.after)
    report line.after.remarks
    modify fun state => { state with
      atTextEnd := line.isLast, hereTexts := state.hereTexts ++ line.after.texts.reverse }
    let isLast := manner.last && line.after.rest.isEmpty && isReplaceable line.command
    runLine run { manner with last := isLast } line.command
    let after := { progress with
      source := line.after, ranAny := progress.ranAny || line.command.isSome }
    return (after, (← get).skip = .nothing)

/-- A text as it is read: in the extended language, every line has an end. -/
def completed (dialect : Dialect) (text : Bytes) : Bytes :=
  match dialect, text.getLast? with
  | .extended, some last => if last == 10 || last == 92 then text else text ++ [10]
  | _, _ => text

/-- Runs the commands of a text. If there are none, the status is 0. -/
def runAll (run : Runner) (origin : Origin) (manner : Manner) (text : Bytes) : Action Unit := do
  let state ← get
  let text := completed state.dialect text
  let goesOn := state.dialect = .extended && (origin = .evaluated || origin = .event || origin = .substituted)
  let source : Source := { rest := text, line := if goesOn then max 1 state.line else 1 }
  let progress ← repeatFrom { source } (nextLine run origin manner)
  if !progress.ranAny then setStatus 0

/-- Runs the commands of a file. A `return` ends it. -/
def runFile (run : Runner) (content : Bytes) : Action Unit := do
  runAll run .file {} content
  modify fun state => { state with skip := match state.skip with
    | .toReturn _ => .nothing
    | other => other }

end Texts

end CleanLaunch.Shell
