import CleanLaunch.Shell.Builtin.All
import CleanLaunch.Shell.Trace

/-! Simple commands.

    The words of a simple command are expanded first, as far as it takes to tell what the command is;
    what it is decides how the others are expanded and how long its assignments last. Then follow its
    redirections, its assignments, and the command itself. -/

namespace CleanLaunch.Shell

open Shell.Action
open Lookup (Found)

namespace SimpleCommand

/-- The words of a command. -/
structure Words where
  /-- All fields, with those that `command` takes. -/
  shown : List Bytes := []
  /-- The fields from the command's name on. -/
  fields : List Bytes := []
  /-- Words that are still to be expanded. -/
  rest : List Word := []
  /-- What the name stands for, if it is a builtin or a function. -/
  found : Found := .nothing
  /-- Is the first name that of a special builtin? Nothing is known without a builtin. -/
  isSpecial : Option Bool := none
  /-- Do assignments only last as long as the command? -/
  isLocal : Bool := false
  /-- Are assignments among the arguments taken as such? -/
  takesAssignments : Bool := false
  functions : Bool := true
  /-- The search path, if it is not the shell's own. -/
  path : Option Bytes := none

/-- Expands words until there are fields. -/
def fill (run : Runner) : List Word → Action (List Bytes × List Word)
  | [] => return ([], [])
  | word :: rest => do
    let fields ← Expansion.fields (Process.substitute run) word
    if fields.isEmpty then fill run rest else return (fields, rest)

/-- Fields of words, unless there are some already. -/
def fillIfEmpty (run : Runner) (fields : List Bytes) (rest : List Word) :
    Action (List Bytes × List Word) := do
  if fields.isEmpty then fill run rest else return (fields, rest)

/-- What comes of the words behind `command`. -/
structure Prefixed where
  /-- Fields that were passed over, and all others so far. -/
  shown : List Bytes
  rest : List Word
  usesDefault : Bool := false
  /-- The fields of the command, unless `command` itself is to run. -/
  fields : Option (List Bytes) := none

/-- Passes over the flags of `command`. -/
def passFlags (run : Runner) : (bound : Nat) → (fields : List Bytes) → Prefixed → Action Prefixed
  | 0, _, read => return read
  | bound + 1, fields, read => do
    let (fields, rest) ← fillIfEmpty run fields read.rest
    let read := { read with rest }
    match fields with
    | [] => return read
    | word :: more =>
      if word = [45, 45] then
        let (more, rest) ← fillIfEmpty run more rest
        return { read with
          shown := read.shown ++ word :: more, rest
          fields := if more.isEmpty then none else some more }
      else match word with
        | 45 :: first :: letters =>
          let usesDefault := read.usesDefault || first == 112
          if (first :: letters).all (· == 112) then
            passFlags run bound more { read with shown := read.shown ++ [word], usesDefault }
          else return { read with shown := read.shown ++ fields, usesDefault }
        | _ => return { read with shown := read.shown ++ fields, fields := some fields }

/-- Finds out what a command is from its first fields. -/
def resolve (run : Runner) : (bound : Nat) → Words → Action Words
  | 0, words => return words
  | bound + 1, words => do
    let name := words.fields.headD []
    let found ← Lookup.find { functions := words.functions, onlyInternal := true } name
    let words := { words with found, isLocal := true }
    match found with
    | .builtin =>
      let isSpecial := Lookup.isSpecial name
      let words := { words with
        takesAssignments := (["export", "readonly", "local"].map utf8).contains name
        isLocal := words.isSpecial.isSome || !isSpecial
        isSpecial := words.isSpecial.or (some isSpecial) }
      if name ≠ utf8 "command" then return words
      let before := words.shown.take (words.shown.length - words.fields.length + 1)
      let read ← passFlags run maxIterations (words.fields.drop 1)
        { shown := before, rest := words.rest }
      let words := { words with
        shown := read.shown, rest := read.rest
        path := if read.usesDefault then some Lookup.defaultPath else words.path }
      match read.fields with
      | some fields => resolve run bound { words with fields, functions := false }
      | none => return { words with fields := read.shown.drop (before.length - 1), functions := true }
    | _ => return words

/-- Expands the words of a command. -/
def expand (run : Runner) (words : List Word) : Action Words := do
  let (fields, rest) ← fill run words
  if fields.isEmpty then return { found := .builtin }
  let words ← resolve run maxIterations { shown := fields, fields, rest }
  let more ← words.rest.mapM fun word =>
    if words.takesAssignments && CommandLine.isAssignment .standard word then
      return [← Expansion.text (Process.substitute run) .assignment word]
    else Expansion.fields (Process.substitute run) word
  return { words with shown := words.shown ++ more.flatten, fields := words.fields ++ more.flatten }

/-- Performs an assignment and gives its text. -/
def assign (run : Runner) (isLocal exported : Bool) (word : Word) : Action Bytes := do
  let text ← Expansion.text (Process.substitute run) .assignment word
  let (name, value?) := Variables.declaration text
  if isLocal then Variables.makeLocal text { exported := true }
  else Variables.change name value? { exported }
  return text

/-- Runs a builtin under its name, and writes what it printed. -/
def runBuiltin (run : Runner) (manner : Manner) (fields : List Bytes) : Action Unit := do
  let before := (← get).builtin
  let name := fields.head?
  modify fun state => { state with builtin := name }
  andFinally (do
    let status ← match name with
      | some name => Builtin.run run manner name (fields.drop 1)
      | none => pure (← get).substitutionStatus
    match ← flush with
    | none => setStatus status
    | some errno =>
      complain (.cannotPrint (name.getD []) errno)
      setStatus (status ||| 1))
    (modify fun state => { state with builtin := before, output := [] })

/-- Runs a function with its arguments. -/
def call (run : Runner) (manner : Manner) (function : Function) (arguments : List Bytes) :
    Action Unit := do
  let before ← get
  set { before with positional := arguments, optionProgress := {}, loopDepth := 0 }
  andFinally (run (.command (some function.body) { tested := manner.tested })) do
    modify fun state => { state with
      positional := before.positional
      optionProgress := before.optionProgress
      loopDepth := before.loopDepth
      skip := match state.skip with
        | .toReturn _ => .nothing
        | other => other }

/-- Have any actions been put on signals? -/
def hasTraps (state : State) : Bool := state.traps.any (!·.2.isEmpty)

/-- Runs a command whose words are known. -/
def dispatch (run : Runner) (manner : Manner) (words : Words) : Action Unit := do
  let isBuiltin := match words.found with
    | .builtin => true
    | _ => false
  let query : Lookup.Query := { path := words.path, functions := words.functions, reports := true }
  let found ← if isBuiltin then pure words.found else Lookup.find query (words.fields.headD [])
  match found with
  | .nothing =>
    setStatus 127
    if words.isSpecial = some true then leave .failed
  | .file index =>
    let path := words.path.getD (← Lookup.searchPath)
    if manner.last && !hasTraps (← get) then
      Process.replace run path (index.getD 0) words.fields
    else Process.launch run path (index.getD 0) words.fields
  | .builtin =>
    try runBuiltin run manner words.fields catch
      | .failed => if words.isSpecial = some true then leave .failed
      | escape => throw escape
  | .function function => call run manner function (words.fields.drop 1)

/-- Runs a simple command. -/
def run (run : Runner) (manner : Manner) (assignments words : List Word)
    (redirects : List Redirect) : Action Unit := do
  modify fun state => { state with substitutionStatus := 0 }
  let words ← expand run words
  let isExec := words.fields.head? = some (utf8 "exec") && words.isSpecial.isSome
  let levels := (← get).locals.length
  if words.isLocal then Variables.pushLocals
  modify fun state => { state with traceDescriptor := 2 }
  let openings ← Opening.ofRedirects (Process.substitute run) redirects
  let tables := (← get).redirections.length
  Opening.pushTable openings
  let hasFailed ← catchFailure (Opening.performAll (Process.substitute run) true openings)
  if hasFailed then
    setStatus 2
    if words.isSpecial = some true then leave .failed
  else
    match ((← get).redirections.headD []).lookup 2, openings with
    | some (.moved number), _ :: _ =>
      modify fun state => { state with traceDescriptor := number }
    | _, _ => pure ()
    let exported := isExec && 1 < words.fields.length
    let texts ← assignments.mapM (assign run words.isLocal exported)
    Trace.display run (Bytes.joinWith [32] (texts ++ words.shown))
    dispatch run manner words
  if !openings.isEmpty then Opening.popTable isExec
  Opening.unwind tables
  Variables.popLocals (← get).locals.length levels

end SimpleCommand

end CleanLaunch.Shell
