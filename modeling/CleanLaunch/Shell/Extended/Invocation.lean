import CleanLaunch.Shell.Extended.Builtins
import CleanLaunch.Shell.Extended.Redirecting

/-! Simple commands of the extended language.

    The words of a command are expanded first, then its assignments are performed, then its redirections.
    Assignments before a command last as long as the command; only those before a special builtin of a strict
    shell stay. A file runs in a child, which also performs the redirections. -/

namespace CleanLaunch.Shell

namespace Invocation

open Shell.Action
open CommandLine (Assignment)
open Declarations (Argument)
open Finding (Found)

/-- How the assignments among the arguments of a command are taken. -/
inductive Taking
  /-- As words like others. -/
  | words
  /-- As texts that are not cut into fields. -/
  | texts
  /-- As assignments. -/
  | assignments

/-- How the command that some words begin with takes assignments. A strict shell looks behind `command`. -/
def taking (isStrict : Bool) : List Word → Taking
  | [] => .words
  | word :: rest =>
    match Parser.bareText word with
    | none => .words
    | some name =>
      if (["declare", "export", "local", "readonly", "typeset"].map utf8).contains name then .assignments
      else if name = utf8 "alias" then .texts
      else if isStrict && name = utf8 "command" then taking isStrict rest
      else .words

/-- Expands the words of a command. -/
def expand (run : Runner) (words : List Word) : Action (List Argument) := do
  let substitute := Process.substitute run
  let taking := taking ((← get).options.isOn .strict) words
  let arguments ← words.mapM fun word => do
    match taking, Assignment.ofWord? .extended word with
    | .assignments, some assignment => return [.assignment (← Assigning.expand substitute assignment)]
    | .texts, some _ => return [.word (← Expansion.text substitute .assignment word)]
    | _, _ => return (← Expansion.fields substitute word).map .word
  return arguments.flatten

/-- Expands assignments one after another, shows each, and hands it on. -/
def assignAll (run : Runner) (perform : Assigning.Given → Action Unit) (assignments : List Word) :
    Action Unit := do
  for word in assignments do
    match Assignment.ofWord? .extended word with
    | some assignment =>
      let given ← Assigning.expand (Process.substitute run) assignment
      Trace.display run (given.shown (← get).hasWideTexts)
      perform given
    | none => pure ()

/-- Takes note of the status of a command, and of its last word. -/
def record (lastWord : Bytes) : Action Unit :=
  modify fun state => { state with
    extras := { state.extras with stageStatuses := [state.status], lastWord } }

/-- Runs a command that has no words. -/
def runWithoutWords (run : Runner) (assignments : List Word) (redirects : List Redirect) :
    Action Unit := do
  assignAll run (fun given => Assigning.perform given fun entry => entry) assignments
  let finish : Action Unit := modify fun state => { state with status := state.substitutionStatus }
  let _ ← Redirecting.within (Process.substitute run) false redirects finish
  record []

/-- Performs the assignments before a command. One that is refused gives up the command in a strict shell,
    and the shell if the command is special. -/
def assignBefore (run : Runner) (isSpecial : Bool) (assignments : List Word) : Action Unit := do
  if !isSpecial then Variables.pushLocals
  let perform (given : Assigning.Given) : Action Unit := do
    let failed ← catchFailure do
      if !isSpecial then Assigning.keep given.name
      Assigning.perform given fun entry => { entry with exported := true }
    if failed && (← get).options.isOn .strict then
      if !isSpecial then setStatus 1
      leave .failed
  assignAll run perform assignments

/-- Shows the words of a command. -/
def showWords (run : Runner) (arguments : List Argument) : Action Unit := do
  for argument in arguments do
    match argument with
    | .assignment { content := .elements elements, name, .. } =>
      Trace.display run (name ++ 61 :: Assigning.Given.listText Quoting.single elements)
    | _ => pure ()
  let wide := (← get).hasWideTexts
  let shown (argument : Argument) : Bytes :=
    match argument with
    | .word text => Quoting.word wide text
    | .assignment given => given.shownArgument wide
  Trace.display run (Bytes.joinWith [32] (arguments.map shown))

/-- Shows the assignments that builtins perform as such. -/
def showAssignments (run : Runner) (name : Bytes) (arguments : List Argument) : Action Unit := do
  if name = utf8 "export" || name = utf8 "readonly" then
    for argument in arguments do
      match argument with
      | .assignment { content := .elements _, .. } | .word _ => pure ()
      | .assignment given => Trace.display run (given.shown (← get).hasWideTexts)

/-- How a command is run. -/
structure Mode where
  manner : Manner
  functions : Bool := true
  /-- The search path, if it is not the shell's own. -/
  path? : Option Bytes := none
  /-- Redirections that a child performs for a file. -/
  redirects : List Redirect := []

/-- Where standard programs are. -/
def standardPath : Bytes := utf8 "/bin:/usr/bin"

/-- The function that runs for a command that is not found. -/
def handlerName : Bytes := utf8 "command_not_found_handle"

/-- Runs a function with its arguments. The actions on events stay outside unless they are inherited. -/
def call (run : Runner) (manner : Manner) (function : Function) (arguments : List Bytes) :
    Action Unit := do
  let before ← get
  let isOutside (event : Nat) : Bool := Signal.maxNumber < event && !isInherited before.options event
  let kept := before.traps.filter fun entry => isOutside entry.1
  Variables.pushLocals
  modify fun state => { state with
    positional := arguments
    loopDepth := 0
    traps := state.traps.filter fun entry => !isOutside entry.1
    extras := { state.extras with
      frames := ⟨function.name, before.line, function.origin, false⟩ :: state.extras.frames } }
  let body : Action Unit := do
    Task.onEvent run beforeCommand
    run (.command (some function.body) { tested := manner.tested })
    modify fun state => { state with skip := match state.skip with
      | .toReturn _ => .nothing
      | other => other }
    Task.onEvent run afterReturn
  andFinally body do
    modify fun state => { state with
      positional := before.positional
      loopDepth := before.loopDepth
      line := before.line
      traps := state.traps ++ kept.filter fun entry => !state.traps.any (·.1 = entry.1)
      extras := { state.extras with frames := before.extras.frames } }
    Variables.popLocals (← get).locals.length before.locals.length

/-- Runs a file, or says that there is none. -/
def runFile (run : Runner) (mode : Mode) (file? : Option Bytes) (words : List Bytes) : Action Unit := do
  let state ← get
  let inside : Action Unit := do
    Redirecting.insist (Process.substitute run) mode.redirects
    match file?, state.functions.find? (·.name = handlerName) with
    | none, some handler => call run {} handler words
    | _, _ => Finding.replace run file? words
  if mode.manner.last && state.traps.isEmpty && state.extras.borrowed.isEmpty then
    if !state.extras.isStage && file?.isSome then Finding.lowerLevel
    inside
    leave .ended
  else
    let (_, ending) ← inChild inside
    setStatus ending.status
    Job.settle

/-- Runs a builtin under its name, and writes what it printed. An error of a special builtin ends a strict
    shell; but if it was only used wrongly, not where its result is looked at. -/
def runBuiltin (isSpecial tested : Bool) (name : Bytes) (action : Action Nat) : Action Unit := do
  let before := (← get).builtin
  modify fun state => { state with builtin := some name }
  let body : Action Unit := do
    let status ← action
    match ← flush with
    | none => setStatus status
    | some errno =>
      complain (.cannotPrint name errno)
      setStatus (if status = 0 then 1 else status)
  let finish : Action Unit := modify fun state => { state with builtin := before, output := [] }
  try andFinally body finish catch
    | .failed =>
      let status := (← get).status
      if status = 127 then setStatus 1
      if isSpecial && !(tested && status = 2) then leave .ended
    | escape => throw escape

/-- The arguments that are left when only so many words are. -/
def dropTo (arguments : List Argument) (rest : List Bytes) : List Argument :=
  arguments.drop (arguments.length - rest.length)

mutual

/-- Runs the builtin `command`: what its arguments ask for, without functions. -/
def runPlain (run : Runner) (mode : Mode) : (bound : Nat) → List Argument → Action Nat
  | 0, _ => leave .abandoned
  | bound + 1, arguments => do
    let read ← Usage.flags "pvV" (arguments.map Argument.text)
    let path? := if read.has 'p' then some standardPath else mode.path?
    if read.has 'v' || read.has 'V' then
      let isWordy := (read.flags.find? fun flag => flag.1 != 112).any (·.1 == 86)
      Inquiry.describeCommands (read.has 'p') (if isWordy then .words else .reusable) read.rest
    else if read.rest.isEmpty then return 0
    else
      modify fun state => { state with builtin := none }
      runFound run { mode with functions := false, path? } bound (dropTo arguments read.rest)
      return (← get).status

/-- Runs the builtin that some arguments begin with. -/
def runBuiltinNamed (run : Runner) (mode : Mode) : (bound : Nat) → List Argument → Action Nat
  | 0, _ => leave .abandoned
  | bound + 1, arguments => do
    let words := arguments.map Argument.text
    let words := (← Usage.flags "" words).rest
    match words with
    | [] => return 0
    | name :: _ =>
      if !Finding.isBuiltin (← get) name then
        return ← Usage.failing (name ++ utf8 ": not a shell builtin")
      modify fun state => { state with builtin := some name }
      perform run mode bound name ((dropTo arguments words).drop 1)

/-- Runs a builtin by its name. -/
def perform (run : Runner) (mode : Mode) : (bound : Nat) → Bytes → List Argument → Action Nat
  | 0, _, _ => leave .abandoned
  | bound + 1, name, arguments =>
    if name = utf8 "command" then runPlain run mode bound arguments
    else if name = utf8 "builtin" then runBuiltinNamed run mode bound arguments
    else do
      showAssignments run name arguments
      Builtins.run run mode.manner name arguments

/-- Finds the command that some arguments begin with, and runs it. -/
def runFound (run : Runner) (mode : Mode) : (bound : Nat) → List Argument → Action Unit
  | 0, _ => leave .abandoned
  | bound + 1, arguments => do
    let name := (arguments.head?.map Argument.text).getD []
    let words := arguments.map Argument.text
    let isSpecial := mode.functions && Finding.isSpecial (← get) name
    match ← Finding.find mode.path? mode.functions name with
    | .nothing => runFile run mode none words
    | .file path => runFile run mode (some path) words
    | .function function => call run mode.manner function (words.drop 1)
    | .builtin => runBuiltin isSpecial mode.manner.tested name (perform run mode bound name (arguments.drop 1))

end

/-- Deeper prefixes of commands than any command has. -/
def maxPrefixes : Nat := 1000

/-- Is the command `exec`, perhaps behind `command`? Its redirections stay. -/
def isExec : List Bytes → Bool
  | [] => false
  | name :: rest =>
    name = utf8 "exec" || (name = utf8 "command" && isExec rest) || (name = utf8 "builtin" && isExec rest)

/-- Runs a command whose words are known. -/
def runWords (run : Runner) (manner : Manner) (arguments : List Argument) (redirects : List Redirect) :
    Action Unit := do
  let words := arguments.map Argument.text
  let name := words.headD []
  let state ← get
  let isInternal := state.functions.any (·.name = name) || Finding.isBuiltin state name
  if !isInternal then runFound run { manner, redirects } maxPrefixes arguments
  else
    let inside := runFound run { manner } maxPrefixes arguments
    let failed ← Redirecting.within (Process.substitute run) (isExec words) redirects inside
    if failed && Finding.isSpecial state name && Finding.isBuiltin state name then leave .ended

/-- Runs a simple command. -/
def run (run : Runner) (manner : Manner) (assignments words : List Word) (redirects : List Redirect) :
    Action Unit := do
  Task.onEvent run beforeCommand
  modify fun state => { state with substitutionStatus := 0, traceDescriptor := 2 }
  let before ← get
  let arguments ← expand run words
  match arguments with
  | [] => runWithoutWords run assignments redirects
  | first :: _ =>
    let lastWord := (arguments.getLast?.map Argument.text).getD []
    let isSpecial := Finding.isSpecial before first.text && Finding.isBuiltin before first.text
    if !assignments.isEmpty then assignBefore run isSpecial assignments
    showWords run arguments
    runWords run manner arguments redirects
    record lastWord
  Process.giveBack run before.extras.borrowed.length
  Variables.popLocals (← get).locals.length before.locals.length

end Invocation

end CleanLaunch.Shell
