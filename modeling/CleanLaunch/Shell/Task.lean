import CleanLaunch.Files.Image
import CleanLaunch.Shell.Job
import CleanLaunch.Shell.Redirection

/-! What a process can be asked to run, and what happens between commands and at the end.

    The functions that run things are given a `Runner` for what is inside of them, so that they are not
    recursive themselves. -/

namespace CleanLaunch.Shell

open Shell.Action
open Files (Image)

/-- How a command is run. -/
structure Manner where
  /-- Is its result looked at, so that a failure is no error? -/
  tested : Bool := false
  /-- Does the process end with it? -/
  last : Bool := false

/-- Where a text of commands comes from. -/
inductive Origin
  /-- An argument of the shell. -/
  | argument
  /-- The arguments of a builtin. -/
  | evaluated
  /-- An action on a signal, on the end of the process, or on something else that happens. -/
  | action
  | lastAction
  | event
  /-- A file, or what is read as one. -/
  | file
  /-- A substitution that is read when it runs. -/
  | substituted
  deriving DecidableEq

/-- Something to run. -/
inductive Task
  | command (command : Option Command) (manner : Manner)
  /-- Commands in a text. -/
  | text (text : Bytes) (origin : Origin) (manner : Manner)
  /-- Commands in a file, of which this is the content. -/
  | file (content : Bytes)
  /-- A program in place of the process. -/
  | program (image : Image)

/-- Runs a task; the status is that of the task then. -/
abbrev Runner := Task → Action Unit

namespace Task

/-- Puts what belongs to running commands back to nothing. A status that was held counts after an
    `exit` and where commands were passed over to the end. -/
def reset (afterExit : Bool) : Action Unit := do
  let state ← get
  let status := match state.heldStatus with
    | some held => if afterExit || state.skip = .toReturn false then held else state.status
    | none => state.status
  set { state with
    status, heldStatus := none, skip := .nothing, loopDepth := 0, isTracing := false }
  Opening.unwind 0
  Variables.popLocals state.locals.length 0

/-- Runs the last part of a process. What it leaves early ends there. -/
def attempt (action afterwards : Action Unit) : Action Unit := do
  try
    action
    afterwards
  catch
    | .exiting => reset true
    | .failed | .ended => reset false
    | escape => throw escape

/-- Runs a shell's commands to its end, and the action that is put on the end. -/
def conclude (run : Runner) (action : Action Unit) : Action Unit := do
  attempt action (pure ())
  let state ← get
  set { state with heldStatus := some state.status }
  match state.traps.lookup 0 with
  | some commands =>
    modify fun state => { state with
      traps := state.traps.filter (·.1 ≠ 0), skip := .nothing }
    attempt (run (.text commands .lastAction {})) do
      modify fun state => { state with skip := .toReturn false }
      reset false
  | none => reset false
  let _ ← flush

/-- Runs the actions on signals that have arrived. The status stays as it is, unless an action ends a
    function with another one. -/
def takeSignals (run : Runner) : Action Unit := do
  let signals ← arrived
  if !signals.isEmpty then
    let held := (← get).heldStatus
    let status := held.getD (← get).status
    modify fun state => { state with heldStatus := some status }
    for signal in signals do
      let state ← get
      if state.skip = .nothing then
        settle signal
        run (.text ((state.traps.lookup signal).getD []) .action {})
        if (← get).skip ≠ .toReturn true then setStatus status
    modify fun state => { state with heldStatus := held }

/-- Runs the action on something that happens, if there is one. The status stays as it is. While it runs,
    there is none. -/
def onEvent (run : Runner) (event : Nat) : Action Unit := do
  let state ← get
  match state.traps.lookup event with
  | some (first :: rest) =>
    modify fun state => { state with traps := state.traps.filter (·.1 ≠ event) }
    run (.text (first :: rest) .event {})
    modify fun after => { after with
      status := state.status
      line := state.line
      traps := if after.traps.any (·.1 = event) then after.traps
        else (event, first :: rest) :: after.traps }
  | _ => pure ()

end Task

end CleanLaunch.Shell
