import CleanLaunch.Shell.Builtin.Commands
import CleanLaunch.Shell.Builtin.Condition
import CleanLaunch.Shell.Builtin.Printing
import CleanLaunch.Shell.Builtin.Processes
import CleanLaunch.Shell.Builtin.Settings
import CleanLaunch.Shell.Builtin.Variables

/-! The builtins that leave what is running, and the table of all builtins. -/

namespace CleanLaunch.Shell

namespace Builtin

open Shell.Action

/-- Runs `exit`. Without an argument, the status is the current one, or that of the process while a trap
    is run. -/
def exit (arguments : List Bytes) : Action Nat := do
  match arguments with
  | [] => pure ()
  | text :: _ =>
    let status ← number text
    modify fun state => { state with heldStatus := some status }
  leave .exiting

/-- Runs `return`: passes over commands to the end of a function or file. -/
def leaveFunction (arguments : List Bytes) : Action Nat := do
  let status ← match arguments with
    | [] => pure (← get).status
    | text :: _ => number text
  modify fun state => { state with skip := .toReturn (!arguments.isEmpty) }
  return status

/-- Runs `break` or `continue`: passes over commands to the end of loops, but not of more than there
    are. -/
def leaveLoops (how : Nat → Skip) (arguments : List Bytes) : Action Nat := do
  let count ← match arguments with
    | [] => pure 1
    | text :: _ => number text
  if count = 0 then fail (utf8 "Illegal number: " ++ arguments.headD [])
  let count := min count (← get).loopDepth
  if 0 < count then modify fun state => { state with skip := how count }
  return 0

/-- Runs a builtin. -/
def run (run : Runner) (manner : Manner) (name : Bytes) (arguments : List Bytes) : Action Nat := do
  if (← get).dialect = .extended && name = utf8 "echo" then
    return ← Printing.extendedEcho arguments
  match String.fromUTF8? ⟨name.toArray⟩ with
  | some ":" | some "true" => return 0
  | some "false" => return 1
  | some "[" => Condition.bracket arguments
  | some "test" => Condition.test arguments
  | some "echo" => Printing.echo arguments
  | some "printf" => Printing.printf arguments
  | some "." => Commands.includeFile run arguments
  | some "alias" => Commands.aliases arguments
  | some "command" => Commands.command arguments
  | some "eval" => Commands.eval run manner arguments
  | some "exec" => Commands.exec run arguments
  | some "hash" => Commands.hash arguments
  | some "type" => Commands.describeAll arguments
  | some "unalias" => Commands.unalias arguments
  | some "bg" | some "fg" => Processes.moveJob arguments
  | some "jobs" => Processes.listJobs arguments
  | some "kill" => Processes.kill arguments
  | some "times" => Processes.times
  | some "trap" => Processes.trap arguments
  | some "wait" => Processes.wait arguments
  | some "cd" | some "chdir" => Settings.changeDirectory arguments
  | some "pwd" => Settings.printDirectory arguments
  | some "ulimit" => Settings.limits arguments
  | some "umask" => Settings.mask arguments
  | some "export" => Variables.markExported arguments
  | some "getopts" => Variables.getOptions arguments
  | some "local" => Variables.keepLocal arguments
  | some "read" => Variables.readNames arguments
  | some "readonly" => Variables.markReadOnly arguments
  | some "set" => Variables.setSwitches arguments
  | some "shift" => Variables.shift arguments
  | some "unset" => Variables.unsetAll arguments
  | some "break" => leaveLoops .breakLoops arguments
  | some "continue" => leaveLoops .continueLoops arguments
  | some "exit" => exit arguments
  | some "return" => leaveFunction arguments
  | _ => return 127

end Builtin

end CleanLaunch.Shell
