import CleanLaunch.Shell.Builtin.Printing
import CleanLaunch.Shell.Extended.Control
import CleanLaunch.Shell.Extended.Directories
import CleanLaunch.Shell.Extended.Formats
import CleanLaunch.Shell.Extended.Inquiry
import CleanLaunch.Shell.Extended.Resources
import CleanLaunch.Shell.Extended.Signals
import CleanLaunch.Shell.Extended.WordTest

/-! The table of the builtins of the extended language.

    Builtins that declare variables take assignments as such, all others take texts. -/

namespace CleanLaunch.Shell

namespace Builtins

open Shell.Action
open Declarations (Argument)

/-- Runs a builtin that is about lines that were typed, of which there are none. -/
def withoutHistory (arguments : List Bytes) : Action Nat := do
  match (← Usage.flags "acdnprsw" arguments).rest with
  | word :: _ =>
    if (Usage.number? word).isNone then
      return ← Usage.failing (word ++ utf8 ": numeric argument required")
    return 0
  | [] => return 0

/-- Runs a builtin. One that is not followed here leaves nothing to be told. -/
def run (run : Runner) (manner : Manner) (name : Bytes) (arguments : List Argument) : Action Nat := do
  let words := arguments.map Argument.text
  match String.fromUTF8? ⟨name.toArray⟩ with
  | some ":" | some "true" => return 0
  | some "false" => return 1
  | some "." | some "source" => Control.source run words
  | some "[" => WordTest.bracket words
  | some "alias" => Inquiry.synonyms words
  | some "bg" | some "fg" => Jobs.move words
  | some "bind" =>
    warn (utf8 "warning: line editing not enabled")
    return 0
  | some "break" => Control.leaveLoops .breakLoops words
  | some "caller" => Inquiry.caller words
  | some "cd" => Directories.changeDirectory words
  | some "continue" => Control.leaveLoops .continueLoops words
  | some "declare" | some "typeset" => Declarations.declare arguments
  | some "dirs" => Directories.showDirectories words
  | some "disown" => Jobs.disown words
  | some "echo" => Printing.extendedEcho words
  | some "enable" => Inquiry.enable words
  | some "eval" => Control.eval run manner words
  | some "exec" => Control.exec run words
  | some "exit" => Control.exit words
  | some "export" => Declarations.mark name 'x' arguments
  | some "getopts" => Inputs.getOptions words
  | some "hash" => Inquiry.hash words
  | some "history" => withoutHistory words
  | some "jobs" => Jobs.list words
  | some "kill" => Signals.kill words
  | some "let" => Declarations.evaluateAll words
  | some "local" => Declarations.makeLocal arguments
  | some "logout" => Usage.failing (utf8 "not login shell: use \x60exit'")
  | some "mapfile" | some "readarray" => Inputs.mapFile words
  | some "popd" => Directories.pop words
  | some "printf" => Formats.printf words
  | some "pushd" => Directories.push words
  | some "pwd" => Directories.printDirectory words
  | some "read" => Inputs.read words
  | some "readonly" => Declarations.mark name 'r' arguments
  | some "return" => Control.leaveFunction words
  | some "set" => Switches.set words
  | some "shift" => Control.shift words
  | some "shopt" => Switches.additionalSet words
  | some "suspend" => Usage.failing (utf8 "cannot suspend: no job control")
  | some "test" => WordTest.test words
  | some "times" => Signals.times
  | some "trap" => Signals.trap words
  | some "type" => Inquiry.describeAll words
  | some "ulimit" => Resources.limits words
  | some "umask" => Resources.mask words
  | some "unalias" => Inquiry.dropSynonyms words
  | some "unset" => Declarations.unset words
  | some "wait" => Jobs.wait words
  | _ => leave .abandoned

end Builtins

end CleanLaunch.Shell
