import CleanLaunch.Descriptor.Pruning
import CleanLaunch.Environ.EnvArray
import CleanLaunch.Environ.Inherited
import CleanLaunch.Launch.Request
import CleanLaunch.Report.ChildLine

/-! The child between its creation and the start of the shell.

    The child closes every descriptor above standard error, builds its environment array and asks the
    kernel to start the shell: `Child.call` is exactly what it asks for. If the kernel refuses, the
    child says so in one line and exits. `Child.run` is the whole of it. -/

namespace CleanLaunch

open Descriptor (Kernel Table Pruning)

/-- A call to start a program in place of the caller. -/
structure ExecCall where
  path : Bytes
  arguments : List Bytes
  /-- The environment array, sentinel and all. -/
  environment : EnvArray
  /-- The descriptors open at the call. -/
  descriptors : Table
  deriving DecidableEq

namespace Child

/-- Slots of the child's environment array, sentinel included. -/
def envCapacity : Nat := 1024

/-- Exit status of a child whose shell could not be started. -/
def execFailedStatus : Nat := 5

/-- The last descriptor a command inherits. -/
def standardError : Nat := 2

/-- What closing the inherited descriptors did: the table it left, the lines it wrote, and the
    descriptor of the listing if that stayed open. -/
structure Cleanup where
  table : Table
  lines : List Bytes
  leftover : Option Nat

/-- The line for a descriptor that failed to close. -/
def closeFailedLine (failed : Nat × Errno) : Bytes :=
  ChildLine.log .warn (LogEvent.closeFailedText failed.1 failed.2)

/-- The line for a listing that cannot be read. -/
def listingFailedLine (errno : Errno) : Bytes :=
  ChildLine.log .warn
    (utf8 "cannot list /proc/self/fd (" ++ errno.text ++ utf8 "); closing by range")

/-- Closes every descriptor above standard error, by the listing and, where that cannot be read to
    its end, by range. -/
def cleanup (kernel : Kernel) (table : Table) : Cleanup :=
  let pruning := Descriptor.prune kernel standardError table
  let warnings := (Descriptor.failures pruning.attempts).map closeFailedLine
  match pruning.result with
  | .ok () => ⟨pruning.table, warnings, pruning.leftover⟩
  | .error errno =>
    ⟨Descriptor.closeRange kernel standardError pruning.table,
      warnings ++ [listingFailedLine errno], pruning.leftover⟩

/-- The environment array of the command: the inherited entries that pass, then the extra ones. An
    array with slots takes both. -/
def environment (environ : EnvTable) (request : Request) : EnvArray :=
  let inherited :=
    match (EnvArray.empty envCapacity).filter (some environ.entries) request.allowlist with
    | .ok (array, _) => array
    | .error _ => .empty envCapacity
  match inherited.append request.extra with
  | .ok (array, _) => array.exported
  | .error _ => inherited.exported

/-- The arguments of the shell, whatever its path. -/
def arguments (command : Bytes) : List Bytes := [utf8 "sh", utf8 "-c", command]

/-- The line for a shell that could not be started. -/
def execFailedLine (command : Bytes) (errno : Errno) : Bytes :=
  ((((ChildLine.start .error).pushBytes (utf8 "error executing command '")).pushBytes
    command).writeText (utf8 "' after fork: " ++ errno.text)).emit

/-- How the child goes on after its call. -/
inductive Ending
  /-- The shell runs in its place. -/
  | replaced
  | exited (status : Nat)
  deriving DecidableEq

/-- A child's run: what it wrote to standard error before and after its call, the call, and its
    ending. -/
structure Run where
  lines : List Bytes
  call : ExecCall
  leftover : Option Nat
  ending : Ending

/-- The call that starts the shell. -/
def call (cleaned : Cleanup) (environ : EnvTable) (request : Request) : ExecCall :=
  ⟨request.shell, arguments request.command, environment environ request, cleaned.table⟩

/-- Runs the child; `execFailure` is the kernel's answer to its call. -/
def run (kernel : Kernel) (execFailure : ExecCall → Option Errno) (table : Table)
    (environ : EnvTable) (request : Request) : Run :=
  let cleaned := cleanup kernel table
  let call := call cleaned environ request
  match execFailure call with
  | none => ⟨cleaned.lines, call, cleaned.leftover, .replaced⟩
  | some errno =>
    ⟨cleaned.lines ++ [execFailedLine request.command errno], call, cleaned.leftover,
      .exited execFailedStatus⟩

/-- Everything the child itself wrote to standard error. -/
def Run.stderr (run : Run) : Bytes := run.lines.flatten

/-- The descriptors the shell starts with; the listing's own, if left over, is closed for it. -/
def Run.inherited (run : Run) : Table :=
  match run.leftover with
  | some n => run.call.descriptors.erase n
  | none => run.call.descriptors

end Child

end CleanLaunch
