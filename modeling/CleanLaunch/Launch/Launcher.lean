import CleanLaunch.Launch.Child

/-! The launching process.

    `Launcher.spawn` checks the strings of a request, creates the child and returns at once. A
    request that fails leaves no child, and no path changes the launcher. `Launcher.system` is the
    same for a command alone. -/

namespace CleanLaunch

open Descriptor (Kernel Table)

/-- A process that launches commands. -/
structure Launcher where
  environ : EnvTable
  table : Table

/-- How the kernel answers a launch. -/
structure LaunchKernel extends Kernel where
  /-- Process id of the next child, or why there is none. -/
  fork : Except Errno Nat
  /-- Error of starting a program. -/
  execFailure : ExecCall → Option Errno

/-- What became of creating a child. -/
inductive Fork
  | notAttempted
  | refused (cause : Errno)
  | created (pid : Nat) (run : Child.Run)

/-- A launch as it appears to the launcher: what it returned and logged, the child, and the launcher
    and request afterwards. -/
structure Launch where
  result : Except LaunchError Nat
  log : List LogEvent
  fork : Fork
  launcher : Launcher
  request : Request

namespace Launcher

/-- The first NUL that keeps a request from the kernel, of the shell's path if it has one, otherwise
    of the command. -/
def nulPosition? (request : Request) : Option Nat :=
  request.shell.nulOffset?.or request.command.nulOffset?

/-- Launches a command without waiting for it. -/
def spawn (launcher : Launcher) (kernel : LaunchKernel) (request : Request) : Launch :=
  match nulPosition? request with
  | some position => ⟨.error (.nul position), [], .notAttempted, launcher, request⟩
  | none =>
    match kernel.fork with
    | .error errno =>
      ⟨.error (.forkFailed errno), [.forkFailed request.command errno], .refused errno,
        launcher, request⟩
    | .ok pid =>
      ⟨.ok pid, [.started pid request.command],
        .created pid
          (Child.run kernel.toKernel kernel.execFailure launcher.table launcher.environ request),
        launcher, request⟩

/-- Launches a command with the default shell and allowlist. -/
def system (launcher : Launcher) (kernel : LaunchKernel) (command : Bytes)
    (extra : Option (List Bytes)) : Launch :=
  launcher.spawn kernel { command, extra }

end Launcher

end CleanLaunch
