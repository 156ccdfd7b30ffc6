import CleanLaunch.Descriptor.Faults
import CleanLaunch.Launch.Launcher
import CleanLaunch.Shell.Program

/-! A launch from beginning to end.

    A `Session` is a launcher in its surroundings: files, working directory, limits, forced failures.
    It answers for the kernel where a launch asks, and runs the command that was started to its end,
    so that everything a caller could see of it is there to be compared. -/

namespace CleanLaunch

open Descriptor (Faults Table)
open Files (Image Place Running Tree)
open Host (OpenFile)

/-- A launcher in its surroundings. -/
structure Session where
  launcher : Launcher
  tree : Tree
  directory : Place
  limit : Nat := 1024
  faults : Faults := {}
  /-- What the command reads on standard input; the null device without it. -/
  input : Option Bytes := none

/-- How a process ended. -/
inductive ProcessEnd
  | exited (status : Nat)
  | killed (signal : Nat)
  /-- Its run is longer than this model follows. -/
  | unknown
  deriving DecidableEq

/-- A process that has ended, with all that was written to its outputs. -/
structure Outcome where
  ending : ProcessEnd
  stdout : Bytes
  stderr : Bytes

namespace Session

/-- The home directory of the account, for launchers without one of their own. -/
def accountHome : Bytes := utf8 "/root"

/-- Process ids of the launcher and of every launched command. -/
def launcherPid : Nat := 2

def childPid : Nat := 3

/-- A process here before any program has been started in it, as the system shows it. -/
def running (session : Session) (pid : Nat) (descriptors : Table) : Running where
  pid
  parent := pid - 1
  title := utf8 "launcher"
  program := []
  arguments := [utf8 "launcher"]
  environment := session.launcher.environ.entries
  directory := session.directory
  umask := 0o022
  descriptors := descriptors.numbers.map fun n => (n, .link (utf8 "/dev/null"))

/-- The launcher as the system shows it. -/
def launcherRunning (session : Session) : Running :=
  session.running launcherPid session.launcher.table

/-- The home directory that paths may begin with. -/
def home (session : Session) : Bytes :=
  match session.launcher.environ.lookup (utf8 "HOME") with
  | some path => if path.isEmpty then accountHome else path
  | none => accountHome

/-- What a search for an executable depends on here. -/
def searchContext (session : Session) : Path.SearchContext where
  workingDirectory := session.directory.path
  searchPath := session.launcher.environ.lookup (utf8 "PATH")
  home := session.home
  isExecutable := (session.tree.withRunning [session.launcherRunning]).isExecutable session.directory

/-- The image behind a call, or why there is none. -/
def load (session : Session) (call : ExecCall) : Except Errno Image :=
  let tree := session.tree.withRunning
    [session.running childPid call.descriptors, session.launcherRunning]
  Image.load tree session.directory call.path call.arguments call.environment.visible

/-- The kernel's answers in these surroundings. -/
def kernel (session : Session) : LaunchKernel :=
  { session.faults.kernel session.limit with
    fork := match session.faults.fork with
      | some errno => .error errno
      | none => .ok childPid
    execFailure := fun call =>
      session.faults.exec.or (match session.load call with
        | .ok _ => none
        | .error errno => some errno) }

/-- Makes the changes to a request that a caller asks for. -/
def build (session : Session) (request : Request) (changes : List Request.Change) :
    List (Except LaunchError Request) :=
  request.build session.searchContext changes

/-- Launches a request. -/
def spawn (session : Session) (request : Request) : Launch :=
  session.launcher.spawn session.kernel request

/-- Launches a command with default shell and allowlist. -/
def system (session : Session) (command : Bytes) (extra : Option (List Bytes)) : Launch :=
  session.launcher.system session.kernel command extra

/-- Numbers of the open files of a command. Descriptors that it should not have lead to the null
    device. -/
def inputFile : Nat := 0
def outputFile : Nat := 1
def errorFile : Nat := 2
def nullFile : Nat := 3

/-- The open file a descriptor leads to when the command starts. -/
def fileOf (descriptor : Nat) : Nat := if descriptor < nullFile then descriptor else nullFile

/-- The open files of a command, which find what the child itself has written. -/
def files (session : Session) (run : Child.Run) : Array OpenFile :=
  #[match session.input with
      | some bytes => ⟨.supply bytes true, true, false⟩
      | none => ⟨.device .null, true, false⟩,
    ⟨.record [], false, true⟩,
    ⟨.record [(0, run.stderr)], false, true⟩,
    ⟨.device .null, true, true⟩]

/-- Signals that commands ignore from the start: those about pipes that nobody reads. -/
def ignoredSignals : List Nat := [13]

/-- The process of a child at the moment its program starts. -/
def process (session : Session) (run : Child.Run) (image : Image) : Shell.State where
  world := { tree := session.tree, files := session.files run, nextPid := childPid + 1 }
  pid := childPid
  parent := launcherPid
  title := image.title
  program := image.place
  arguments := image.arguments
  environment := run.call.environment.visible
  descriptors := run.inherited.numbers.map fun n => { number := n, file := fileOf n }
  limit := session.limit
  directory := session.directory
  directoryPath := session.directory.path
  ignored := ignoredSignals
  waiting := [session.launcherRunning]

/-- How many times a program is run again with more foresight. -/
def maxForesight : Nat := 100

/-- Was everything foreseen that was written to pipes with names? -/
def isForeseen (world : Host.World) : Bool :=
  world.pipes.zipIdx.all fun (pipe, n) =>
    let known := (world.foreseenPipes[n]?).getD {}
    (List.range pipe.sessions.length).all fun session =>
      (pipe.written session).flatMap (·.2) = (known.written session).flatMap (·.2)

/-- Runs a program to its end. Processes in the background run at once, and when it turns out later that a
    signal was sent to one of them, or that something was written to a pipe that it has read, everything is
    run once more, and then that is foreseen. -/
def runWith (process : Shell.State) (image : Image) :
    (bound : Nat) → (foreseen : List Host.Arrival) → (pipes : Array Host.NamedPipe) →
      Except Shell.Escape Unit × Shell.State
  | 0, _, _ => (.error .abandoned, process)
  | bound + 1, foreseen, foreseenPipes =>
    let action := Shell.Program.runner Shell.Program.maxDepth (.program image)
    let world := { process.world with foreseen, foreseenPipes, pending := foreseen }
    match action.run.run { process with world } with
    | (.error (.unforeseen arrival), _) =>
      runWith process image bound (foreseen ++ [arrival]) foreseenPipes
    | (result, after) =>
      if isForeseen after.world then (result, after)
      else runWith process image bound foreseen after.world.pipes

/-- What comes of running a program to its end. -/
def runProgram (process : Shell.State) (image : Image) : Outcome :=
  let (result, after) := runWith process image maxForesight [] #[]
  let ending := match Shell.Action.endingOf result after with
    | .ok (.exited status) => .exited status
    | .ok (.killed signal) => .killed signal
    | .error _ => .unknown
  ⟨ending, after.world.collected outputFile, after.world.collected errorFile⟩

/-- Runs a child to its end. -/
def outcome (session : Session) (run : Child.Run) : Outcome :=
  match run.ending with
  | .exited status => ⟨.exited status, [], run.stderr⟩
  | .replaced =>
    match session.load run.call with
    | .ok image => runProgram (session.process run image) image
    | .error _ => ⟨.unknown, [], run.stderr⟩

end Session

end CleanLaunch
