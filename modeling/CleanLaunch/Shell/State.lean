import CleanLaunch.Files.Image
import CleanLaunch.Files.Running
import CleanLaunch.Host.Channel
import CleanLaunch.Shell.Character
import CleanLaunch.Shell.Dialect
import CleanLaunch.Shell.Grammar
import CleanLaunch.Shell.Options
import CleanLaunch.Shell.RandomNumbers
import CleanLaunch.Shell.Signal

/-! A running process and the world around it.

    `State` is one process in its world, with what it remembers if it is a shell. Commands are
    computations in `Action`: they change the state and may be left early, because of an error,
    because the process ends, or because it is killed. A child process is a computation whose state is
    thrown away afterwards and whose world is kept: `Action.inChild`. -/

namespace CleanLaunch.Shell

open Files (Place Node Tree Running)
open Host (World OpenFile Channel Descriptor Reading)

/-- What a variable holds beside its value. The value of a list is its element 0. -/
inductive Elements
  /-- Nothing: the variable is no list. -/
  | none
  /-- Elements by number, in ascending order. -/
  | numbered (elements : List (Nat × Bytes))
  /-- Elements by name. -/
  | named (elements : List (Bytes × Bytes))

/-- What is made of a value when it is assigned. -/
inductive Treatment
  | nothing | evaluated | lowered | raised
  deriving DecidableEq

structure Variable where
  value? : Option Bytes
  exported : Bool := false
  readOnly : Bool := false
  /-- Does it stay known when it is unset? -/
  isFixed : Bool := false
  elements : Elements := .none
  treatment : Treatment := .nothing

/-- How a process ends. -/
inductive Ending
  | exited (status : Nat)
  | killed (signal : Nat)

/-- The status a shell makes of an ending. -/
def Ending.status : Ending → Nat
  | .exited status => status
  | .killed signal => 128 + signal

/-- Processes in the background. -/
structure Job where
  number : Nat
  /-- The number of each process, and when and how it ends. -/
  processes : List (Nat × Nat × Ending)
  isWaited : Bool := false
  /-- How its commands were written. -/
  written : List Written := []
  /-- Has it been told that it has ended? -/
  isTold : Bool := false

/-- What the commands behind the running one are passed over for. -/
inductive Skip
  | nothing
  | breakLoops (count : Nat)
  | continueLoops (count : Nat)
  /-- To the end of a function or file. `hasStatus` says that the status was given. -/
  | toReturn (hasStatus : Bool)
  deriving DecidableEq

/-- What is restored when a function ends. -/
inductive Local
  | options (before : Options)
  /-- A variable that was not known before. -/
  | fresh (name : Bytes)
  | saved (name : Bytes) (before : Variable)

/-- What became of a descriptor that was redirected. -/
inductive Saved
  | closed
  /-- It was closed, and closed once more. -/
  | leftClosed
  | moved (number : Nat)
  deriving DecidableEq

/-- A command found on the search path: the position of its directory, and whether the directory may
    be another one since. -/
structure Hashed where
  name : Bytes
  index : Nat
  isStale : Bool := false

/-- How far the options in some arguments have been read. -/
structure OptionProgress where
  index : Nat := 1
  /-- Bytes of the last argument that have been read, while there are more. -/
  offset : Option Nat := none

structure Function where
  name : Bytes
  line : Nat
  body : Command
  /-- What messages name as the place it was defined at. -/
  origin : Bytes := []
  /-- How its body was written. -/
  written : List Written := []
  /-- Is it passed on to programs? -/
  exported : Bool := false
  /-- May it not be defined anew or forgotten? -/
  readOnly : Bool := false

/-- A command that was found, and how often it has been run. -/
structure Remembered where
  name : Bytes
  path : Bytes
  hits : Nat := 0

/-- A descriptor that leads to a substituted process. -/
structure Borrowed where
  descriptor : Nat := 0
  /-- The open file that collects what is written, and the commands that read it then. -/
  sink? : Option Nat := none
  body : Option Command := none

/-- A function that runs, or a file whose commands are being read. -/
structure Frame where
  name : Bytes
  /-- The line it was called at. -/
  line : Nat
  /-- What messages name as the place where its commands are. -/
  origin : Bytes
  isFile : Bool := false

/-- What only a shell of the extended language remembers. -/
structure Extras where
  /-- The functions and files that run, the innermost first. -/
  frames : List Frame := []
  /-- Statuses of the stages of the last pipeline, once there has been one. -/
  stageStatuses : List Nat := []
  /-- The last word of the last command. -/
  lastWord : Bytes := []
  /-- Directories that `popd` goes back to, the next one first. -/
  directories : List Bytes := []
  /-- The additional switches that are on. -/
  switches : List Bytes := []
  /-- Builtins that are switched off. -/
  disabled : List Bytes := []
  /-- The commands that were found on the search path, the last one first. -/
  found : List Remembered := []
  /-- How deeply commands are nested for the sign they are shown with. -/
  traceDepth : Nat := 1
  /-- The command line that was given as an argument. -/
  commandLine : Option Bytes := none
  /-- Descriptors that lead to substituted processes until the command is done. -/
  borrowed : List Borrowed := []
  /-- How many shells are around this one that it is a child of. -/
  depth : Nat := 0
  /-- Is it a stage of a pipeline? -/
  isStage : Bool := false
  /-- The numbers of the current job and of the previous one. -/
  currentJob : Option Nat := none
  previousJob : Option Nat := none
  random : RandomNumbers := {}
  /-- The seconds that the shell counts from, and the time when it did. -/
  secondsFrom : Int × Nat := (0, 0)
  /-- Names that no longer stand for what the shell knows of itself. -/
  dropped : List Bytes := []
  /-- What the environment held under names that no variable has; programs get it as it is. -/
  strangers : List Bytes := []
  /-- The jobs of the shell that this one has come from, which it can still show. -/
  inheritedJobs : List Job := []

/-- One process. -/
structure State where
  world : World
  pid : Nat
  parent : Nat
  title : Bytes
  /-- Where its program is. -/
  program : Place
  arguments : List Bytes
  environment : List Bytes
  descriptors : List Descriptor
  /-- Descriptors have lower numbers than this. -/
  limit : Nat := 1024
  directory : Place
  umask : Nat := 0o022
  /-- How far it stands back behind others. -/
  niceness : Int := 0
  /-- Limits that were set, each under the letter of its kind. -/
  otherLimits : List (UInt8 × Option Nat) := []
  /-- Signals that have no effect on it. -/
  ignored : List Nat := []
  /-- The processes that wait for this one. -/
  waiting : List Running := []
  /-- Does nobody wait for it, or for a process that waits for it? -/
  inBackground : Bool := false
  /-- What is still to be written to standard output, last piece first. -/
  output : List Bytes := []
  /-- The process `$$` stands for. -/
  shellPid : Nat := 0
  dialect : Dialect := .standard
  name : Bytes := utf8 "sh"
  positional : List Bytes := []
  optionProgress : OptionProgress := {}
  bindings : List (Bytes × Variable) := []
  functions : List Function := []
  aliases : List (Bytes × Bytes) := []
  hashed : List Hashed := []
  hereTexts : List (Nat × HereText) := []
  /-- Variables to be restored, for every function that runs, the innermost first. -/
  locals : List (List Local) := []
  options : Options := {}
  status : Nat := 0
  /-- The status to end with, while a trap is run. -/
  heldStatus : Option Nat := none
  /-- Status of the last command substitution of the running command. -/
  substitutionStatus : Nat := 0
  skip : Skip := .nothing
  loopDepth : Nat := 0
  /-- The working directory as the shell names it. -/
  directoryPath : Bytes := []
  /-- Background jobs, the last one first, and the last process in the background. -/
  jobs : List Job := []
  lastBackground : Option Nat := none
  /-- The line of the running command. -/
  line : Nat := 0
  /-- The builtin that is running, as messages name it. -/
  builtin : Option Bytes := none
  /-- Actions on signals; the end of the process counts as signal 0. -/
  traps : List (Nat × Bytes) := []
  /-- Redirections that are to be undone, the last ones first. -/
  redirections : List (List (Nat × Saved)) := []
  /-- The descriptor that commands are shown on. -/
  traceDescriptor : Nat := 2
  isTracing : Bool := false
  /-- Has the text that is running been read to its end? -/
  atTextEnd : Bool := false
  extras : Extras := {}

/-- How a computation is left early. -/
inductive Escape
  /-- An error that has been reported; it ends the shell unless the command takes it upon itself. -/
  | failed
  /-- The process was asked to end. -/
  | exiting
  /-- There is nothing more to run. -/
  | ended
  | killed (signal : Nat)
  /-- More is read from a file than its writer has been allowed to write so far. -/
  | starved
  /-- A signal is sent to a process in the background that has run without it. -/
  | unforeseen (arrival : Host.Arrival)
  /-- The run takes more steps than this model follows, or something it does not know. -/
  | abandoned

abbrev Action := ExceptT Escape (StateM State)

namespace State

/-- What the tree shows of an open file: a link to where it was opened, if that has a name. -/
def fileNode (world : World) (index : Nat) : Node :=
  let device (name : String) : Node := .link (utf8 "/dev/" ++ utf8 name)
  match world.files[index]? with
  | some ⟨.device .null, _, _⟩ => device "null"
  | some ⟨.device .zero, _, _⟩ => device "zero"
  | some ⟨.device .full, _, _⟩ => device "full"
  | some ⟨.device .random, _, _⟩ => device "random"
  | some ⟨.device .terminal, _, _⟩ => device "tty"
  | some ⟨.file place _ _, _, _⟩ =>
    if place.head? == some [] then .held index else .link place.path
  | some ⟨.directory place, _, _⟩ => .link place.path
  | some ⟨.record _, _, _⟩ => .held index
  | _ => .channel index

/-- This process as the system shows it. -/
def running (state : State) : Running where
  pid := state.pid
  parent := state.parent
  title := state.title.take Running.maxTitleLength
  program := state.program
  arguments := state.arguments
  environment := state.environment
  directory := state.directory
  umask := state.umask
  descriptors := (state.descriptors.mergeSort fun a b => a.number ≤ b.number).map fun entry =>
    (entry.number, fileNode state.world entry.file)

/-- The file tree with the running processes in it. -/
def tree (state : State) : Tree := state.world.tree.withRunning (state.running :: state.waiting)

/-- What messages of the extended language name as the place that runs. -/
def place (state : State) : Bytes := ((state.extras.frames.head?.map (·.origin)).getD state.name)

/-- Does a function run? -/
def inFunction (state : State) : Bool := state.extras.frames.any (!·.isFile)

/-- May characters have several bytes in what the shell itself does with texts? Only the extended language
    knows such characters. -/
def hasWideTexts (state : State) : Bool :=
  let value? (name : Bytes) : Option Bytes :=
    ((state.bindings.lookup name).bind (·.value?)).filter (!·.isEmpty)
  state.dialect = .extended && (Character.localeVariables.findSome? value?).any Character.isWideIn

/-- Names of the entries of a directory in the order of their bytes. -/
def entries (state : State) (place : Place) : List Bytes :=
  (state.tree.children place).eraseDups.mergeSort fun a b => !decide (b < a)

end State

namespace Action

def leave {α : Type} (escape : Escape) : Action α := throw escape

/-- Changes the world. -/
def inWorld {α : Type} (change : World → α × World) : Action α :=
  modifyGet fun state =>
    let (value, world) := change state.world
    (value, { state with world })

def changeWorld (change : World → World) : Action Unit :=
  modify fun state => { state with world := change state.world }

/-- The open file under a descriptor. -/
def fileOf? (descriptor : Nat) : Action (Option Nat) :=
  return Descriptor.file? (← get).descriptors descriptor

/-- Adds an open file to the world and gives its number. -/
def addFile (file : OpenFile) : Action Nat := inWorld (·.addFile file)

/-- Is a signal without effect on this process? -/
def isIgnored (state : State) (signal : Nat) : Bool :=
  state.ignored.contains signal || state.traps.lookup signal == some []

/-- Does this process run an action on a signal? -/
def isTrapped (state : State) (signal : Nat) : Bool :=
  !state.ignored.contains signal && (state.traps.lookup signal).any (!·.isEmpty)

/-- The signal about pipes that nobody reads. -/
def pipeSignal : Nat := 13

/-- Nobody reads what this process writes: the signal about that arrives. -/
def sufferPipe : Action Unit := do
  let state ← get
  if isIgnored state pipeSignal then pure ()
  else if isTrapped state pipeSignal then
    changeWorld fun world => { world with
      pending := world.pending ++ [{ pid := state.pid, signal := pipeSignal, time := world.clock }] }
  else leave (.killed pipeSignal)

/-- Writes to a descriptor at once. -/
def write (descriptor : Nat) (bytes : Bytes) : Action (Option Errno) := do
  match ← fileOf? descriptor with
  | some index =>
    let answer ← inWorld (·.write index bytes)
    if answer = some .EPIPE then sufferPipe
    return answer
  | none => return some .EBADF

/-- Reads from an open file, at most a number of bytes if one is given. -/
def readFile (index : Nat) (count : Option Nat) : Action (Except Errno Bytes) := do
  match ← inWorld (·.read index count) with
  | .bytes bytes => return .ok bytes
  | .failed errno => return .error errno
  | .starved => leave .starved
  | .endless => leave .abandoned

/-- Reads from a descriptor. -/
def readInput (descriptor : Nat) (count : Option Nat) : Action (Except Errno Bytes) := do
  match ← fileOf? descriptor with
  | some index => readFile index count
  | none => return .error .EBADF

/-- Prints to standard output, where it is collected first. -/
def print (bytes : Bytes) : Action Unit :=
  modify fun state => { state with output := bytes :: state.output }

/-- Writes what was printed. -/
def flush : Action (Option Errno) := do
  let output := (← get).output
  if output.isEmpty then return none
  modify fun state => { state with output := [] }
  let bytes := output.reverse.flatten
  if bytes.isEmpty then return none else write 1 bytes

/-- Writes to standard error. -/
def printError (bytes : Bytes) : Action Unit := do
  let _ ← write 2 bytes

/-- What messages begin with: the shell's name or the place that is running, and the line. -/
def messageHead (state : State) : Bytes :=
  let line := Bytes.decimal state.line ++ utf8 ": "
  match state.dialect with
  | .standard => state.name ++ utf8 ": " ++ line
  | .extended => state.place ++ utf8 ": line " ++ line

/-- Reports a problem, with the builtin that is running, if there is one. -/
def warn (message : Bytes) : Action Unit := do
  let state ← get
  let builtin := match state.builtin with
    | some name => name ++ utf8 ": "
    | none => []
  printError (messageHead state ++ builtin ++ message ++ [10])

def setStatus (status : Nat) : Action Unit := modify fun state => { state with status }

/-- The status that an error leaves. In the extended language it tells a shell from its children, if the
    shell is strict or the error is `grave`. -/
def failureStatus (state : State) (grave : Bool) : Nat :=
  match state.dialect with
  | .standard => 2
  | .extended =>
    if state.pid = state.shellPid && (grave || state.options.isOn .strict) then 127 else 1

/-- Reports an error and gives up the command. -/
def fail {α : Type} (message : Bytes) : Action α := do
  setStatus (failureStatus (← get) false)
  warn message
  let _ ← flush
  leave .failed

/-- Reports a problem in the words of the shell's language. -/
def complain (complaint : Complaint) : Action Unit := do
  warn (complaint.text (← get).dialect)

/-- Reports an error in the words of the shell's language and gives up the command. -/
def failWith {α : Type} (complaint : Complaint) : Action α := do
  let state ← get
  setStatus (failureStatus state complaint.isGrave)
  complain complaint
  let _ ← flush
  leave .failed

/-- Reports an error and gives up the command with the status 1. -/
def failSoftly {α : Type} (message : Bytes) : Action α := do
  setStatus 1
  warn message
  let _ ← flush
  leave .failed

/-- The value of a variable, if it is set. -/
def valueOf? (name : Bytes) : Action (Option Bytes) :=
  return ((← get).bindings.lookup name).bind (·.value?)

/-- Lets time pass. -/
def elapse (ticks : Nat) : Action Unit :=
  changeWorld fun world => { world with clock := world.clock + ticks }

/-- What a shell of the extended language may also have an action on, each with its number: a command that
    is about to run, one that has failed, and the end of a function or file. -/
def beforeCommand : Nat := 65

def afterFailure : Nat := 66

def afterReturn : Nat := 67

/-- Does an action go on to count in functions and in children of a shell? -/
def isInherited (options : Options) (event : Nat) : Bool :=
  if event = afterFailure then options.isOn .errorTrap
  else (event = beforeCommand || event = afterReturn) && options.isOn .callTrap

/-- Time it takes until a new process runs. -/
def forkTime : Nat := 3

/-- Time it takes until a new program runs. -/
def startTime : Nat := 7

/-- A child of a process at its start. It inherits everything but the actions on signals, the jobs and
    the redirections that its parent will undo. -/
def child (state : State) (pid : Nat) : State :=
  { state with
    world := { state.world with nextPid := pid + 1, clock := state.world.clock + forkTime }
    pid
    parent := state.pid
    waiting := state.running :: state.waiting
    traps := state.traps.filter fun (signal, action) =>
      action.isEmpty || isInherited state.options signal
    jobs := []
    redirections := []
    output := []
    extras := { state.extras with
      depth := state.extras.depth + 1, inheritedJobs := state.jobs } }

/-- The ending of a process that was left. -/
def endingOf (result : Except Escape Unit) (after : State) : Except Escape Ending :=
  match result with
  | .ok () | .error .failed | .error .exiting | .error .ended => .ok (.exited (after.status % 256))
  | .error (.killed signal) => .ok (.killed signal)
  | .error escape => .error escape

/-- The signal about a child that has ended. -/
def childSignal : Nat := 17

/-- Tells this process that a child ends at a time, if it has an action on that. -/
def announce (time : Nat) : Action Unit :=
  modify fun state =>
    if isTrapped state childSignal then
      { state with world := { state.world with
          pending := state.world.pending ++ [{ pid := state.pid, signal := childSignal, time }] } }
    else state

/-- Runs a computation as a child process and gives its number and ending. Its world stays, everything
    else is as before. -/
def inChildUntold (action : Action Unit) : Action (Nat × Ending) := fun state =>
  let pid := state.world.nextPid
  let start := child state pid
  let before := { state with world := default }
  let (result, after) := action.run.run start
  let back := { before with world := after.world }
  match endingOf result after with
  | .ok ending => (.ok (pid, ending), back)
  | .error escape => (.error escape, back)

/-- The same, where this process is told that the child has ended. -/
def inChild (action : Action Unit) : Action (Nat × Ending) := do
  let result ← inChildUntold action
  announce (← get).world.clock
  return result

/-- Runs a computation as a child process in the background: time goes on where it was. The result
    tells when and how the child ends. -/
def inBackground (action : Action Unit) : Action (Nat × Nat × Ending) := do
  let clock := (← get).world.clock
  let (pid, ending) ← inChildUntold do
    modify fun state => { state with inBackground := true }
    action
  let finish := (← get).world.clock + 1
  changeWorld fun world => { world with clock }
  announce finish
  return (pid, finish, ending)

/-- Repetitions that take one tick of time. -/
def repetitionsPerTick : Nat := 4

/-- A process in the background runs no longer than to this time, unless it is known what becomes of it. -/
def horizon : Nat := 20 * Host.ticksPerSecond

/-- Has a process been running for too long? -/
def isOverdue (state : State) : Bool := state.inBackground && horizon < state.world.clock

/-- Repeats a computation on its own results until it says that it is done, at most a number of
    times. -/
def iterate {α : Type} (body : α → Action (α × Bool)) :
    (bound : Nat) → α → State → Except Escape α × State
  | 0, _, state => (.error .abandoned, state)
  | bound + 1, value, state =>
    let state := if (bound + 1) % repetitionsPerTick = 0 then
        { state with world := { state.world with clock := state.world.clock + 1 } }
      else state
    if isOverdue state then (.error (.killed 9), state) else
    match (body value).run.run state with
    | (.ok (value, true), after) => iterate body bound value after
    | (.ok (value, false), after) => (.ok value, after)
    | (.error escape, after) => (.error escape, after)

/-- Repetitions this model follows. -/
def maxIterations : Nat := 3000000

/-- Repeats a computation on its own results as long as it says that it goes on. -/
def repeatFrom {α : Type} (value : α) (body : α → Action (α × Bool)) : Action α :=
  fun state => iterate body maxIterations value state

/-- Runs a computation, then another one, even if the first one is left early. -/
def andFinally {α : Type} (action : Action α) (finish : Action Unit) : Action α := do
  try
    let result ← action
    finish
    return result
  catch escape =>
    finish
    throw escape

/-- Runs a computation; the result says whether it came to an error that was reported. -/
def catchFailure (action : Action Unit) : Action Bool := do
  try
    action
    return false
  catch
    | .failed => return true
    | escape => throw escape

end Action

end CleanLaunch.Shell
