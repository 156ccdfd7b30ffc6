import CleanLaunch.Shell.CommandLine
import CleanLaunch.Shell.Lookup
import CleanLaunch.Shell.Task

/-! Processes that a shell makes: programs in its place, the commands of a substitution, the stages of a
    pipeline, and processes in the background.

    Stages run one after another, each on all that the one before has written. A stage that writes more
    than a pipe holds is cut off, as if nobody read the rest; if somebody does, it runs once more with
    more room. -/

namespace CleanLaunch.Shell

open Shell.Action
open Files (Image)
open Host (OpenFile)

namespace Process

/-- Runs a program in place of this process. -/
def become (run : Runner) (environment : List Bytes) (image : Image) : Action Unit := do
  elapse startTime
  modify fun state => { state with
    title := image.title
    program := image.place
    arguments := image.arguments
    environment
    descriptors := state.descriptors.filter (!·.closesOnStart)
    ignored := (state.traps.filter (·.2.isEmpty)).map (·.1) ++ state.ignored
    output := [], traps := [], redirections := [], locals := [], jobs := []
    heldStatus := none, skip := .nothing, loopDepth := 0, isTracing := false, builtin := none }
  let _ ← arrived
  run (.program image)
  leave .ended

/-- Runs the file at a path in place of this process. A file that is no program is taken for a script.
    The result says why nothing could be started. -/
def start (run : Runner) (path : Bytes) (arguments : List Bytes) : Action Errno := do
  let state ← get
  let environment := match state.dialect with
    | .standard => Variables.environment state.bindings
    | .extended => Lists.environment state path
  let load (path : Bytes) (arguments : List Bytes) : Except Errno Image :=
    Image.load state.tree state.directory path arguments environment
  let (shell, name) : Bytes × Bytes := match state.dialect with
    | .standard => (utf8 "/bin/sh", utf8 "/bin/sh")
    | .extended => (utf8 "/bin/bash", state.arguments.headD [])
  match load path arguments with
  | .ok image =>
    become run environment image
    return .ENOENT
  | .error .ENOEXEC =>
    let isText := match state.tree.find state.directory path with
      | .ok (.file _ content) => Image.looksLikeText content
      | _ => false
    if !isText then return .ENOEXEC
    match load shell (name :: path :: arguments.drop 1) with
    | .ok image =>
      become run environment image
      return .ENOENT
    | .error errno => return errno
  | .error errno => return errno

/-- Runs a command in place of this process: the file that was found, or one of those after it. -/
def replace (run : Runner) (path : Bytes) (first : Nat) (arguments : List Bytes) : Action Unit := do
  let name := arguments.headD []
  let files := if name.contains Path.slash then [name] else (Lookup.candidates path name).drop first
  let mut errno := Errno.ENOENT
  for file in files do
    let answer ← start run file arguments
    if name.contains Path.slash || (answer ≠ .ENOENT && answer ≠ .ENOTDIR) then errno := answer
  setStatus (Lookup.failureStatus errno)
  complain (.cannotStart name errno)
  let _ ← flush
  leave .ended

/-- Runs a command as a child. -/
def launch (run : Runner) (path : Bytes) (first : Nat) (arguments : List Bytes) : Action Unit := do
  let (_, ending) ← inChild (replace run path first arguments)
  reapAll [ending]

def pipeFailed {α : Type} : Action α := failWith (.noPipe .EMFILE)

/-- Makes the end of a pipe a standard descriptor of this process. -/
def useAs (standard descriptor : Nat) : Action Unit := do
  if descriptor ≠ standard then
    let _ ← duplicate descriptor standard
    close descriptor

/-- May the last of some commands be run in place of a process? In the extended language, it must be a
    simple one without redirections. -/
def isReplaceable (dialect : Dialect) : Command → Bool
  | .simple _ _ _ redirects => dialect = .standard || redirects.isEmpty
  | .both _ last | .either _ last | .sequence _ last => isReplaceable dialect last
  | _ => dialect = .standard

/-- Runs the commands of a process to its end. -/
def runLast (run : Runner) (body : Option Command) : Action Unit := do
  let dialect := (← get).dialect
  run (.command body { last := body.all (isReplaceable dialect) })

/-- The output of commands that are run as a child. -/
def output (run : Runner) (body : Option Command) : Action Bytes := do
  match body with
  | none => return []
  | some _ =>
    match ← openPipe ⟨.supply [] true, true, false⟩ ⟨.collector [] none, false, true⟩ with
    | none => pipeFailed
    | some ((source, _), (sink, pipe)) =>
      let (_, ending) ← inChild <| Task.conclude run do
        modify fun state => { state with
          extras := { state.extras with traceDepth := state.extras.traceDepth + 1 } }
        close source
        useAs 1 sink
        runLast run body
      close sink
      close source
      reportEnding ending
      modify fun state => { state with substitutionStatus := ending.status }
      return (← get).world.collected pipe

/-- The file that stands alone as input in a substitution of the extended language: what it stands for is
    the content. -/
def soleInput? (body : Option Command) : Option Word :=
  let target? : Option Command → Option Word
    | some (.simple _ [] [] [.file 0 .input target]) => some target
    | _ => none
  match body with
  | some (.text content) =>
    match CommandLine.next? { rest := content ++ [10], dialect := .extended } with
    | .ok (some line) => if line.after.rest.isEmpty then target? line.command else none
    | _ => none
  | other => target? other

/-- The highest descriptor that leads to a substituted process. -/
def highestBorrowed : Nat := 63

/-- A descriptor for an open file that is needed as long as a command runs, as a path. -/
def lend (file : Nat) (owner : Borrowed) : Action Bytes := do
  let state ← get
  let isFree (n : Nat) : Bool := (Host.Descriptor.file? state.descriptors n).isNone
  let numbers := (List.range (highestBorrowed + 1)).reverse
  match numbers.find? isFree with
  | none => failWith (.noPipe .EMFILE)
  | some number =>
    connect number file
    modify fun state => { state with
      extras := { state.extras with
        borrowed := { owner with descriptor := number } :: state.extras.borrowed } }
    return utf8 "/dev/fd/" ++ Bytes.decimal number

/-- Runs commands whose output is read under a path, or prepares to run them on what is written there. -/
def lendProcess (run : Runner) (reads : Bool) (body : Option Command) : Action Bytes := do
  if reads then
    let before ← get
    let content ← output run body
    modify fun state => { state with substitutionStatus := before.substitutionStatus }
    lend (← addFile ⟨.supply content true, true, false⟩) {}
  else
    let sink ← addFile ⟨.collector [] none, false, true⟩
    lend sink { sink? := some sink, body }

/-- Closes the descriptors that were lent down to a number of them, and runs the commands that read what
    was written. -/
def giveBack (run : Runner) (count : Nat) : Action Unit := do
  let borrowed := (← get).extras.borrowed
  for owner in borrowed.take (borrowed.length - count) do
    close owner.descriptor
    match owner.sink? with
    | none => pure ()
    | some sink =>
      let content := (← get).world.collected sink
      let source ← addFile ⟨.supply content true, true, false⟩
      let _ ← inChild <| Task.conclude run do
        connect 0 source
        run (.command owner.body { last := true })
  modify fun state => { state with
    extras := { state.extras with borrowed := borrowed.drop (borrowed.length - count) } }

/-- How commands inside of words are run. The standard language drops NULs from output in silence. -/
def substitute (run : Runner) : Expansion.Substitute where
  output := fun body => do
    match (← get).dialect, soleInput? body with
    | .standard, _ => return (← output run body).filter (· != 0)
    | .extended, none =>
      let read ← output run body
      if read.contains 0 then
        warn (utf8 "warning: command substitution: ignored null byte in input")
      return read.filter (· != 0)
    | .extended, some target =>
      let path ← Expansion.text {
        output := fun body => output run body, process := lendProcess run } .single target
      match ← openPath .input path with
      | .error errno =>
        complain (.cannotOpen false path errno)
        modify fun state => { state with substitutionStatus := 1 }
        return []
      | .ok number =>
        let content ← readInput number none
        close number
        modify fun state => { state with substitutionStatus := 0 }
        match content with
        | .ok content => return content.filter (· != 0)
        | .error _ => return []
  process := lendProcess run

/-- Bytes a pipe holds. -/
def pipeRoom : Nat := 65536

/-- Looks for a command before the processes are made that will run it. -/
def prepare : Command → Action Unit
  | .simple _ _ (word :: _) _ => do
    match Parser.bareText word with
    | some name =>
      if Parser.isName name then
        let _ ← Lookup.find {} name
    | none => pure ()
  | _ => pure ()

/-- How the processes of a pipeline are made: as children that are waited for, or in the background. The
    result is the number of the process, when it ends, and how. -/
abbrev Making := Action Unit → Action (Nat × Nat × Ending)

def inForeground : Making := fun action => do
  let (pid, ending) ← inChild action
  return (pid, (← get).world.clock, ending)

/-- Runs the last stage of a pipeline in this process. -/
def runHere (run : Runner) (manner : Manner) (input : Option Nat) (stage : Command) : Action Unit := do
  let body : Action Unit := run (.command (some stage) { tested := manner.tested })
  match input with
  | none | some 0 => body
  | some descriptor =>
    let saved ← moveAway 0
    let _ ← duplicate descriptor 0
    close descriptor
    andFinally body do
      close 0
      match saved with
      | .moved number =>
        let _ ← duplicate number 0
        close number
      | _ => pure ()

/-- Runs stages. `input` is the descriptor to read from, which is closed by then. `lastHere` says that the last
    one runs in this process. -/
def stages (run : Runner) (make : Making) (lastHere : Bool) (manner : Manner) :
    (input : Option Nat) → List Command → Action (List (Nat × Nat × Ending))
  | _, [] => return []
  | input, stage :: rest => do
    let closeInput : Action Unit := do
      match input with
      | some descriptor => close descriptor
      | none => pure ()
    let useInput : Action Unit := do
      match input with
      | some 0 | none => pure ()
      | some descriptor => useAs 0 descriptor
    let runStage : Action Unit := do
      modify fun state => { state with extras := { state.extras with isStage := true } }
      run (.command (some stage) { manner with last := true })
    if (← get).dialect = .standard then prepare stage
    if rest.isEmpty && lastHere then
      runHere run manner input stage
      return [(0, (← get).world.clock, .exited (← get).status)]
    if rest.isEmpty then
      let process ← make (Task.conclude run do useInput; runStage)
      closeInput
      return [process]
    let before ← get
    let attempt (room : Nat) : Action (List (Nat × Nat × Ending)) := do
      set before
      match ← openPipe ⟨.supply [] false, true, false⟩ ⟨.collector [] (some room), false, true⟩ with
      | none =>
        closeInput
        pipeFailed
      | some ((source, sourcePipe), (sink, sinkPipe)) =>
        let process ← make <| Task.conclude run do
          close source
          useInput
          if sink > 1 then useAs 1 sink
          runStage
        closeInput
        close sink
        let world := (← get).world
        changeWorld (·.setFile sourcePipe
          (.supply (world.collected sinkPipe) (!world.isOverfull sinkPipe)))
        return process :: (← stages run make lastHere manner (some source) rest)
    try attempt pipeRoom catch
      | .starved =>
        try attempt (16 * pipeRoom) catch
          | .starved => attempt (256 * pipeRoom)
          | escape => throw escape
      | escape => throw escape

/-- Runs a pipeline. -/
def pipeline (run : Runner) (manner : Manner) (commands : List Command) : Action Unit := do
  let lastHere := (← get).dialect = .extended && (← get).extras.switches.contains (utf8 "lastpipe")
  let processes ← stages run inForeground lastHere manner none commands
  let endings := processes.map (·.2.2)
  reapAll endings
  let statuses := endings.map (·.status)
  modify fun state => { state with extras := { state.extras with stageStatuses := statuses } }
  if (← get).options.isOn .pipeFailure then
    setStatus ((statuses.reverse.find? (· ≠ 0)).getD 0)

/-- What processes in the background do first: they ignore some signals, and the first of them reads
    nothing. -/
def enterBackground (isFirst : Bool) : Action Unit := do
  modify fun state => { state with
    ignored := 2 :: 3 :: state.ignored, extras := { state.extras with inheritedJobs := [] } }
  if isFirst then
    close 0
    match ← openPath .input (utf8 "/dev/null") with
    | .ok 0 => pure ()
    | _ => fail (utf8 "Can't open /dev/null")

/-- Runs a pipeline in the background. -/
def pipelineInBackground (run : Runner) (manner : Manner) (commands : List Command)
    (written : List Written) : Action Unit := do
  let first := (← get).world.nextPid
  let make : Making := fun action => inBackground do
    enterBackground ((← get).pid = first)
    action
  Job.add (← stages run make false manner none commands) written
  setStatus 0

/-- Runs a computation in the background. -/
def runInBackground (run : Runner) (written : List Written) (action : Action Unit) : Action Unit := do
  let process ← inBackground do
    enterBackground true
    Task.conclude run action
  Job.add [process] written
  setStatus 0

end Process

end CleanLaunch.Shell
