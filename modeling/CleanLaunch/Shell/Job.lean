import CleanLaunch.Shell.State

/-! Children of a shell: waiting for them, and signals to and from processes.

    A child in the foreground has ended when its parent goes on, so waiting for it only takes note of its
    ending. A child in the background is known to end at some time: it runs until the clock has reached
    that time. -/

namespace CleanLaunch.Shell

open Shell.Action

namespace Job

/-- Is any of a job's processes still running? -/
def isRunning (job : Job) (clock : Nat) : Bool := job.processes.any fun (_, finish, _) => clock < finish

/-- When the last of a job's processes ends. -/
def finish (job : Job) : Nat := job.processes.foldl (fun time (_, finish, _) => max time finish) 0

/-- The ending of the last process. -/
def ending (job : Job) : Ending :=
  match job.processes.getLast? with
  | some (_, _, ending) => ending
  | none => .exited 0

/-- Is a process the last one of a job? -/
def endsWith (job : Job) (pid : Nat) : Bool := job.processes.getLast?.any (·.1 = pid)

/-- Makes the last job that runs the current one, and the last one before it the previous one. -/
def chooseCurrent : Action Unit :=
  modify fun state =>
    let running := (state.jobs.filter (·.isRunning state.world.clock)).map (·.number)
    let numbers := running.mergeSort fun a b => b ≤ a
    { state with extras := { state.extras with
        currentJob := numbers.head?, previousJob := (numbers[1]?).or numbers.head? } }

/-- Replaces a job. -/
def update (job : Job) : Action Unit :=
  modify fun state => { state with
    jobs := state.jobs.map fun other => if other.number = job.number then job else other }

def remove (job : Job) : Action Unit :=
  modify fun state => { state with jobs := state.jobs.filter (·.number ≠ job.number) }

/-- Forgets a job. If it was the current or the previous one, others take their places. -/
def forget (job : Job) : Action Unit := do
  remove job
  let extras := (← get).extras
  if extras.currentJob = some job.number || extras.previousJob = some job.number then chooseCurrent

/-- Forgets the jobs that have ended and been told so. -/
def sweep : Action Unit := do
  let state ← get
  for job in state.jobs do
    if !job.isRunning state.world.clock && job.isTold then forget job

/-- What a shell of the extended language does with its jobs when a process in the foreground has ended: of
    those that have ended, it only keeps the last one that was started. -/
def settle : Action Unit := do
  let state ← get
  if state.dialect = .extended then
    for job in state.jobs do
      let isLast := (job.processes.getLast?.map (·.1)) = state.lastBackground
      if !job.isRunning state.world.clock && !isLast then update { job with isTold := true }
    sweep

/-- The number of the next job: the lowest one that is free, where a job that has ended and been waited for
    makes room for another one; in the extended language, the one behind the last job. -/
def nextNumber (state : State) : Nat :=
  match state.dialect with
  | .standard =>
    let isOver (job : Job) : Bool := !job.isRunning state.world.clock && job.isWaited
    let isFree (n : Nat) : Bool := state.jobs.all fun job => job.number ≠ n || isOver job
    let numbers := List.range' 1 (state.jobs.length + 1)
    (numbers.find? isFree).getD 1
  | .extended => state.jobs.foldl (fun most job => max most job.number) 0 + 1

/-- Adds a job. -/
def add (processes : List (Nat × Nat × Ending)) (written : List Written) : Action Unit := do
  if (← get).dialect = .extended then sweep
  modify fun state =>
    let number := nextNumber state
    { state with
      jobs := { number, processes, written } :: state.jobs.filter (·.number ≠ number)
      lastBackground := (processes.getLast?.map (·.1)).or state.lastBackground }
  if (← get).dialect = .extended then chooseCurrent

end Job

namespace Action

/-- Says how a child ended that was killed, if the shell is one that does so. -/
def reportEnding (ending : Ending) : Action Unit := do
  if (← get).dialect = .extended then return ()
  match ending with
  | .killed signal =>
    match Signal.report? signal with
    | some text => printError (text ++ [10])
    | none => pure ()
  | .exited _ => pure ()

/-- A signal without an action arrives at this process. -/
def suffer (signal : Nat) : Action Unit := do
  let isIgnored := isIgnored (← get) signal
  if Signal.isCatchable signal && (isIgnored || Signal.isHarmless signal) then pure ()
  else if Signal.isStop signal then leave .abandoned
  else leave (.killed signal)

/-- Signals that processes in the background do not care about. -/
def isVain (signal : Nat) : Bool := signal = 2 || signal = 3 || Signal.isHarmless signal

/-- Sends a signal to a process in the background. The process has run already, so it must have known. -/
def strike (signal pid : Nat) : Action Unit := do
  let state ← get
  let arrival : Host.Arrival := { pid, signal, time := state.world.clock }
  if signal = 0 || isVain signal then pure ()
  else if Signal.isStop signal then leave .abandoned
  else if state.world.foreseen.contains arrival then pure ()
  else leave (.unforeseen arrival)

/-- Sends a signal to a process. The result says whether there is one. -/
def send (signal pid : Nat) : Action Bool := do
  let state ← get
  let clock := state.world.clock
  let arrive : Action Unit := changeWorld fun world =>
    { world with pending := world.pending ++ [{ pid, signal, time := clock }] }
  if pid = state.pid then
    if signal ≠ 0 then if isTrapped state signal then arrive else suffer signal
    return true
  else if state.waiting.any (·.pid = pid) then
    if signal ≠ 0 then arrive
    return true
  else if state.jobs.any fun job => job.processes.any fun (own, finish, _) => own = pid && clock < finish
  then
    strike signal pid
    return true
  else return pid = state.parent || pid = 1

/-- Is a signal meant for this process, and has it not been there yet? -/
def isMeant (state : State) (arrival : Host.Arrival) : Bool :=
  (arrival.pid = state.pid || (arrival.isShared && state.waiting.any (·.pid = arrival.pid))) &&
    !arrival.reached.contains state.pid

/-- The signals on their way, after some of them have reached a process. -/
def withReached (pid : Nat) (isHere : Host.Arrival → Bool) (pending : List Host.Arrival) :
    List Host.Arrival :=
  pending.filterMap fun arrival =>
    if !isHere arrival then some arrival
    else if arrival.isShared then some { arrival with reached := pid :: arrival.reached }
    else none

/-- A signal without an action takes effect here, at the time when it arrived. -/
def sufferAt (arrival : Host.Arrival) : Action Unit := do
  let clock := (← get).world.clock
  changeWorld fun world => { world with clock := min clock arrival.time }
  suffer arrival.signal
  changeWorld fun world => { world with clock }

/-- The signals that have arrived here and have an action, in the order of their numbers. Those without
    one take effect. -/
def arrived : Action (List Nat) := do
  let state ← get
  if state.world.pending.isEmpty then return []
  let isHere (arrival : Host.Arrival) : Bool :=
    isMeant state arrival && arrival.time ≤ state.world.clock
  let here := state.world.pending.filter isHere
  let (trapped, bare) := here.partition fun arrival => isTrapped state arrival.signal
  let isBare (arrival : Host.Arrival) : Bool := isHere arrival && !isTrapped state arrival.signal
  changeWorld fun world => { world with pending := withReached state.pid isBare world.pending }
  for arrival in bare do sufferAt arrival
  let signals := trapped.map (·.signal)
  let children := if state.dialect = .extended then signals.count childSignal - 1 else 0
  return (signals.eraseDups ++ List.replicate children childSignal).mergeSort (· ≤ ·)

/-- Takes note of children in the foreground; the status is that of the last one. -/
def reapAll (endings : List Ending) : Action Unit := do
  let _ ← arrived
  for ending in endings do
    reportEnding ending
    setStatus ending.status
  Job.settle

/-- Takes note that a signal has been acted on. -/
def settle (signal : Nat) : Action Unit :=
  modify fun state => { state with world := { state.world with
    pending := withReached state.pid (fun arrival =>
      isMeant state arrival && arrival.signal = signal && arrival.time ≤ state.world.clock)
      state.world.pending } }

/-- Waits until a time, or until a signal arrives that has an action. -/
def waitUntil (time : Nat) : Action (Option Nat) := do
  let state ← get
  let matters (signal : Nat) : Bool :=
    !isIgnored state signal && (isTrapped state signal || !Signal.isHarmless signal)
  let isPassedOver (signal : Nat) : Bool :=
    signal = childSignal && !(state.dialect = .extended && state.options.isOn .strict)
  let mine := state.world.pending.filter fun arrival =>
    isMeant state arrival && arrival.time ≤ time && !isPassedOver arrival.signal &&
      (matters arrival.signal || !Signal.isCatchable arrival.signal)
  match mine.mergeSort fun a b => a.time ≤ b.time with
  | [] =>
    changeWorld fun world => { world with clock := max world.clock time }
    if isOverdue (← get) then leave (.killed 9)
    return none
  | first :: _ =>
    changeWorld fun world => { world with clock := max world.clock first.time }
    if isTrapped state first.signal && Signal.isCatchable first.signal then return some first.signal
    else
      suffer first.signal
      return none

end Action

end CleanLaunch.Shell
