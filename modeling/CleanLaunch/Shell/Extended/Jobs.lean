import CleanLaunch.Shell.Builtin.Processes
import CleanLaunch.Shell.Extended.Lists
import CleanLaunch.Shell.Extended.OutlineText
import CleanLaunch.Shell.Extended.Usage

/-! The builtins of the extended language about jobs: `jobs`, `wait`, `disown`, `fg` and `bg`.

    A job that has ended stays until it is told that it has, and until it is swept away. A strict shell
    forgets a job at once when its processes have been waited for. -/

namespace CleanLaunch.Shell

namespace Jobs

open Shell.Action

/-- The jobs that a text like `%1` may stand for. -/
def candidates (state : State) (word : Bytes) : List Job :=
  let numbered (number? : Option Nat) : List Job :=
    (number?.bind fun n => state.jobs.find? (·.number = n)).toList
  match word with
  | [37] | [37, 37] | [37, 43] => numbered state.extras.currentJob
  | [37, 45] => numbered state.extras.previousJob
  | 37 :: name =>
    if name.all Bytes.isDigit then numbered (some (Number.digits 10 name).1)
    else
      let isMeant (job : Job) : Bool :=
        let text := Outline.shownList false state.hereTexts job.written
        match name with
        | 63 :: part => (List.range (text.length + 1)).any fun n => part.isPrefixOf (text.drop n)
        | _ => name.isPrefixOf text
      state.jobs.filter isMeant
  | _ => []

/-- The job that a text like `%1` stands for. It is reported if there is none, or more than one. -/
def find? (word : Bytes) : Action (Option Job) := do
  match candidates (← get) word with
  | [job] => return some job
  | [] =>
    warn (word ++ utf8 ": no such job")
    return none
  | _ =>
    let name := word.drop 1
    warn ((if name.head? = some 63 then name.drop 1 else name) ++ utf8 ": ambiguous job spec")
    return none

/-- The job of a process, or the one that a text like `%1` stands for. -/
def ofWord? (word : Bytes) : Action (Option Job) := do
  match Usage.number? word with
  | some pid =>
    match (← get).jobs.find? fun job => job.processes.any (·.1 = pid.toNat) with
    | some job => return some job
    | none =>
      warn (word ++ utf8 ": no such job")
      return none
  | none => find? word

/-- What is told about jobs. -/
structure View where
  /-- Are their processes told one by one, or only the first one's number? -/
  isLong : Bool
  onlyNumber : Bool

/-- Columns that the state of a process takes. -/
def stateWidth : Nat := 24

/-- The state of a process, given whether it still runs and how it ends. -/
def stateText (isStrict isRunning : Bool) (ending : Ending) : Bytes :=
  if isRunning then utf8 "Running"
  else match ending with
    | .exited 0 => utf8 "Done"
    | .exited status =>
      if isStrict then utf8 "Done(" ++ Bytes.decimal status ++ [41]
      else utf8 "Exit " ++ Bytes.decimal status
    | .killed signal => Signal.told signal

/-- Is a piece of a command line the sign that turns a command to its contrary? It is not shown in jobs. -/
def isContrary : Written → Bool
  | .keyword .bang => true
  | _ => false

/-- The lines that show a job. With its processes one by one, each stage of a pipeline has a line. -/
def shown (view : View) (state : State) (job : Job) : Bytes :=
  let clock := state.world.clock
  let pids := job.processes.map (·.1)
  if view.onlyNumber then Bytes.decimal (pids.headD 0) ++ [10]
  else
    let sign : UInt8 := if state.extras.currentJob = some job.number then 43
      else if state.extras.previousJob = some job.number then 45 else 32
    let isRunning := job.isRunning clock
    let told := stateText (state.options.isOn .strict) isRunning job.ending
    let mark := if isRunning then utf8 " &" else []
    let front := 91 :: Bytes.decimal job.number ++ [93, sign, 32]
    let padded := told ++ List.replicate (stateWidth - told.length) 32
    let commands := Outline.shownList false state.hereTexts (job.written.dropWhile isContrary)
    if !view.isLong then front ++ 32 :: padded ++ commands ++ mark ++ [10]
    else
      let stages := Outline.shownStages state.hereTexts job.written
      match pids with
      | [] | [_] =>
        front ++ Bytes.decimal (pids.headD 0) ++ 32 :: padded ++ commands ++ mark ++ [10]
      | first :: rest =>
        front ++ Bytes.decimal first ++ 32 :: padded ++ stages.headD [] ++ [10] ++
          Bytes.joinWith [10] ((rest.zip (stages.drop 1)).map fun (pid, stage) =>
            List.replicate 5 32 ++ Bytes.decimal pid ++ List.replicate (stateWidth - 1) 32 ++
              utf8 "| " ++ stage) ++ mark ++ [10]

/-- Runs `jobs`. Jobs that have ended are shown once. -/
def list (arguments : List Bytes) : Action Nat := do
  let read ← Usage.flags "lpnxrs" arguments
  if read.has 'x' then leave .abandoned
  Job.sweep
  let state ← get
  let clock := state.world.clock
  let mut status := 0
  let isAsked (job : Job) : Bool :=
    (!read.has 'r' || job.isRunning clock) && !read.has 's' && (!read.has 'n' || !job.isTold)
  let known := if state.jobs.isEmpty then state.extras.inheritedJobs else state.jobs
  let ordered := known.mergeSort fun a b => a.number ≤ b.number
  let mut chosen : List Job := if read.rest.isEmpty then ordered.filter isAsked else []
  for word in read.rest do
    match ← find? word with
    | some job => chosen := chosen ++ [job]
    | none => status := 1
  for job in chosen do
    print (shown { isLong := read.has 'l', onlyNumber := read.has 'p' } state job)
    Job.update { job with isTold := true }
  return status

/-- Waits for a job until it has ended, which it is told then; gives its status, or the one of a signal that
    came first. In a strict shell, it is forgotten if it was named by a process. -/
def waitFor (byProcess : Bool) (job : Job) : Action Nat := do
  match ← Processes.waitFor job false with
  | some status => return status
  | none =>
    Job.update { job with isWaited := true, isTold := true }
    if byProcess && (← get).options.isOn .strict then Job.sweep
    return job.ending.status

/-- Waits for the next job that ends. -/
def waitNext (jobs : List Job) : Action (Nat × Option Nat) := do
  let jobs := (jobs.filter (!·.isTold)).mergeSort fun a b => a.finish ≤ b.finish
  match jobs with
  | [] => return (127, none)
  | job :: _ =>
    let status ← waitFor true job
    return (status, job.processes.getLast?.map (·.1))

/-- Waits for the process or job that a word names, and gives its status. -/
def waitOne (word : Bytes) : Action Nat := do
  match word with
  | 37 :: _ =>
    match ← find? word with
    | some job => waitFor false job
    | none => return 127
  | first :: _ =>
    match if Bytes.isDigit first then Usage.number? word else none with
    | some pid =>
      match (← get).jobs.find? fun job => job.processes.any (·.1 = pid.toNat) with
      | some job => waitFor true job
      | none =>
        warn (utf8 "pid " ++ Number.text pid ++ utf8 " is not a child of this shell")
        return 127
    | none => refuse
  | [] => refuse
where
  refuse : Action Nat := Usage.failing (utf8 "\x60" ++ word ++ utf8 "': not a pid or valid job spec")

/-- Waits for all jobs, in the order in which they end; a signal ends the waiting. -/
def waitAll : List Job → Action Nat
  | [] => return 0
  | job :: rest => do
    match ← Processes.waitFor job false with
    | some status => return status
    | none =>
      Job.update { job with isWaited := true, isTold := true }
      Job.sweep
      waitAll rest

/-- Runs `wait`. -/
def wait (arguments : List Bytes) : Action Nat := do
  let read ← Usage.flags "fnp:" arguments
  if read.has 'n' then
    let state ← get
    let mut jobs : List Job := if read.rest.isEmpty then state.jobs else []
    for word in read.rest do
      jobs := jobs ++ (← ofWord? word).toList
    let (status, pid?) ← waitNext jobs
    match Usage.argument? read 'p', pid? with
    | some name, some pid => Lists.assign name (Bytes.decimal pid)
    | _, _ => pure ()
    return status
  if read.rest.isEmpty then return ← waitAll ((← get).jobs.mergeSort fun a b => a.finish ≤ b.finish)
  let mut status := 0
  for word in read.rest do status ← waitOne word
  return status

/-- Runs `fg` and `bg`, which there is no use for. -/
def move (arguments : List Bytes) : Action Nat := do
  let _ ← Usage.flags "" arguments
  Usage.failing (utf8 "no job control")

/-- Runs `disown`. -/
def disown (arguments : List Bytes) : Action Nat := do
  let read ← Usage.flags "har" arguments
  if read.rest.isEmpty && (read.has 'a' || read.has 'r') then
    let clock := (← get).world.clock
    for job in (← get).jobs do
      if read.has 'a' || job.isRunning clock then
        if !read.has 'h' then Job.forget job
    return 0
  if read.rest.isEmpty then
    match candidates (← get) (utf8 "%%") with
    | [job] =>
      if !read.has 'h' then Job.forget job
      return 0
    | _ => return ← Usage.failing (utf8 "current: no such job")
  let mut status := 0
  for word in read.rest do
    match ← ofWord? word with
    | some job => if !read.has 'h' then Job.forget job
    | none => status := 1
  return status

end Jobs

end CleanLaunch.Shell
