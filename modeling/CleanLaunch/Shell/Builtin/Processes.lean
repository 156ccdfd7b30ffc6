import CleanLaunch.Shell.Builtin.Arguments
import CleanLaunch.Shell.Job
import CleanLaunch.Shell.Variables

/-! The builtins about other processes: `kill`, `trap`, `wait`, `jobs` and `times`. -/

namespace CleanLaunch.Shell

namespace Processes

open Shell.Action

/-- The job a text like `%1` stands for; without a text, the current one. -/
def jobOf (text? : Option Bytes) : Action Job := do
  let jobs := (← get).jobs
  let found (job? : Option Job) (problem : Bytes) : Action Job := do
    match job? with
    | some job => return job
    | none => fail problem
  match text? with
  | none | some [37] | some [37, 43] | some [37, 37] =>
    found jobs.head? (utf8 "No current job")
  | some [37, 45] => found jobs[1]? (utf8 "No previous job")
  | some text =>
    let problem := utf8 "No such job: " ++ text
    match text with
    | 37 :: name =>
      if !name.isEmpty && name.all Bytes.isDigit then
        let n := (Number.digits 10 name).1
        found (jobs.find? (·.number = n)) problem
      else if name = [63] then
        found (if jobs.length = 1 then jobs.head? else none)
          (if jobs.isEmpty then problem else text ++ utf8 ": ambiguous")
      else fail problem
    | _ => fail problem

/-- The signals by name, or the one a status or number stands for. -/
def signalListing (words : List Bytes) : Action Nat := do
  match words with
  | [] =>
    let numbers := (List.range (Signal.maxNumber + 1)).drop 1
    print (utf8 "0\n" ++ numbers.flatMap fun n => Signal.nameOf n ++ [10])
    return 0
  | text :: _ =>
    let n ← number text
    let n := if 128 < n then n - 128 else n
    if 0 < n && n ≤ Signal.maxNumber then
      print (Signal.nameOf n ++ [10])
      return 0
    else fail (utf8 "invalid signal number or exit status: " ++ text)

def killUsage : Bytes :=
  utf8 "Usage: kill [-s sigspec | -signum | -sigspec] [pid | job]... or\nkill -l [exitstatus]"

/-- What `kill` is to do: the signal to send, unless signals are to be listed, and the words behind
    it. -/
def signalAndTargets (arguments : List Bytes) : Action (Option Nat × List Bytes) := do
  match arguments with
  | (45 :: text) :: words =>
    match Signal.number? 1 text with
    | some n => return (some n, words)
    | none =>
      let read ← Arguments.flags "ls:" arguments
      let mut signal := 15
      for (letter, name) in read.flags.reverse do
        if letter == 115 then
          match Signal.number? 1 name with
          | some n => signal := n
          | none => fail (utf8 "invalid signal number or name: " ++ name)
      return (if read.has 'l' then none else some signal, read.rest)
  | words => return (some 15, words)

/-- Sends a signal to the processes a word names. -/
def sendTo (signal : Nat) (word : Bytes) : Action Bool := do
  match word with
  | 37 :: _ =>
    let _ ← jobOf (some word)
    return false
  | 45 :: text =>
    let _ ← number text
    return false
  | _ => send signal (← number word)

/-- Runs `kill`. -/
def kill (arguments : List Bytes) : Action Nat := do
  if arguments.isEmpty then fail killUsage
  match ← signalAndTargets arguments with
  | (none, words) => signalListing words
  | (some _, []) => fail killUsage
  | (some signal, words) =>
    let mut status := 0
    for word in words do
      if !(← sendTo signal word) then
        warn (utf8 "No such process\n")
        status := 1
    return status

/-- Puts an action on a signal, or takes it away. -/
def putTrap (action? : Option Bytes) (signal : Nat) : Action Unit :=
  modify fun state =>
    let others := state.traps.filter (·.1 ≠ signal)
    { state with traps := match action? with
        | some action => (signal, action) :: others
        | none => others }

/-- Puts an action on the signals of some names. -/
def putTraps (action? : Option Bytes) : (names : List Bytes) → Action Nat
  | [] => return 0
  | name :: rest => do
    match Signal.number? 0 name with
    | some n =>
      putTrap (action?.filter (· ≠ [45])) n
      putTraps action? rest
    | none =>
      printError (utf8 "trap: " ++ name ++ utf8 ": bad trap\n")
      return 1

/-- Runs `trap`. -/
def trap (arguments : List Bytes) : Action Nat := do
  let words := (← Arguments.flags "" arguments).rest
  match words with
  | [] =>
    for (n, action) in (← get).traps.mergeSort fun a b => a.1 ≤ b.1 do
      print (utf8 "trap -- " ++ Variables.quoted action ++ 32 :: Signal.nameOf n ++ [10])
    return 0
  | first :: rest =>
    if rest.isEmpty || (Signal.numberOfDigits? first).isSome then putTraps none words
    else putTraps (some first) rest

/-- Waits for a job and gives its status; a signal that arrives first ends the waiting. -/
def waitFor (job : Job) (reports : Bool) : Action (Option Nat) := do
  let clock := (← get).world.clock
  match ← if job.isRunning clock then waitUntil job.finish else pure none with
  | some signal => return some (128 + signal)
  | none =>
    if reports && clock < job.finish then reportEnding job.ending
    Job.update { job with isWaited := true }
    return none

/-- Waits for the processes some words name; the last status counts. -/
def waitEach : (status : Nat) → (words : List Bytes) → Action Nat
  | status, [] => return status
  | status, word :: rest => do
    let job? ← match word with
      | 37 :: _ => some <$> jobOf (some word)
      | _ =>
        let pid ← number word
        pure ((← get).jobs.find? (·.endsWith pid))
    match job? with
    | none => waitEach status rest
    | some job =>
      match ← waitFor job true with
      | some status => return status
      | none => waitEach job.ending.status rest

/-- Waits for all jobs. -/
def waitAll : (jobs : List Job) → Action Nat
  | [] => return 0
  | job :: rest => do
    match ← waitFor job false with
    | some status => return status
    | none => waitAll rest

/-- Runs `wait`. -/
def wait (arguments : List Bytes) : Action Nat := do
  match (← Arguments.flags "" arguments).rest with
  | [] => waitAll (((← get).jobs).mergeSort fun a b => a.finish ≤ b.finish)
  | words => waitEach 127 words

/-- What is said of the state of a job. -/
def stateText (job : Job) (clock : Nat) : Bytes :=
  if job.isRunning clock then utf8 "Running"
  else match job.ending with
    | .exited 0 => utf8 "Done"
    | .exited status => utf8 "Done(" ++ Bytes.decimal status ++ utf8 ")"
    | .killed signal => ((Signal.find? signal).map fun signal => utf8 signal.text).getD []

/-- How `jobs` shows jobs. -/
inductive JobView
  | brief | withPids | onlyPid
  deriving DecidableEq

/-- Shows a job, and forgets it if it has ended. -/
def showJob (view : JobView) (job : Job) : Action Unit := do
  let state ← get
  let clock := state.world.clock
  let pids := job.processes.map (·.1)
  let mark (n : Nat) : Bool := state.jobs[n]?.any (·.number = job.number)
  if view = .onlyPid then print (Bytes.decimal (pids.headD 0) ++ [10])
  else
    let number := utf8 "[" ++ Bytes.decimal job.number ++ utf8 "]"
    let sign : Bytes := if mark 0 then utf8 " + " else if mark 1 then utf8 " - " else utf8 "   "
    let front := number ++ sign
    let pid (n : Nat) : Bytes := if view = .withPids then Bytes.decimal n ++ [32] else []
    let first := front ++ pid (pids.headD 0) ++ stateText job clock
    let blanks (used : Nat) : Bytes := List.replicate (max 1 (33 - used)) 32
    let rest := if view = .withPids then pids.drop 1 else []
    print (first ++ blanks first.length ++ rest.flatMap (fun n =>
      let text := List.replicate front.length 32 ++ Bytes.decimal n ++ [32]
      utf8 " |\n" ++ text ++ blanks text.length) ++
      (if view = .withPids then [] else ((pids.drop 1).flatMap fun _ => utf8 " | ")) ++ [10])
    if !job.isRunning clock then Job.remove job

/-- Runs `jobs`. -/
def listJobs (arguments : List Bytes) : Action Nat := do
  let read ← Arguments.flags "lp" arguments
  let view := match read.flags.head? with
    | some (108, _) => JobView.withPids
    | some _ => .onlyPid
    | none => .brief
  if read.rest.isEmpty then (← get).jobs.forM (showJob view)
  else for word in read.rest do showJob view (← jobOf (some word))
  return 0

/-- Runs `fg` and `bg`, which need jobs that can be moved. There are none. -/
def moveJob (arguments : List Bytes) : Action Nat := do
  let words := (← Arguments.flags "" arguments).rest
  let _ ← jobOf words.head?
  fail (utf8 "job " ++ words.headD (utf8 "(null)") ++ utf8 " not created under job control")

/-- Runs `times`. No time is used that could be measured. -/
def times : Action Nat := do
  let zero := utf8 "0m0.000000s"
  let pair := zero ++ 32 :: zero ++ [10]
  print (pair ++ pair)
  return 0

end Processes

end CleanLaunch.Shell
