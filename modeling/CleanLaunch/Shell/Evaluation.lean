import CleanLaunch.Shell.Extended.Compounds
import CleanLaunch.Shell.Extended.Invocation
import CleanLaunch.Shell.SimpleCommand

/-! Running commands.

    `Evaluation.command` runs a command by one level and leaves what is inside of it to a runner.
    Commands that follow in the same list are passed over while the state's `skip` says so. -/

namespace CleanLaunch.Shell

open Shell.Action

namespace Evaluation

def setLine (line : Nat) : Action Unit := modify fun state => { state with line }

/-- Does one of some patterns match a text? -/
def matchesAny (run : Runner) (subject : Bytes) : List Word → Action Bool
  | [] => return false
  | pattern :: rest => do
    if ← Expansion.isMatch (← Expansion.pattern (Process.substitute run) pattern) subject then
      return true
    else matchesAny run subject rest

/-- Runs the first arm with a pattern that matches, and what its end leads to. `entered` tells how an arm
    before has ended, if one has run. -/
def choose (run : Runner) (manner : Manner) (subject : Bytes) :
    (entered : Option ArmEnd) → List (List Word × Option Command × ArmEnd) → Action Unit
  | entered, [] => if entered.isNone then setStatus 0 else pure ()
  | entered, (patterns, body, ending) :: rest => do
    let isChosen ← if entered = some .enterNext then pure true else matchesAny run subject patterns
    if !isChosen then choose run manner subject entered rest
    else if ending = .leave || rest.isEmpty then
      if body.isSome then run (.command body manner) else setStatus 0
    else
      if body.isSome then run (.command body { manner with last := false }) else setStatus 0
      if (← get).skip = .nothing then choose run manner subject (some ending) rest

/-- Runs something in this process if that ends with it anyway, and as a child otherwise. -/
def separately (run : Runner) (manner : Manner) (inside : Action Unit) : Action Unit := do
  if manner.last && !SimpleCommand.hasTraps (← get) then
    inside
    leave .ended
  else
    let (_, ending) ← inChild (Task.conclude run inside)
    reapAll [ending]

/-- Runs a command in parentheses. -/
def subshell (run : Runner) (manner : Manner) (body : Option Command) (redirects : List Redirect) :
    Action Unit := do
  let substitute := Process.substitute run
  match (← get).dialect with
  | .standard =>
    let openings ← Opening.ofRedirects substitute redirects
    separately run manner do
      Opening.performAll substitute false openings
      run (.command body { manner with last := true })
  | .extended =>
    separately run { manner with last := false } do
      modify fun state => { state with
        extras := { state.extras with isStage := false, inheritedJobs := [] } }
      Redirecting.insist substitute redirects
      let isReplaceable := body.all fun command => match command with
        | .simple .. => true
        | other => Process.isReplaceable .extended other
      run (.command body { manner with last := isReplaceable })
    Compounds.recordStatus

/-- Runs a command with redirections in this process. The result says whether they have failed in a way that
    counts as a failure of the command. -/
def redirected (run : Runner) (manner : Manner) (body : Option Command) (redirects : List Redirect) :
    Action Bool := do
  let substitute := Process.substitute run
  let runBody : Action Unit := run (.command body { tested := manner.tested })
  match (← get).dialect with
  | .standard =>
    let openings ← Opening.ofRedirects substitute redirects
    Opening.pushTable openings
    if ← catchFailure (Opening.performAll substitute true openings) then setStatus 2
    else runBody
    if !openings.isEmpty then Opening.popTable false
    return false
  | .extended => Redirecting.within substitute false redirects runBody

/-- Runs a command in the background. -/
def background (run : Runner) (body : Option Command) (redirects : List Redirect)
    (written : List Written) : Action Unit := do
  let substitute := Process.substitute run
  match (← get).dialect with
  | .standard =>
    let openings ← Opening.ofRedirects substitute redirects
    Process.runInBackground run written do
      Opening.performAll substitute false openings
      run (.command body { last := true })
  | .extended =>
    Process.runInBackground run written do
      Redirecting.insist substitute redirects
      Process.runLast run body

/-- Runs a simple command. -/
def simple (run : Runner) (manner : Manner) (line : Nat) (assignments words : List Word)
    (redirects : List Redirect) : Action Unit := do
  setLine line
  match (← get).dialect with
  | .standard => SimpleCommand.run run manner assignments words redirects
  | .extended => Invocation.run run manner assignments words redirects

/-- Runs the body for each of the fields of some words. -/
def each (run : Runner) (manner : Manner) (line : Nat) (name : Bytes) (words : List Word)
    (body : Option Command) : Action Unit := do
  setLine line
  match (← get).dialect with
  | .standard =>
    let values := (← words.mapM (Expansion.fields (Process.substitute run))).flatten
    Repetition.inLoop do
      setStatus (← Repetition.each run manner.tested body (Variables.assign name) 0 values)
  | .extended => Compounds.loopOver run manner.tested line name words body

/-- Defines a function. -/
def define (line : Nat) (name : Bytes) (body : Command) (written : List Written) : Action Unit := do
  match (← get).dialect with
  | .standard =>
    modify fun state => { state with
      functions := { name, line, body } :: state.functions.filter (·.name ≠ name)
      hashed := state.hashed.filter (·.name ≠ name) }
    setStatus 0
  | .extended => Compounds.define line name body written

/-- Runs a command by one level. The result says whether a failure of it is an error. -/
def step (run : Runner) (manner : Manner) (command : Command) : Action Bool := do
  let runTested (command : Option Command) : Action Unit :=
    run (.command command { tested := true })
  match command with
  | .simple line assignments words redirects =>
    simple run manner line assignments words redirects
    return true
  | .pipeline stages background =>
    match background with
    | some written => Process.pipelineInBackground run manner stages written
    | none => Process.pipeline run manner stages
    return true
  | .negated command =>
    runTested (some command)
    setStatus (if (← get).status = 0 then 1 else 0)
    return false
  | .both first second =>
    runTested (some first)
    let state ← get
    if state.status = 0 && state.skip = .nothing then run (.command (some second) manner)
    return false
  | .either first second =>
    runTested (some first)
    let state ← get
    if state.status ≠ 0 && state.skip = .nothing then run (.command (some second) manner)
    return false
  | .sequence first second =>
    run (.command (some first) { tested := manner.tested })
    if (← get).skip = .nothing then run (.command (some second) manner)
    return false
  | .background line body redirects written =>
    setLine line
    background run body redirects written
    return true
  | .subshell line body redirects =>
    setLine line
    subshell run manner body redirects
    return true
  | .redirected line body redirects =>
    setLine line
    redirected run manner body redirects
  | .conditional test yes no =>
    runTested test
    let state ← get
    if state.skip = .nothing then
      if state.status = 0 then run (.command yes manner)
      else if no.isSome then run (.command no manner)
      else setStatus 0
    return false
  | .loop whileFails test body =>
    Repetition.loop run manner.tested whileFails test body
    return false
  | .each line name words body =>
    each run manner line name words body
    return false
  | .choose line subject arms =>
    setLine line
    if (← get).dialect = .extended then Compounds.enterChoice run subject
    let subject ← Expansion.text (Process.substitute run) .single subject
    choose run manner subject none arms
    return false
  | .define line name body written =>
    define line name body written
    return false
  | .expression line expression =>
    Compounds.decide run line (Tests.runExpression run expression)
    return true
  | .condition line test =>
    Compounds.decide run line (Tests.run run test)
    return true
  | .counted line start test step body =>
    Compounds.count run manner.tested line start test step body
    return false
  | .menu line name words body =>
    Compounds.menu run manner.tested line name words body
    return false
  | .timed portable command =>
    Compounds.time run manner portable command
    return false
  | .text content =>
    run (.text content .substituted manner)
    return false

/-- Runs a command, and what signals ask for before and after it. -/
def command (run : Runner) (manner : Manner) (command : Option Command) : Action Unit := do
  let runs := !(← get).options.isOn .readOnly
  let isChecked ← match if runs then command else none with
    | none => pure false
    | some command =>
      Task.takeSignals run
      step run manner command
  let failed := (← get).status ≠ 0
  Task.takeSignals run
  if isChecked && failed && !manner.tested then
    Task.onEvent run afterFailure
    if (← get).options.isOn .exitOnError then leave .ended
  if manner.last then leave .ended

end Evaluation

end CleanLaunch.Shell
