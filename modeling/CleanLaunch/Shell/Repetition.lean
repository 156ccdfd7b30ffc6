import CleanLaunch.Shell.Task

/-! Loops.

    The body of a loop may say that loops are to be left or to go on with their next run, which the state's
    `skip` tells. Each level of loops that is left that way takes its part of it. -/

namespace CleanLaunch.Shell

open Shell.Action

namespace Repetition

/-- Takes note that one more level of loops has been left, and tells what the others are to do. -/
def passLoop : Action Skip := do
  let skip := (← get).skip
  let put (after : Skip) : Action Unit := modify fun state => { state with skip := after }
  match skip with
  | .breakLoops count =>
    put (if count ≤ 1 then .nothing else .breakLoops (count - 1))
    return skip
  | .continueLoops count =>
    put (if count ≤ 1 then .nothing else .continueLoops (count - 1))
    return if count ≤ 1 then skip else .breakLoops 0
  | other => return other

/-- Does a loop go on? -/
def goesOn : Skip → Bool
  | .nothing | .continueLoops _ => true
  | _ => false

/-- Runs a computation as part of a loop. -/
def inLoop (action : Action Unit) : Action Unit := do
  modify fun state => { state with loopDepth := state.loopDepth + 1 }
  action
  modify fun state => { state with loopDepth := state.loopDepth - 1 }

/-- Runs a loop with a test; the status is that of the last run of its body. -/
def loop (run : Runner) (tested whileFails : Bool) (test body : Option Command) : Action Unit :=
  inLoop do
    let status ← repeatFrom 0 fun before => do
      run (.command test { tested := true })
      let skip ← passLoop
      let status := (← get).status
      match skip with
      | .nothing =>
        if (status = 0) = whileFails then return (before, false)
        run (.command body { tested })
        let status := (← get).status
        return (status, goesOn (← passLoop))
      | .toReturn _ => return (status, false)
      | other => return (before, goesOn other)
    setStatus status

/-- Runs the body for each of some values, with something to be done before it. -/
def each (run : Runner) (tested : Bool) (body : Option Command) (before : Bytes → Action Unit) :
    (status : Nat) → List Bytes → Action Nat
  | status, [] => return status
  | _, value :: rest => do
    before value
    run (.command body { tested })
    let status := (← get).status
    if goesOn (← passLoop) then each run tested body before status rest else return status

end Repetition

end CleanLaunch.Shell
