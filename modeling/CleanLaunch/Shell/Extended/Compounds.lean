import CleanLaunch.Shell.Extended.Finding
import CleanLaunch.Shell.Extended.Inputs
import CleanLaunch.Shell.Extended.Redirecting
import CleanLaunch.Shell.Extended.Tests
import CleanLaunch.Shell.Repetition

/-! Compound commands that only the extended language has, and what it does besides for others. -/

namespace CleanLaunch.Shell

namespace Compounds

open Shell.Action

def setLine (line : Nat) : Action Unit := modify fun state => { state with line }

/-- Takes note of the status of a command that is no pipeline. -/
def recordStatus : Action Unit :=
  modify fun state => { state with extras := { state.extras with stageStatuses := [state.status] } }

/-- Runs a condition or an expression as a command. -/
def decide (run : Runner) (line : Nat) (action : Action Unit) : Action Unit := do
  setLine line
  Task.onEvent run beforeCommand
  action
  recordStatus

/-- Why a name cannot be that of a function, if it cannot. -/
def functionProblem? (state : State) (name : Bytes) : Option Bytes :=
  let isStrict := state.options.isOn .strict
  let shown := utf8 "\x60" ++ name ++ utf8 "'"
  if isStrict && !Parser.isName name then some (shown ++ utf8 ": not a valid identifier")
  else if isStrict && Finding.specialBuiltins.contains name then
    some (shown ++ utf8 ": is a special builtin")
  else none

/-- Defines a function. A name that it cannot have ends a strict shell. -/
def define (line : Nat) (name : Bytes) (body : Command) (written : List Written) : Action Unit := do
  let state ← get
  match functionProblem? state name with
  | some problem =>
    setLine line
    warn problem
    setStatus 2
    leave .ended
  | none =>
    if state.functions.any fun function => function.name = name && function.readOnly then
      setLine line
      warn (name ++ utf8 ": readonly function")
      setStatus 1
      return
    let origin := if state.extras.frames.isEmpty && state.extras.commandLine.isSome
      then utf8 "environment" else state.place
    modify fun state => { state with
      functions := { name, line, body, origin, written } :: state.functions.filter (·.name ≠ name) }
    setStatus 0

/-- Shows the head of a command as it is written. -/
def showHead (run : Runner) (front : String) (words : List Word) : Action Unit :=
  Trace.display run (utf8 front ++ Bytes.joinWith [32] (words.map (Wording.text none)))

/-- Gives the variable of a loop its next value. A strict shell ends if it does not take it; otherwise the
    loop ends. -/
def assign (name value : Bytes) : Action Bool := do
  let failed ← catchFailure
    (Assigning.perform { name, content := .text value } fun entry => entry)
  if failed && (← get).options.isOn .strict then leave .failed
  return !failed

/-- Runs the body of a loop for each of some values. -/
def each (run : Runner) (tested : Bool) (line : Nat) (name : Bytes) (words : List Word)
    (body : Option Command) : (status : Nat) → List Bytes → Action Nat
  | status, [] => return status
  | _, value :: rest => do
    setLine line
    showHead run "for " ([name.map Part.bare, (utf8 "in").map Part.bare] ++ words)
    Task.onEvent run beforeCommand
    if !(← assign name value) then return 1
    run (.command body { tested })
    let status := (← get).status
    if Repetition.goesOn (← Repetition.passLoop) then each run tested line name words body status rest
    else return status

/-- Requires the name of a loop's variable to be one. A strict shell ends if it is none. -/
def requireName (name : Bytes) : Action Bool := do
  if Parser.isName name then return true
  complain (.badName name)
  if (← get).options.isOn .strict then
    setStatus 2
    leave .ended
  setStatus 1
  return false

/-- Runs a loop over words. -/
def loopOver (run : Runner) (tested : Bool) (line : Nat) (name : Bytes) (words : List Word)
    (body : Option Command) : Action Unit := do
  setLine line
  if ← requireName name then
    let values := (← words.mapM (Expansion.fields (Process.substitute run))).flatten
    Repetition.inLoop do setStatus (← each run tested line name words body 0 values)

/-- The value of one of the expressions of a counting loop; without one, it is missing. An error is reported. -/
def evaluate (run : Runner) (line : Nat) (expression : Word) : Action (Except Unit (Option Int)) := do
  let word := expression.dropWhile fun part => match part with
    | .bare byte => Number.isSpace byte
    | _ => false
  if word.isEmpty then return .ok none
  let before ← get
  set { before with line, builtin := some (utf8 "((") }
  let finish : Action Unit := modify fun state => { state with line := before.line, builtin := before.builtin }
  try
    let text ← Expansion.text (Process.substitute run) { tildeFirst := false } word
    Trace.display run (utf8 "(( " ++ text ++ utf8 " ))")
    Task.onEvent run beforeCommand
    let value ← if text.all Number.isSpace then pure 0 else Expansion.evaluate text
    finish
    return .ok (some value)
  catch
    | .failed =>
      finish
      return .error ()
    | escape => throw escape

/-- Runs a counting loop. -/
def count (run : Runner) (tested : Bool) (line : Nat) (start test step : Word) (body : Option Command) :
    Action Unit := do
  match ← evaluate run line start with
  | .error () => setStatus 1
  | .ok _ =>
    Repetition.inLoop do
      let status ← repeatFrom 0 fun status => do
        match ← evaluate run line test with
        | .error () => return (1, false)
        | .ok (some 0) => return (status, false)
        | .ok _ =>
          run (.command body { tested })
          let status := (← get).status
          if !Repetition.goesOn (← Repetition.passLoop) then return (status, false)
          match ← evaluate run line step with
          | .error () => return (1, false)
          | .ok _ => return (status, true)
      setStatus status

/-- Columns of the terminal that menus are made for, and columns between the stops of its tabulator. -/
def columns : Nat := 80

def tabWidth : Nat := 8

/-- Blanks from a column up to another one. -/
def indentation : (bound : Nat) → (first last : Nat) → Bytes
  | 0, _, _ => []
  | bound + 1, first, last =>
    if last ≤ first then []
    else if first / tabWidth < last / tabWidth then
      9 :: indentation bound (first + tabWidth - first % tabWidth) last
    else 32 :: indentation bound (first + 1) last

/-- A number of a menu, flush right in so many columns, with its word. -/
def item (width number : Nat) (word : Bytes) : Bytes :=
  let digits := Bytes.decimal number
  List.replicate (width - digits.length) 32 ++ digits ++ utf8 ") " ++ word

/-- The menu of some words, in columns. -/
def menuText (words : List Bytes) : Bytes :=
  let total := words.length
  let longest := words.foldl (fun most word => max most word.length) 0
  let numberWidth := (Bytes.decimal total).length
  let width := longest + numberWidth + 4
  let across := max 1 (columns / width)
  let rows := (total + across - 1) / across
  let across := if rows = 0 then 1 else (total + rows - 1) / rows
  let (rows, across) := if rows = 1 then (across, 1) else (rows, across)
  let firstWidth := (Bytes.decimal rows).length
  let line (row : Nat) : Bytes :=
    let cells := (List.range across).filterMap fun column =>
      let place := row + column * rows
      (words[place]?).map fun word =>
        item (if column = 0 then firstWidth else numberWidth) (place + 1) word
    let spaced := cells.zipIdx.map fun (cell, column) =>
      if column + 1 < cells.length then
        cell ++ indentation width (column * width + cell.length) (column * width + width)
      else cell
    spaced.flatten ++ [10]
  (List.range rows).flatMap line

/-- Asks for a word of a menu. Without a result, there is no more input. -/
def ask (words : List Bytes) (showsMenu : Bool) : Action (Option Bytes) := do
  let (answer, _) ← repeatFrom ((none, showsMenu) : Option Bytes × Bool) fun (_, showsMenu) => do
    if showsMenu then printError (menuText words)
    printError ((← valueOf? (utf8 "PS3")).getD (utf8 "#? "))
    if (← Inputs.read []) ≠ 0 then
      print [10]
      let _ ← flush
      return ((none, false), false)
    let reply := (← valueOf? (utf8 "REPLY")).getD []
    if reply.isEmpty then return ((none, true), true)
    let word := match Usage.number? reply with
      | some n => if 1 ≤ n then (words[n.toNat - 1]?).getD [] else []
      | none => []
    return ((some word, false), false)
  return answer

/-- Runs a loop over the words that are chosen from a menu. -/
def menu (run : Runner) (tested : Bool) (line : Nat) (name : Bytes) (words : List Word)
    (body : Option Command) : Action Unit := do
  setLine line
  showHead run "select " ([name.map Part.bare, (utf8 "in").map Part.bare] ++ words)
  Task.onEvent run beforeCommand
  if ← requireName name then
    let values := (← words.mapM (Expansion.fields (Process.substitute run))).flatten
    if values.isEmpty then setStatus 0
    else Repetition.inLoop do
      let (status, _) ← repeatFrom ((0, true) : Nat × Bool) fun (_, showsMenu) => do
        setLine line
        match ← ask values showsMenu with
        | none => return ((1, false), false)
        | some word =>
          if !(← assign name word) then return ((1, false), false)
          run (.command body { tested })
          let status := (← get).status
          let goesOn := Repetition.goesOn (← Repetition.passLoop)
          let reply := (← valueOf? (utf8 "REPLY")).getD [0]
          return ((status, reply.isEmpty), goesOn)
      setStatus status

/-- Runs a command and tells how long it took. No time is used that could be measured. A strict shell takes
    the sign of the portable form for a command. -/
def time (run : Runner) (manner : Manner) (portable : Bool) (command : Option Command) : Action Unit := do
  if command.isSome then run (.command command { manner with last := false }) else setStatus 0
  let line (name : String) : Bytes :=
    utf8 name ++ utf8 (if portable then " 0.00\n" else "\t0m0.000s\n")
  printError ((if portable then [] else [10]) ++ line "real" ++ line "user" ++ line "sys")

/-- Shows the head of a choice. -/
def enterChoice (run : Runner) (subject : Word) : Action Unit := do
  showHead run "case " [subject, (utf8 "in").map Part.bare]
  Task.onEvent run beforeCommand

end Compounds

end CleanLaunch.Shell
