import CleanLaunch.Shell.Builtin.Processes
import CleanLaunch.Shell.Extended.Jobs
import CleanLaunch.Shell.Extended.Quoting
import CleanLaunch.Shell.Extended.Usage
import CleanLaunch.Shell.Task

/-! The builtins of the extended language about signals: `kill` and `trap`; and `times`.

    What an action may be put on has a number: a signal, the end of the shell, which is 0, or one of the
    events that only this language knows. -/

namespace CleanLaunch.Shell

namespace Signals

open Shell.Action

/-- The numbers that no name stands for. -/
def isNameless (n : Nat) : Bool := n = 32 || n = 33

/-- The name of a signal or event, without anything before it. -/
def nameOf (n : Nat) : Bytes :=
  if n = 16 then utf8 "STKFLT"
  else if n = beforeCommand then utf8 "DEBUG"
  else if n = afterFailure then utf8 "ERR"
  else if n = afterReturn then utf8 "RETURN"
  else Signal.nameOf n

/-- Is a number that of a signal, and not of an event? -/
def isSignal (n : Nat) : Bool := 0 < n && n ≤ Signal.maxNumber

/-- The name of a signal with what every such name begins with; others have nothing before them. -/
def fullName (n : Nat) : Bytes := if isSignal n then utf8 "SIG" ++ nameOf n else nameOf n

/-- All numbers that an action may be put on. -/
def numbers : List Nat := List.range (afterReturn + 1)

/-- The number that a text stands for. `allowsFull` says that names may have their full form. -/
def number? (allowsFull : Bool) (text : Bytes) : Option Nat :=
  match Usage.number? text with
  | some value => if 0 ≤ value && value ≤ Signal.maxNumber then some value.toNat else none
  | none =>
    let lower (name : Bytes) : Bytes := name.map fun byte =>
      if 65 ≤ byte && byte ≤ 90 then byte + 32 else byte
    let given := lower text
    numbers.find? fun n =>
      !isNameless n && (lower (nameOf n) = given || (allowsFull && lower (fullName n) = given))

def refuseSignal (text : Bytes) : Action Unit := warn (text ++ utf8 ": invalid signal specification")

/-- The names of all signals: in one line where the shell is strict, otherwise in columns. -/
def listing (inColumns : Bool) : Bytes :=
  let named := (numbers.filter isSignal).filter (!isNameless ·)
  if inColumns then
    let cell (n : Nat) : Bytes :=
      let digits := Bytes.decimal n
      List.replicate (2 - digits.length) 32 ++ digits ++ utf8 ") " ++ fullName n
    let cells := named.zipIdx.flatMap fun (n, place) =>
      cell n ++ [if place % 5 = 4 then 10 else 9]
    if named.length % 5 = 0 then cells else cells ++ [10]
  else Bytes.joinWith [32] (named.map nameOf) ++ [10]

/-- Lists signals: those of some numbers or names, or all of them. -/
def list (words : List Bytes) : Action Nat := do
  let isStrict := (← get).options.isOn .strict
  if words.isEmpty then
    print (listing (!isStrict))
    return 0
  let mut status := 0
  for word in words do
    match Usage.number? word with
    | some value =>
      let value := if 128 < value then value - 128 else value
      if value < 0 || Signal.maxNumber < value then
        refuseSignal word
        status := 1
      else if !isNameless value.toNat then print (nameOf value.toNat ++ [10])
    | none =>
      match number? (!isStrict) word with
      | some n => print (Bytes.decimal n ++ [10])
      | none =>
        refuseSignal word
        status := 1
  return status

/-- What `kill` is to do. -/
structure Wish where
  lists : Bool := false
  /-- The signal as it was given. -/
  name? : Option Bytes := none
  targets : List Bytes := []

/-- Reads the words of `kill`. -/
def wish : (needsName : Bool) → Wish → List Bytes → Action Wish
  | true, _, [] => do
    warn (utf8 "-s: option requires an argument")
    setStatus 1
    let _ ← flush
    leave .failed
  | false, read, [] => return read
  | true, read, name :: rest => wish false { read with name? := some name } rest
  | false, read, word :: rest => do
    match word with
    | [45, 108] | [45, 76] => wish false { read with lists := true } rest
    | [45, 115] | [45, 110] => wish true read rest
    | [45, 45] => return { read with targets := rest }
    | [45, 63] => Usage.refuse
    | 45 :: letter :: more =>
      let isLetter := letter == 115 && more.head?.any fun byte => Parser.startsName byte && byte != 95
      let isNumber := letter == 110 && more.head?.any Bytes.isDigit
      if isLetter || isNumber then wish false { read with name? := some more } rest
      else if read.name?.isNone then wish false { read with name? := some (letter :: more) } rest
      else return { read with targets := word :: rest }
    | [45] =>
      if read.name?.isNone then wish false { read with name? := some [] } rest
      else return { read with targets := word :: rest }
    | _ => return { read with targets := word :: rest }

/-- Sends a signal to the process or job that a word names; says whether that was possible. -/
def sendTo (signal : Nat) (name word : Bytes) : Action Bool := do
  match Usage.number? word, word with
  | some pid, _ =>
    if Signal.maxNumber < signal then
      refuseSignal name
      return false
    let isThere ← if 0 < pid then send signal pid.toNat else pure false
    if !isThere then warn (utf8 "(" ++ Number.text pid ++ utf8 ") - No such process")
    return isThere
  | none, 37 :: _ =>
    match ← Jobs.find? word with
    | some job =>
      match job.processes.head? with
      | some (pid, _, _) => send signal pid
      | none => return false
    | none => return false
  | none, _ =>
    warn (word ++ utf8 ": arguments must be process or job IDs")
    return false

/-- Runs `kill`. -/
def kill (arguments : List Bytes) : Action Nat := do
  if arguments.isEmpty then Usage.refuse
  let wish ← wish false {} arguments
  if wish.lists then return ← list (if wish.targets = [] then [] else wish.targets)
  let name := wish.name?.getD (utf8 "TERM")
  match number? (!(← get).options.isOn .strict) name with
  | none =>
    refuseSignal name
    return 1
  | some signal =>
    if wish.targets.isEmpty then Usage.refuse
    let mut status := 1
    for word in wish.targets do
      if ← sendTo signal name word then status := 0
    return status

/-- The action on a signal as a command that puts it there. Without one, nothing is shown, or a dash. -/
def shown (state : State) (showsAll : Bool) (n : Nat) : Bytes :=
  let action? : Option Bytes := if state.ignored.contains n then some [] else state.traps.lookup n
  let text? := match action? with
    | some [] => some (utf8 "''")
    | some action => some (Quoting.single action)
    | none => if showsAll then some [45] else none
  let name := if isNameless n then Bytes.decimal n
    else if state.options.isOn .strict then nameOf n
    else fullName n
  match text? with
  | some text => utf8 "trap -- " ++ text ++ 32 :: name ++ [10]
  | none => []

/-- Shows the actions on some signals, or on all of them. -/
def showActions (showsAll : Bool) (words : List Bytes) : Action Nat := do
  let state ← get
  if words.isEmpty then
    print (numbers.flatMap (shown state showsAll))
    return 0
  let mut status := 0
  for word in words do
    match number? true word with
    | some n => print (shown state showsAll n)
    | none =>
      refuseSignal word
      status := 1
  return status

/-- Puts an action on some signals, or takes it away. A signal without effect from the start stays so. -/
def putActions (action? : Option Bytes) (words : List Bytes) : Action Nat := do
  let mut status := 0
  for word in words do
    match number? true word with
    | some n => if !(← get).ignored.contains n then Processes.putTrap action? n
    | none =>
      refuseSignal word
      status := 1
  return status

/-- Runs `trap`. -/
def trap (arguments : List Bytes) : Action Nat := do
  let read ← Usage.flags "lp" arguments
  let isStrict := (← get).options.isOn .strict
  if read.has 'l' then
    print (listing true)
    return 0
  match read.has 'p', read.rest with
  | true, words => showActions isStrict words
  | false, [] => showActions false []
  | false, first :: rest =>
    let isNumber := !first.isEmpty && first.all Bytes.isDigit && (number? true first).isSome
    let isName := !isStrict && rest.isEmpty && !first.isEmpty && (number? true first).isSome
    if isNumber || isName then putActions none (first :: rest)
    else if rest.isEmpty then Usage.refuse
    else putActions (if first = [45] then none else some first) rest

/-- Runs `times`. No time is used that could be measured. -/
def times : Action Nat := do
  let pair := utf8 "0m0.000s 0m0.000s\n"
  print (pair ++ pair)
  return 0

end Signals

end CleanLaunch.Shell
