import CleanLaunch.Shell.Builtin.Commands
import CleanLaunch.Shell.Extended.Declarations
import CleanLaunch.Shell.Extended.Finding
import CleanLaunch.Shell.Extended.Switches
import CleanLaunch.Shell.Trace

/-! The builtins of the extended language that direct what runs: leaving shells, functions and loops, and
    running texts, files and programs. -/

namespace CleanLaunch.Shell

namespace Control

open Shell.Action

/-- Ends the shell with a status, for which the builtin has said why. -/
def giveUp {α : Type} (status : Nat) : Action α := do
  setStatus status
  let _ ← flush
  leave .ended

/-- The arguments of a builtin without a mark that ends flags. -/
def operands (arguments : List Bytes) : List Bytes :=
  match arguments with
  | [45, 45] :: rest => rest
  | other => other

/-- A status given as a number of any size. -/
def statusOf (value : Int) : Nat := (value % 256).toNat

/-- The status among the arguments of a builtin, if it is a number. -/
def status? (arguments : List Bytes) : Action (Option (Option Nat)) := do
  match operands arguments with
  | [] => return some none
  | text :: rest =>
    match Usage.number? text with
    | some value =>
      if rest.isEmpty then return some (some (statusOf value))
      else
        warn (utf8 "too many arguments")
        giveUp 1
    | none =>
      warn (text ++ utf8 ": numeric argument required")
      return none

/-- Runs `exit`. -/
def exit (arguments : List Bytes) : Action Nat := do
  match ← status? arguments with
  | some none => pure ()
  | some (some status) => modify fun state => { state with heldStatus := some status }
  | none => modify fun state => { state with heldStatus := some 2 }
  leave .exiting

/-- Runs `return`. -/
def leaveFunction (arguments : List Bytes) : Action Nat := do
  let state ← get
  if state.extras.frames.isEmpty then
    warn (utf8 "can only \x60return' from a function or sourced script")
    setStatus 2
    leave .failed
  let status ← match ← status? arguments with
    | some none => pure state.status
    | some (some status) => pure status
    | none => pure 2
  modify fun state => { state with skip := .toReturn (!arguments.isEmpty) }
  return status

/-- Runs `break` or `continue`. -/
def leaveLoops (how : Nat → Skip) (arguments : List Bytes) : Action Nat := do
  let state ← get
  if state.loopDepth = 0 then
    if state.options.isOn .strict then return 0
    warn (utf8 "only meaningful in a \x60for', \x60while', or \x60until' loop")
    return 0
  match operands arguments with
  | [] =>
    modify fun state => { state with skip := how 1 }
    return 0
  | text :: rest =>
    match Usage.number? text with
    | none =>
      warn (text ++ utf8 ": numeric argument required")
      giveUp 128
    | some count =>
      if !rest.isEmpty then
        warn (utf8 "too many arguments")
        giveUp 1
      else if count ≤ 0 then
        warn (text ++ utf8 ": loop count out of range")
        modify fun state => { state with skip := .breakLoops state.loopDepth }
        return 1
      else
        modify fun state => { state with skip := how (min count.toNat state.loopDepth) }
        return 0

/-- Runs `shift`. -/
def shift (arguments : List Bytes) : Action Nat := do
  let positional := (← get).positional
  let refuse (text? : Option Bytes) : Action Nat :=
    Usage.failing ((text?.map (· ++ utf8 ": ")).getD [] ++ utf8 "shift count out of range")
  let outOfRange (text? : Option Bytes) : Action Nat := do
    if Switches.isOn (← get) "shift_verbose" then refuse text? else return 1
  let drop (count : Nat) : Action Nat := do
    modify fun state => { state with positional := state.positional.drop count }
    return 0
  match operands arguments with
  | [] => if positional.isEmpty then outOfRange none else drop 1
  | text :: rest =>
    match Usage.number? text with
    | none => Usage.failing (text ++ utf8 ": numeric argument required")
    | some count =>
      if !rest.isEmpty then
        warn (utf8 "too many arguments")
        giveUp 1
      else if count < 0 then refuse (some text)
      else if positional.length < count.toNat then outOfRange (some text)
      else drop count.toNat

/-- Runs `eval`. -/
def eval (run : Runner) (manner : Manner) (arguments : List Bytes) : Action Nat := do
  let words := (← Usage.flags "" arguments).rest
  if words.isEmpty then return 0
  let before ← get
  set { before with builtin := none }
  Trace.deeper (run (.text (Bytes.joinWith [32] words) .evaluated { tested := manner.tested }))
  modify fun state => { state with line := before.line }
  return (← get).status

/-- The file that a name stands for among commands to be read. -/
def sourceFile? (name : Bytes) : Action (Option Bytes) := do
  if name.contains Path.slash then return some name
  let state ← get
  let isRegular (path : Bytes) : Bool :=
    match state.tree.find state.directory path with
    | .ok node => node.isRegular
    | .error _ => false
  let found? := (Lookup.candidates (← Lookup.searchPath) name).find? isRegular
  return found?.or (if !state.options.isOn .strict && isRegular name then some name else none)

/-- Runs `.`: the commands of a file in this shell, perhaps with other positional parameters. -/
def source (run : Runner) (arguments : List Bytes) : Action Nat := do
  match (← Usage.flags "" arguments).rest with
  | [] =>
    warn (utf8 "filename argument required")
    Usage.refuse
  | name :: own =>
    match ← sourceFile? name with
    | none =>
      let isStrict := (← get).options.isOn .strict
      warn (name ++ utf8 (if isStrict then ": file not found" else ": No such file or directory"))
      if isStrict then giveUp 1 else return 1
    | some path =>
      let refuse (errno : Errno) : Action Nat := do
        modify fun state => { state with builtin := none }
        warn (path ++ utf8 ": " ++ errno.wording)
        if (← get).options.isOn .strict then giveUp 1 else return 1
      match ← openPath .input path with
      | .error errno => refuse errno
      | .ok number =>
        let content ← readInput number none
        close number
        match content with
        | .error .EISDIR =>
          warn (path ++ utf8 ": is a directory")
          if (← get).options.isOn .strict then giveUp 1 else return 1
        | .error errno => refuse errno
        | .ok content =>
          let before ← get
          set { before with
            builtin := none
            positional := if own.isEmpty then before.positional else own
            extras := { before.extras with
              frames := ⟨utf8 "source", before.line, path, true⟩ :: before.extras.frames } }
          let reading : Action Unit := do
            Trace.deeper (run (.file content))
            Task.onEvent run afterReturn
          andFinally reading do
            modify fun state => { state with
              positional := if own.isEmpty then state.positional else before.positional
              extras := { state.extras with frames := before.extras.frames } }
          return (← get).status

/-- Runs `exec`. What cannot be started ends the shell. -/
def exec (run : Runner) (arguments : List Bytes) : Action Nat := do
  let read ← Usage.flags "cla:" arguments
  match read.rest with
  | [] => return 0
  | name :: rest =>
    let given := (Usage.argument? read 'a').getD name
    let shown := if read.has 'l' then 45 :: given else given
    if read.has 'c' then
      modify fun state => { state with
        bindings := state.bindings.map fun (name, entry) => (name, { entry with exported := false }) }
    Finding.replaceShell run name shown rest

end Control

end CleanLaunch.Shell
