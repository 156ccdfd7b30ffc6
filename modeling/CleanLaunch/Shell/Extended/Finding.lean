import CleanLaunch.Shell.Process

/-! What names stand for in the extended language, and running files.

    A name is looked for among the special builtins first if the shell is strict, then among functions,
    builtins and the files on the search path. What cannot be run is reported with its cause. -/

namespace CleanLaunch.Shell

namespace Finding

open Shell.Action

/-- The builtins whose errors end a strict shell. -/
def specialBuiltins : List Bytes :=
  ["break", ":", "continue", ".", "source", "eval", "exec", "exit", "export", "readonly", "return", "set",
   "shift", "times", "trap", "unset"].map utf8

/-- All other builtins. -/
def regularBuiltins : List Bytes :=
  ["[", "alias", "bg", "bind", "builtin", "caller", "cd", "command", "compgen", "complete", "compopt",
   "declare", "dirs", "disown", "echo", "enable", "false", "fc", "fg", "getopts", "hash", "help",
   "history", "jobs", "kill", "let", "local", "logout", "mapfile", "popd", "printf", "pushd", "pwd",
   "read", "readarray", "shopt", "suspend", "test", "true", "type", "typeset", "ulimit", "umask",
   "unalias", "wait"].map utf8

/-- Is a name that of a builtin that has not been switched off? -/
def isBuiltin (state : State) (name : Bytes) : Bool :=
  (specialBuiltins ++ regularBuiltins).contains name && !state.extras.disabled.contains name

/-- Does an error of a builtin end this shell? -/
def isSpecial (state : State) (name : Bytes) : Bool :=
  state.options.isOn .strict && specialBuiltins.contains name

/-- What a name stands for. -/
inductive Found
  | nothing
  | file (path : Bytes)
  | builtin
  | function (function : Function)

/-- The paths of the files that a name may stand for on a search path. -/
def onPath (state : State) (path name : Bytes) : List Bytes :=
  let isFile (candidate : Bytes) : Bool :=
    match state.tree.find state.directory candidate with
    | .ok (.directory _) | .error _ => false
    | .ok _ => true
  let isProgram (candidate : Bytes) : Bool :=
    match state.tree.find state.directory candidate with
    | .ok node => node.isExecutable
    | .error _ => false
  let candidates := (path.splitAt 58).map fun directory =>
    (if directory.isEmpty then utf8 "." else directory) ++ Path.slash :: name
  let files := candidates.filter isFile
  files.filter isProgram ++ (files.filter (!isProgram ·)).take 1

/-- The search path. -/
def searchPath : Action Bytes := return (← valueOf? (utf8 "PATH")).getD []

/-- Remembers that a command was found, and how often. -/
def remember (name path : Bytes) (count : Nat) : Action Unit :=
  modify fun state =>
    let found := state.extras.found
    let entry : Remembered := match found.find? (·.name = name) with
      | some entry => { entry with hits := entry.hits + count }
      | none => { name, path, hits := count }
    { state with extras := { state.extras with
        found := entry :: found.filter (·.name ≠ name) } }

/-- The file that a command's name stands for. Without a search path, a name stands for a file itself. -/
def file? (path? : Option Bytes) (name : Bytes) : Action (Option Bytes) := do
  let state ← get
  if name.isEmpty then return none
  if name.contains Path.slash then return some name
  let path ← match path? with
    | some path => pure path
    | none => searchPath
  let known? := if path?.isSome then none else state.extras.found.find? (·.name = name)
  match known? with
  | some entry =>
    remember name entry.path 1
    return some entry.path
  | none =>
    if path.isEmpty then return some name
    match (onPath state path name).head? with
    | some file =>
      if path?.isNone && state.options.isOn .remembering then remember name file 1
      return some file
    | none => return none

/-- What a name stands for as a command. -/
def find (path? : Option Bytes) (functions : Bool) (name : Bytes) : Action Found := do
  let state ← get
  let function? := if functions then state.functions.find? (·.name = name) else none
  if isSpecial state name && isBuiltin state name then return .builtin
  match function? with
  | some function => return .function function
  | none =>
    if isBuiltin state name then return .builtin
    match ← file? path? name with
    | some path => return .file path
    | none => return .nothing

/-- Is a path that of a directory, or of a program? -/
def isDirectory (state : State) (path : Bytes) : Bool :=
  match state.tree.find state.directory path with
  | .ok (.directory _) => true
  | _ => false

def isProgram (state : State) (path : Bytes) : Bool :=
  match state.tree.find state.directory path with
  | .ok node => node.isExecutable
  | .error _ => false

/-- The interpreter that a script names in its first line. -/
def interpreter? (state : State) (path : Bytes) : Option Bytes :=
  match state.tree.find state.directory path with
  | .ok (.file _ content) => (Files.Image.interpreter? (content.take Files.Image.maxHeadLength)).map (·.1)
  | _ => none

/-- Says why a file could not be run. -/
def explain (path : Bytes) (errno : Errno) : Action Unit := do
  let state ← get
  let plain (errno : Errno) : Action Unit := warn (path ++ utf8 ": " ++ errno.wording)
  if errno = .ENOEXEC then
    match state.tree.find state.directory path with
    | .ok (.file _ []) => pure ()
    | _ => warn (path ++ utf8 ": cannot execute binary file: " ++ errno.wording)
  else if isDirectory state path then plain .EISDIR
  else if !isProgram state path || errno = .E2BIG then plain errno
  else if errno = .ENOENT then warn (path ++ utf8 ": cannot execute: required file not found")
  else match interpreter? state path with
    | some name => warn (path ++ utf8 ": " ++ name ++ utf8 ": bad interpreter: " ++ errno.wording)
    | none => plain errno

/-- The status of a file that could not be run. -/
def failureStatus (errno : Errno) : Nat := if errno = .ENOENT then 127 else 126

/-- Lowers the level of nested shells, because this one is replaced. -/
def lowerLevel : Action Unit := do
  let level := ((← valueOf? (utf8 "SHLVL")).bind (Number.ofText? (some 10))).getD 0
  let name := utf8 "SHLVL"
  let entry ← Lists.variableOf name
  modify fun state => { state with
    bindings := Variables.put state.bindings name
      { entry with value? := some (Number.text (max 0 (level - 1))) } }

/-- Runs a file in place of this process. The result is the status it failed with. -/
def become (run : Runner) (path : Bytes) (arguments : List Bytes) : Action Nat := do
  let errno ← Process.start run path arguments
  explain path errno
  let state ← get
  let isEmpty := match state.tree.find state.directory path with
    | .ok (.file _ []) => true
    | _ => false
  return if errno = .ENOEXEC && isEmpty then 0 else failureStatus errno

/-- Runs a command that was found, or not, in place of this process. -/
def replace (run : Runner) (path? : Option Bytes) (arguments : List Bytes) : Action Unit := do
  match path? with
  | none =>
    warn (arguments.headD [] ++ utf8 ": command not found")
    setStatus 127
  | some path => setStatus (← become run path arguments)
  let _ ← flush
  leave .ended

/-- A path from the root on. -/
def absolute (path : Bytes) : Action Bytes := do
  if Path.isAbsolute path then return path
  let rest := if (utf8 "./").isPrefixOf path then path.drop 2 else path
  return (← get).directoryPath ++ Path.slash :: rest

/-- Runs a program in place of this shell, as `exec` does. -/
def replaceShell (run : Runner) (name shown : Bytes) (rest : List Bytes) : Action Nat := do
  let path? ← if isDirectory (← get) name then pure (some name) else file? none name
  let status ← match path? with
    | none =>
      warn (name ++ utf8 ": not found")
      pure 127
    | some path =>
      let path ← absolute path
      lowerLevel
      let builtin := (← get).builtin
      modify fun state => { state with builtin := none }
      let errno ← Process.start run path (shown :: rest)
      explain path errno
      modify fun state => { state with builtin }
      let state ← get
      if errno ≠ .ENOENT && !isProgram state path then
        let errno := if isDirectory state path then Errno.EISDIR else errno
        warn (path ++ utf8 ": cannot execute: " ++ errno.wording)
      pure (failureStatus errno)
  setStatus status
  let _ ← flush
  leave .ended

end Finding

end CleanLaunch.Shell
