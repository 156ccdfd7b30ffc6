import CleanLaunch.Shell.Builtin.Arguments
import CleanLaunch.Shell.Lookup
import CleanLaunch.Shell.Process

/-! The builtins about commands: what names stand for, aliases, and running other commands. -/

namespace CleanLaunch.Shell

namespace Commands

open Shell.Action

/-- Text of an alias. -/
def aliasText (entry : Bytes × Bytes) : Bytes :=
  entry.1 ++ 61 :: Variables.quoted entry.2 ++ [10]

/-- Prints what a name stands for, in words or as `command -v` does. -/
def describe (path : Option Bytes) (inWords : Bool) (name : Bytes) : Action Nat := do
  let say (text : Bytes) : Action Nat := do
    print ((if inWords then name ++ text else name) ++ [10])
    return 0
  let state ← get
  if Keyword.standard.any fun keyword => utf8 keyword.text = name then
    return ← say (utf8 " is a shell keyword")
  match state.aliases.lookup name with
  | some value =>
    if inWords then say (utf8 " is an alias for " ++ value)
    else
      print (utf8 "alias " ++ aliasText (name, value))
      return 0
  | none =>
    let tracked? := if path.isSome then none else state.hashed.find? (·.name = name)
    let found ← match tracked? with
      | some entry => pure (Lookup.Found.file (some entry.index))
      | none => Lookup.find { path, mustExist := true } name
    match found with
    | .file index =>
      let file := Lookup.pathOf (path.getD (← Lookup.searchPath)) name index
      if inWords then
        let tracked := if tracked?.isSome then " a tracked alias for" else ""
        print (name ++ utf8 (" is" ++ tracked ++ " ") ++ file ++ [10])
      else print (file ++ [10])
      return 0
    | .function _ => say (utf8 " is a shell function")
    | .builtin =>
      say (utf8 (if Lookup.isSpecial name then " is a special shell builtin"
        else " is a shell builtin"))
    | .nothing =>
      if inWords then print (name ++ utf8 ": not found\n")
      return 127

/-- Runs `type`. -/
def describeAll : (names : List Bytes) → Action Nat
  | [] => return 0
  | name :: rest => do
    let status ← describe none true name
    return status ||| (← describeAll rest)

/-- Runs `command` where it only describes a command. -/
def command (arguments : List Bytes) : Action Nat := do
  let read ← Arguments.flags "pvV" arguments
  let path := if read.has 'p' then some Lookup.defaultPath else none
  match read.rest with
  | name :: _ => if read.has 'v' || read.has 'V' then describe path (!read.has 'v') name else return 0
  | [] => return 0

/-- Runs `hash`: shows or changes what is remembered of commands. -/
def hash (arguments : List Bytes) : Action Nat := do
  let (flag?, words) ← Arguments.firstFlag "r" arguments
  if flag?.isSome then
    modify fun state => { state with hashed := [] }
    return 0
  if words.isEmpty then
    let path ← Lookup.searchPath
    for entry in ← Lookup.remembered do
      let file := Lookup.pathOf path entry.name (some entry.index)
      print (file ++ (if entry.isStale then utf8 "*" else []) ++ [10])
    return 0
  let mut status := 0
  for name in words do
    Lookup.remember name none
    match ← Lookup.find { reports := true } name with
    | .nothing => status := 1
    | _ => pure ()
  return status

/-- Lists that a shell keeps its aliases in. -/
def aliasBuckets : Nat := 39

/-- The list an alias is kept in. -/
def aliasBucket (name : Bytes) : Nat :=
  ((name.headD 0).toNat * 16 + sumOf (name.map (·.toNat))) % aliasBuckets

/-- Shows or makes an alias. An equals sign at the very beginning belongs to the name. -/
def aliasWord (word : Bytes) : Action Nat := do
  let name := word.take 1 ++ (word.drop 1).takeWhile (· != 61)
  let aliases := (← get).aliases
  if name.length < word.length then
    let value := word.drop (name.length + 1)
    let aliases := if aliases.any (·.1 = name) then
        aliases.map fun entry => if entry.1 = name then (name, value) else entry
      else aliases ++ [(name, value)]
    modify fun state => { state with aliases }
    return 0
  else match aliases.lookup word with
    | some value =>
      print (aliasText (word, value))
      return 0
    | none =>
      printError (utf8 "alias: " ++ word ++ utf8 " not found\n")
      return 1

/-- Runs `alias`. -/
def aliases (arguments : List Bytes) : Action Nat := do
  if arguments.isEmpty then
    let aliases := (← get).aliases.mergeSort fun a b => aliasBucket a.1 ≤ aliasBucket b.1
    print (aliases.flatMap aliasText)
  let mut status := 0
  for word in arguments do
    status := max status (← aliasWord word)
  return status

/-- Runs `unalias`. -/
def unalias (arguments : List Bytes) : Action Nat := do
  let (flag?, words) ← Arguments.firstFlag "a" arguments
  if flag?.isSome then
    modify fun state => { state with aliases := [] }
    return 0
  let mut status := 0
  for name in words do
    if (← get).aliases.any (·.1 = name) then
      modify fun state => { state with aliases := state.aliases.filter (·.1 ≠ name) }
    else
      printError (utf8 "unalias: " ++ name ++ utf8 " not found\n")
      status := 1
  return status

/-- Runs `eval`. -/
def eval (run : Runner) (manner : Manner) (arguments : List Bytes) : Action Nat := do
  if arguments.isEmpty then return 0
  run (.text (Bytes.joinWith [32] arguments) .evaluated { tested := manner.tested })
  return (← get).status

/-- Runs `exec`. -/
def exec (run : Runner) (arguments : List Bytes) : Action Nat := do
  if !arguments.isEmpty then
    Process.replace run (← Lookup.searchPath) 0 arguments
  return 0

/-- The file that `.` reads for a name: the name itself if it is a path, otherwise the first regular file
    of that name on the search path. -/
def includedFile (name : Bytes) : Action Bytes := do
  if name.contains Path.slash then return name
  let state ← get
  let isRegular (path : Bytes) : Bool :=
    match state.tree.find state.directory path with
    | .ok node => node.isRegular
    | .error _ => false
  match (Lookup.candidates (← Lookup.searchPath) name).find? isRegular with
  | some path => return path
  | none => fail (name ++ utf8 ": not found")

/-- Opens a file of commands, out of the way of other descriptors, and gives its content. -/
def openCommands (path : Bytes) : Action (Nat × Bytes) := do
  match ← openPath .input path with
  | .error errno => Opening.refuse false path errno
  | .ok number =>
    let saved ← if number < 10 then moveAway number else pure .closed
    let kept := match saved with
      | .moved kept => kept
      | _ => number
    match ← readInput kept none with
    | .ok content => return (kept, content)
    | .error _ => return (kept, [])

/-- Runs `.`: the commands of a file in this shell. -/
def includeFile (run : Runner) (arguments : List Bytes) : Action Nat := do
  match (← Arguments.flags "" arguments).rest with
  | [] => return 0
  | name :: _ =>
    let path ← includedFile name
    let (kept, content) ← openCommands path
    modify fun state => { state with builtin := some path }
    andFinally (run (.file content)) (close kept)
    return (← get).status

end Commands

end CleanLaunch.Shell
