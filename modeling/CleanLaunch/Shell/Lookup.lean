import CleanLaunch.Shell.CommandLine
import CleanLaunch.Shell.Variables

/-! Finding commands by their names.

    A name is looked for among the functions, the builtins and the files on the search path. The shell
    remembers where on the path it found a command, by the number of the directory; a change of the
    working directory makes that doubtful, a change of the path makes it void. -/

namespace CleanLaunch.Shell

namespace Lookup

open Shell.Action
open Files (Tree Place)

/-- The search path of a shell that inherits none, which is also where standard commands are. -/
def defaultPath : Bytes := utf8 "/usr/local/sbin:/usr/local/bin:/usr/sbin:/usr/bin:/sbin:/bin"

/-- The search path of this shell. -/
def searchPath : Action Bytes := return (← valueOf? (utf8 "PATH")).getD []

/-- The files a name may stand for, one for every directory of a search path. -/
def candidates (path name : Bytes) : List Bytes :=
  (path.splitAt 58).map fun directory =>
    if directory.isEmpty then name else directory ++ Path.slash :: name

/-- The builtins that are not special. -/
def regularBuiltins : List Bytes :=
  ["[", "alias", "bg", "cd", "chdir", "command", "echo", "false", "fg", "getopts", "hash", "jobs",
   "kill", "printf", "pwd", "read", "test", "true", "type", "ulimit", "umask", "unalias",
   "wait"].map utf8

def isSpecial (name : Bytes) : Bool := CommandLine.specialBuiltins.contains name

def isBuiltin (name : Bytes) : Bool := isSpecial name || regularBuiltins.contains name

/-- What a name stands for. -/
inductive Found
  | nothing
  /-- A file: the number of its directory on the search path, or none if the name is a path. -/
  | file (index : Option Nat)
  | builtin
  | function (function : Function)

/-- What is asked for. -/
structure Query where
  /-- The search path, if it is not the shell's own. -/
  path : Option Bytes := none
  functions : Bool := true
  /-- Is the search path left out? -/
  onlyInternal : Bool := false
  /-- Must a name that is a path lead to something? -/
  mustExist : Bool := false
  /-- Is it reported if nothing is found? -/
  reports : Bool := false

/-- The status of a command that could not be started. -/
def failureStatus (errno : Errno) : Nat :=
  if [.ELOOP, .ENAMETOOLONG, .ENOENT, .ENOTDIR].contains errno then 127 else 126

/-- The number of the first candidate that is a program, or why there is none. Candidates up to
    `known` with absolute paths are not looked at, and that one is taken as it is. -/
def search (tree : Tree) (directory : Place) (known : Option Nat) :
    (index : Nat) → (errno : Errno) → List Bytes → Except Errno Nat
  | _, errno, [] => .error errno
  | index, errno, candidate :: rest =>
    if Path.isAbsolute candidate && known.any (index ≤ ·) then
      if known = some index then .ok index else search tree directory known (index + 1) errno rest
    else match tree.find directory candidate with
      | .error .ENOENT | .error .ENOTDIR => search tree directory known (index + 1) errno rest
      | .error other => search tree directory known (index + 1) other rest
      | .ok node =>
        if node.isExecutable then .ok index
        else search tree directory known (index + 1) .EACCES rest

/-- Remembers a command, or forgets it. -/
def remember (name : Bytes) (index : Option Nat) : Action Unit :=
  modify fun state =>
    let isKnown := state.hashed.any (·.name = name)
    { state with hashed := match index with
        | none => state.hashed.filter (·.name ≠ name)
        | some index =>
          if isKnown then
            state.hashed.map fun entry => if entry.name = name then { name, index } else entry
          else state.hashed ++ [{ name, index }] }

/-- Looks for a name. -/
def find (query : Query) (name : Bytes) : Action Found := do
  let state ← get
  if name.contains Path.slash then
    let isThere := match state.tree.find state.directory name with
      | .ok _ => true
      | .error _ => false
    return if query.mustExist && !isThere then .nothing else .file none
  let known := state.hashed.find? (·.name = name)
  match if query.functions then state.functions.find? (·.name = name) else none with
  | some function => return .function function
  | none =>
    if isBuiltin name then return .builtin
    if query.onlyInternal then return .nothing
    let isOwnPath := query.path.isNone && !state.functions.any (·.name = name)
    let known := if isOwnPath then known else none
    match known.filter (!·.isStale) with
    | some entry => return .file (some entry.index)
    | none =>
      let path := query.path.getD (← searchPath)
      match search state.tree state.directory (known.map (·.index)) 0 .ENOENT
          (candidates path name) with
      | .ok index =>
        if isOwnPath then remember name (some index)
        return .file (some index)
      | .error errno =>
        if isOwnPath then remember name none
        if query.reports then complain (.cannotStart name errno)
        return .nothing

/-- The path of a command that was found on a search path. -/
def pathOf (path name : Bytes) : Option Nat → Bytes
  | none => name
  | some index => (candidates path name)[index]?.getD name

/-- Makes all remembered commands doubtful. -/
def doubtAll : Action Unit :=
  modify fun state => { state with
    hashed := state.hashed.map fun entry => { entry with isStale := true } }

/-- Lists that a shell keeps its commands in. -/
def bucketCount : Nat := 31

/-- The list a command is kept in. -/
def bucket (name : Bytes) : Nat :=
  ((name.headD 0).toNat * 16 + sumOf (name.map (·.toNat))) % 32768 % bucketCount

/-- The remembered commands, list by list. -/
def remembered : Action (List Hashed) :=
  return (← get).hashed.mergeSort fun a b => bucket a.name ≤ bucket b.name

end Lookup

end CleanLaunch.Shell
