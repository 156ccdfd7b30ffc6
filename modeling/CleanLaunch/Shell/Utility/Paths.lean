import CleanLaunch.Shell.Utility.Input

/-! Paths as texts, and the files they lead to. -/

namespace CleanLaunch.Shell.Utility

open Shell.Action
open Files (Place Node Tree Target)

/-- The last part of a path, and what is before it. -/
def splitLast (path : Bytes) : Bytes × Bytes :=
  let trimmed := (path.reverse.dropWhile (· == Path.slash)).reverse
  let last := (trimmed.reverse.takeWhile (· != Path.slash)).reverse
  (trimmed.take (trimmed.length - last.length), last)

/-- The last part of a path; that of a path of slashes alone is a slash. -/
def lastPart (path : Bytes) : Bytes :=
  let (_, name) := splitLast path
  if name.isEmpty && !path.isEmpty then [Path.slash] else name

/-- A path without its last part. -/
def withoutLast (path : Bytes) : Bytes :=
  let (before, last) := splitLast path
  let directory := (before.reverse.dropWhile (· == Path.slash)).reverse
  if !directory.isEmpty then directory
  else if !before.isEmpty || (last.isEmpty && !path.isEmpty) then [Path.slash]
  else utf8 "."

/-- A path without the slashes at its end. One that has nothing else keeps a slash. -/
def trimmed (path : Bytes) : Bytes :=
  let rest := (path.reverse.dropWhile (· == Path.slash)).reverse
  if rest.isEmpty && !path.isEmpty then [Path.slash] else rest

/-- The path of a name in a directory. -/
def within (directory name : Bytes) : Bytes :=
  let start := (directory.reverse.dropWhile (· == Path.slash)).reverse
  if start.isEmpty then directory ++ name
  else if name.head? == some Path.slash then start ++ name
  else start ++ Path.slash :: name

/-- Does a path name a directory by its dots? -/
def isDots (path : Bytes) : Bool :=
  let last := lastPart path
  last = [46] || last = [46, 46]

/-- Every path on the way to one, the shortest first. -/
def waypoints (path : Bytes) : List Bytes :=
  let parts := (path.splitAt Path.slash).filter (!·.isEmpty)
  let start : Bytes := if Path.isAbsolute path then [Path.slash] else []
  (List.range parts.length).map fun n => start ++ Bytes.joinWith [Path.slash] (parts.take (n + 1))

/-- A file, where it is. -/
structure Found where
  place : Place
  node : Node

/-- The file that a path leads to. -/
def foundAt (follows : Bool) (path : Bytes) : Action (Except Errno Found) := do
  match ← resolve follows path with
  | .error errno => return .error errno
  | .ok ⟨_, none⟩ => return .error .ENOENT
  | .ok ⟨place, some node⟩ => return .ok ⟨place, node⟩

/-- Does a path lead to a directory? -/
def isDirectoryAt (path : Bytes) : Action Bool := do
  match ← foundAt true path with
  | .ok found => return found.node.isDirectory
  | .error _ => return false

/-- Why a path does not lead to a directory, unless it does. -/
def directoryProblem? (path : Bytes) : Action (Option Errno) := do
  match ← foundAt true path with
  | .ok found => return if found.node.isDirectory then none else some .ENOTDIR
  | .error errno => return some errno

/-- Are two places names of one file? -/
def isSameFile (a b : Place) : Action Bool := do
  return ((← get).world.tree.names a).contains b

/-- How many names a file has. -/
def nameCount (place : Place) : Action Nat := return ((← get).world.tree.names place).length

/-- Where something new can be put at a path: nothing is there, and its directory may be changed. -/
def vacancy (path : Bytes) : Action (Except Errno Place) := do
  match ← resolve false (trimmed path) with
  | .error errno => return .error errno
  | .ok ⟨_, some _⟩ => return .error .EEXIST
  | .ok ⟨place, none⟩ =>
    if place.isOfKernel then return .error .ENOENT
    else if (← get).world.tree.isOpenTo place.dropLast then return .ok place
    else return .error .EACCES

/-- Permission bits of something new. -/
def maskedMode (mode : Nat) : Action Nat := return Host.maskedMode mode (← get).umask

/-- Changes the permissions of the file at a place, if it has any. -/
def setMode (place : Place) (mode : Nat) : Action Unit :=
  changeWorld fun world => match (world.tree.node? place).bind (Node.withMode? mode) with
    | some node => { world with tree := world.tree.put place node }
    | none => world

/-- Makes a directory at a path where there is nothing. -/
def makeDirectory (path : Bytes) (mode : Nat) : Action (Except Errno Unit) := do
  match ← vacancy path with
  | .error errno => return .error errno
  | .ok place =>
    changeWorld (·.putNode place (.directory mode))
    return .ok ()

/-- Takes away the name that a path is, if it may be. Directories have to be empty. -/
def removeName (path : Bytes) : Action (Option Errno) := do
  match ← foundAt false path with
  | .error errno => return some errno
  | .ok found =>
    let tree := (← get).world.tree
    let isLink := match ← foundAt false (trimmed path) with
      | .ok ⟨_, .link _⟩ => true
      | _ => false
    if found.place.isOfKernel then return some .EPERM
    else if path.getLast? = some Path.slash && isLink then return some .ENOTDIR
    else if !tree.isOpenTo found.place.dropLast then return some .EACCES
    else if found.node.isDirectory && !(tree.children found.place).isEmpty then return some .ENOTEMPTY
    else
      changeWorld (·.unlink found.place)
      return none

/-- Gives a file another path. Does it take the place of what is there? -/
def moveFile (replaces : Bool) (source target : Bytes) : Action (Option Errno) := do
  match ← resolve false source, ← resolve false (trimmed target) with
  | .error errno, _ | _, .error errno => return some errno
  | .ok ⟨origin, node?⟩, .ok ⟨goal, before⟩ =>
    if isDots source then return some .EBUSY
    if isDots target then return some (if replaces then .EBUSY else .EEXIST)
    match node? with
    | none => return some .ENOENT
    | some node =>
      let tree := (← get).world.tree
      if before.isSome && !replaces then return some .EEXIST
      if !node.isDirectory && target.getLast? = some Path.slash then return some .ENOTDIR
      if origin.length < goal.length && goal.take origin.length = origin then return some .EINVAL
      if goal.length < origin.length && origin.take goal.length = goal then return some .ENOTEMPTY
      if ← isSameFile origin goal then return none
      if origin.isOfKernel || goal.isOfKernel then return some .EXDEV
      if !(tree.isOpenTo origin.dropLast && tree.isOpenTo goal.dropLast) then return some .EACCES
      match before with
      | some there =>
        if node.isDirectory && !there.isDirectory then return some .ENOTDIR
        if !node.isDirectory && there.isDirectory then return some .EISDIR
        if !(tree.children goal).isEmpty then return some .ENOTEMPTY
      | none => pure ()
      changeWorld fun world => (world.unlink goal).rename origin goal
      return none

/-- Gives a file another name. -/
def linkFile (follows : Bool) (source target : Bytes) : Action (Option Errno) := do
  match ← foundAt follows source, ← vacancy target with
  | .error errno, _ | _, .error errno => return some errno
  | .ok found, .ok place =>
    if target.getLast? = some Path.slash then return some .ENOENT
    if found.node.isDirectory then return some .EPERM
    if found.place.isOfKernel then return some .EXDEV
    changeWorld fun world => { world with tree := world.tree.link found.place place }
    return none

/-- Makes a link to a path. -/
def linkPath (source target : Bytes) : Action (Option Errno) := do
  if source.isEmpty then return some .ENOENT
  match ← vacancy target with
  | .error errno => return some errno
  | .ok place =>
    if target.getLast? = some Path.slash then return some .ENOENT
    changeWorld (·.putNode place (.link source))
    return none

/-- Asks the user something. A line that begins with `y` is consent. -/
def isAgreed (question : Bytes) : Action Bool := do
  let _ ← flush
  printError ((← ownName) ++ utf8 ": " ++ question ++ utf8 "? ")
  let (line, _) ← repeatFrom (([] : Bytes), false) fun (line, _) => do
    match ← readInput 0 (some 1) with
    | .ok [byte] => return ((line ++ [byte], true), byte != 10)
    | _ => return ((line, false), false)
  return line.head? == some 121 || line.head? == some 89

end CleanLaunch.Shell.Utility
