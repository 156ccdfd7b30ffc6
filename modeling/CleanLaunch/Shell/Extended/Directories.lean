import CleanLaunch.Shell.Builtin.Settings
import CleanLaunch.Shell.Extended.Lists
import CleanLaunch.Shell.Extended.Usage

/-! The working directory in the extended language, and the directories a shell goes back to.

    A directory is known by the path that led to it, unless the physical one is asked for. A strict shell
    refuses a path that leads nowhere; another one then tries it as it is. The stack of directories has the
    working directory on top. -/

namespace CleanLaunch.Shell

namespace Directories

open Shell.Action
open Files (Place)

/-- Why a path is not that of a directory, if it is not. -/
def problem? (state : State) (path : Bytes) : Option Errno :=
  match state.tree.find state.directory path with
  | .ok (.directory _) => none
  | .ok _ => some .ENOTDIR
  | .error errno => some errno

/-- Why one cannot go up where a path does, if one cannot. `passed` is the path up to here. -/
def problemAbove? (state : State) : (passed : Bytes) → List Bytes → Option Errno
  | _, [] => none
  | passed, part :: rest =>
    let here := if part = utf8 ".." then problem? state (Settings.logical [Path.slash] passed) else none
    here.or (problemAbove? state (passed ++ Path.slash :: part) rest)

/-- Makes a place the working directory, under the name it has for the shell. -/
def enter (place : Place) (name : Bytes) : Action (Option Errno) := do
  modify fun state => { state with directory := place, directoryPath := name }
  return none

/-- Goes to a directory by its physical path, or says why not. -/
def goPhysically (path : Bytes) : Action (Option Errno) := do
  let state ← get
  match state.tree.resolve state.directory true path with
  | .ok ⟨place, some (.directory _)⟩ => enter place place.path
  | .ok ⟨_, some _⟩ => return some .ENOTDIR
  | .ok ⟨_, none⟩ => return some .ENOENT
  | .error errno => return some errno

/-- Goes to a directory, or says why not. -/
def go (physical : Bool) (path : Bytes) : Action (Option Errno) := do
  if physical then return ← goPhysically path
  let state ← get
  let parts := path.splitAt Path.slash
  let start := if Path.isAbsolute path then [] else state.directoryPath
  let name := Settings.logical state.directoryPath path
  match (problemAbove? state start parts).or (problem? state name) with
  | none =>
    match state.tree.resolve state.directory true name with
    | .ok ⟨place, some _⟩ => enter place name
    | _ => return some .ENOENT
  | some errno =>
    if state.options.isOn .strict then
      return some (if [.ENOENT, .ENOTDIR, .ENAMETOOLONG].contains errno then errno else .ENOTDIR)
    else
      let other? ← goPhysically path
      return other?.map fun _ => errno

/-- Sets a variable that the shell keeps, with the marks that it has. -/
def record (name value : Bytes) : Action Unit := do
  let entry ← Lists.variableOf name
  modify fun state => { state with
    bindings := Variables.put state.bindings name { entry with value? := some value } }

/-- Takes note of the working directory in the variables that tell it. -/
def recordAll (physical : Bool) : Action Unit := do
  record (utf8 "OLDPWD") ((← valueOf? (utf8 "PWD")).getD [])
  let state ← get
  record (utf8 "PWD") (if physical then state.directory.path else state.directoryPath)

/-- A path under one of the directories that `CDPATH` names. -/
def under (root path : Bytes) : Bytes :=
  if root.isEmpty then path
  else if root.getLast? = some Path.slash then root ++ path
  else root ++ Path.slash :: path

/-- Tries a path under each of some directories. The result is the one that led somewhere. -/
def searchUnder (physical : Bool) (path : Bytes) : (roots : List Bytes) → Action (Option Bytes)
  | [] => return none
  | root :: rest => do
    match ← go physical (under root path) with
    | none => return some root
    | some _ => searchUnder physical path rest

/-- Goes to a directory for `cd`. `shows` says that its path is printed. -/
def change (physical shows : Bool) (path : Bytes) : Action Nat := do
  match ← go physical path with
  | none =>
    if shows then print (path ++ [10])
    recordAll physical
    return 0
  | some errno => Usage.failing (path ++ utf8 ": " ++ errno.wording)

/-- Is the physical directory asked for? The last of the flags counts. -/
def isPhysical (read : Arguments.Flags) : Action Bool := do
  match read.flags.find? fun flag => flag.1 == 76 || flag.1 == 80 with
  | some (letter, _) => return letter == 80
  | none => return (← get).options.isOn .physical

/-- Goes to a directory for `cd`, perhaps under one of those that `CDPATH` names. -/
def changeBySearch (physical : Bool) (path : Bytes) : Action Nat := do
  let roots? ← if Settings.isSearched path then valueOf? (utf8 "CDPATH") else pure none
  match roots? with
  | none => change physical false path
  | some roots =>
    match ← searchUnder physical path (roots.splitAt 58) with
    | none => change physical false path
    | some root =>
      let state ← get
      if !root.isEmpty then
        print ((if physical then under root path else state.directoryPath) ++ [10])
      recordAll (physical || state.options.isOn .strict)
      return 0

/-- Runs `cd`. -/
def changeDirectory (arguments : List Bytes) : Action Nat := do
  let read ← Usage.flags "eLP" arguments
  let physical ← isPhysical read
  let goTo (variableName : String) (shows : Bool) : Action Nat := do
    match ← valueOf? (utf8 variableName) with
    | none => Usage.failing (utf8 variableName ++ utf8 " not set")
    | some path => change physical shows path
  match read.rest with
  | [] => goTo "HOME" false
  | [[45]] => goTo "OLDPWD" true
  | [path] => changeBySearch physical path
  | _ => Usage.failing (utf8 "too many arguments")

/-- Runs `pwd`. -/
def printDirectory (arguments : List Bytes) : Action Nat := do
  let physical ← isPhysical (← Usage.flags "LP" arguments)
  let state ← get
  let isKnown := match state.tree.resolve state.directory true state.directoryPath with
    | .ok ⟨place, some _⟩ => place = state.directory
    | _ => false
  let physical := physical || (state.options.isOn .strict && !isKnown)
  print ((if physical then state.directory.path else state.directoryPath) ++ [10])
  return 0

/-- A path with the home directory shortened. -/
def polite (home? : Option Bytes) (path : Bytes) : Bytes :=
  match home? with
  | some home =>
    let rest := path.drop home.length
    if 1 < home.length && home.isPrefixOf path && (rest.isEmpty || rest.head? = some Path.slash) then
      126 :: rest
    else path
  | none => path

/-- The stack of directories, the working directory first. -/
def stack : Action (List Bytes) := do
  let state ← get
  return state.directoryPath :: state.extras.directories

def putStack (directories : List Bytes) : Action Unit :=
  modify fun state => { state with extras := { state.extras with directories } }

/-- A number on the stack with the line that shows it. -/
def numbered (n : Nat) (text : Bytes) : Bytes :=
  let digits := Bytes.decimal n
  List.replicate (2 - digits.length) 32 ++ digits ++ [32, 32] ++ text

/-- How the stack is shown. -/
structure View where
  inFull : Bool := false
  numbers : Bool := false
  lines : Bool := false

/-- Shows the whole stack. -/
def showStack (view : View) : Action Unit := do
  let home? ← valueOf? (utf8 "HOME")
  let shown (path : Bytes) : Bytes := if view.inFull then path else polite home? path
  let entries := (← stack).zipIdx.map fun (path, n) =>
    if view.numbers then numbered n (shown path) else shown path
  print (Bytes.joinWith [if view.numbers || view.lines then 10 else 32] entries ++ [10])

/-- The builtin complains of a position that is not on the stack. -/
def refusePosition (word : Bytes) : Action Nat := do
  if (← get).extras.directories.isEmpty then Usage.failing (utf8 "directory stack empty")
  else Usage.failing (word ++ utf8 ": directory stack index out of range")

/-- A number behind a sign; anything else is a wrong use. -/
def position (word : Bytes) : Action Int := do
  match Usage.number? (word.drop 1) with
  | some value => return value
  | none =>
    warn (word ++ utf8 ": invalid number")
    Usage.refuse

/-- What the words of `dirs` ask for. -/
structure Listing where
  view : View := {}
  clears : Bool := false
  /-- The word of a position, with the place on the stack that it stands for. -/
  place? : Option (Bytes × Int) := none

/-- Reads the words of `dirs`. -/
def listing (size : Nat) : Listing → List Bytes → Action Listing
  | wish, [] => return wish
  | wish, word :: rest => do
    match word with
    | [45, 108] => listing size { wish with view := { wish.view with inFull := true } } rest
    | [45, 99] => listing size { wish with clears := true } rest
    | [45, 118] => listing size { wish with view := { wish.view with numbers := true } } rest
    | [45, 112] => listing size { wish with view := { wish.view with lines := true } } rest
    | [45, 45] => return wish
    | 43 :: digits =>
      let n ← position word
      listing size { wish with place? := some (digits, n) } rest
    | 45 :: digits =>
      let n ← position word
      listing size { wish with place? := some (digits, size - n) } rest
    | _ =>
      warn (word ++ utf8 ": invalid option")
      Usage.refuse

/-- Runs `dirs`. -/
def showDirectories (arguments : List Bytes) : Action Nat := do
  let stack ← stack
  let wish ← listing (stack.length - 1) {} arguments
  if wish.clears then
    putStack []
    return 0
  match wish.place? with
  | none =>
    showStack wish.view
    return 0
  | some (word, n) =>
    match if n < 0 then none else stack[n.toNat]? with
    | none => refusePosition word
    | some path =>
      let home? ← valueOf? (utf8 "HOME")
      let shown := if wish.view.inFull then path else polite home? path
      print ((if wish.view.numbers then numbered n.toNat shown else shown) ++ [10])
      return 0

/-- Goes to a directory of the stack and shows the stack. -/
def revisit (path : Bytes) : Action Nat := do
  let status ← changeBySearch (← isPhysical ⟨[], []⟩) path
  if status = 0 then showStack {}
  return status

/-- What the words of `pushd` or `popd` ask for. -/
structure Move where
  /-- Does the working directory stay? -/
  stays : Bool := false
  /-- The position that is meant, with its word and its sign. -/
  position? : Option (Bytes × Int) := none
  rest : List Bytes := []

/-- The place on the stack that a position stands for: counted from the top behind a plus, from the bottom
    behind a minus. -/
def placeOf (size : Nat) (word : Bytes) (n : Int) : Int := if word.head? = some 45 then size - n else n

/-- Reads the words of `pushd`. A position out of range gives nothing. -/
def pushWords (size : Nat) : Move → List Bytes → Action (Move ⊕ Bytes)
  | move, [] => return .inl move
  | move, word :: rest => do
    match word with
    | [45, 110] => pushWords size { move with stays := true } rest
    | [45, 45] => return .inl { move with rest }
    | [45] => return .inl { move with rest := word :: rest }
    | sign :: _ =>
      if sign == 43 || sign == 45 then
        let n := placeOf size word (← position word)
        if n < 0 || size < n then return .inr word
        pushWords size { move with position? := some (word, n) } rest
      else return .inl { move with rest := word :: rest }
    | [] => return .inl { move with rest := word :: rest }

/-- Runs `pushd`. -/
def push (arguments : List Bytes) : Action Nat := do
  let all ← stack
  let size := all.length - 1
  let (isPlain, words) := match arguments with
    | [45, 45] :: rest => (true, rest)
    | other => (false, other)
  if words.isEmpty then
    match (← get).extras.directories with
    | [] => Usage.failing (utf8 "no other directory")
    | top :: rest =>
      putStack (all.headD [] :: rest)
      revisit top
  else
    match ← if isPlain then pure (.inl { rest := words }) else pushWords size {} words with
    | .inr word => refusePosition word
    | .inl move =>
      match move.rest, move.position? with
      | _ :: _ :: _, _ =>
        if move.stays then return 0 else Usage.failing (utf8 "too many arguments")
      | _, some (_, n) =>
        let turned := all.drop n.toNat ++ all.take n.toNat
        putStack (turned.drop 1)
        if move.stays then return 0 else revisit (turned.headD [])
      | [], none => return 0
      | path :: _, none =>
        let status ← if move.stays then pure 0 else changeBySearch (← isPhysical ⟨[], []⟩) path
        if status ≠ 0 then return 1
        putStack ((if move.stays then path else all.headD []) :: all.drop 1)
        showStack {}
        return 0

/-- Reads the words of `popd`. -/
def popWords : Move → List Bytes → Action Move
  | move, [] => return move
  | move, word :: rest => do
    match word with
    | [45, 110] => popWords { move with stays := true } rest
    | [45, 45] | [] => return move
    | sign :: _ =>
      if sign == 43 || sign == 45 then
        popWords { move with position? := some (word, ← position word) } rest
      else
        warn (word ++ utf8 ": invalid argument")
        Usage.refuse

/-- Runs `popd`. -/
def pop (arguments : List Bytes) : Action Nat := do
  let move ← popWords {} arguments
  let directories := (← get).extras.directories
  let size := directories.length
  let (word, n) := move.position?.getD ([43], 0)
  if size = 0 || size < n.natAbs then return ← refusePosition (if word = [43] then [] else word)
  let place := placeOf size word n
  if place < 0 || size < place then return ← refusePosition word
  if place = 0 then
    let status ← if move.stays then pure 0
      else changeBySearch (← isPhysical ⟨[], []⟩) (directories.headD [])
    if status ≠ 0 then return status
    putStack (directories.drop 1)
  else putStack (directories.eraseIdx (place.toNat - 1))
  showStack {}
  return 0

end Directories

end CleanLaunch.Shell
