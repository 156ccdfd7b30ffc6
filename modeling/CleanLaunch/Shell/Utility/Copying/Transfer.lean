import CleanLaunch.Shell.Utility.Copying.Manner
import CleanLaunch.Shell.Utility.Mode

/-! How one file is copied or moved: what happens to a file in its way, and what becomes of it there.

    `transfer` copies or moves a file, and a directory with everything in it. -/

namespace CleanLaunch.Shell.Utility

open Shell.Action
open Files (Place Node Tree Target)

namespace Copying

/-- The time of a file's last change. -/
def timeOf (place : Place) : Copier Int := return (← getThe State).world.tree.time place

/-- Tells what was copied, and where the file went that was there. -/
def announce (before : String) (source target : Bytes) (backup : Option Bytes) : Copier Unit := do
  let line := utf8 before ++ (← quotedPair source " -> " target)
  let more ← match backup with
    | some path => pure (utf8 " (backup: " ++ (← quotedName path) ++ utf8 ")")
    | none => pure []
  print (line ++ more ++ [10])

/-- Makes room for a link, if it may, and makes it. -/
def forceLink (replaces : Bool) (target : Bytes) (make : Action (Option Errno)) :
    Action (Bool × Option Errno) := do
  match ← make with
  | some .EEXIST =>
    if !replaces then return (false, some .EEXIST)
    match ← removeName target with
    | some errno => return (false, some errno)
    | none => return (true, ← make)
  | answer => return (false, answer)

/-- Makes a copy that is another name of a file. -/
def makeName (replaces tells follows : Bool) (source target : Bytes) : Copier Bool := do
  match ← forceLink replaces target (linkFile follows source target) with
  | (_, some errno) =>
    fail (utf8 "cannot create hard link " ++ (← quotedPair target " to " source) ++ utf8 ": " ++ errno.wording)
  | (isRemoved, none) =>
    if isRemoved && tells then print (utf8 "removed " ++ (← quotedName target) ++ [10])
    return true

/-- Puts the permissions and times of a source on its copy. -/
def finishCopy (manner : Manner) (isNew : Bool) (usual : Nat) (origin : Found) (target : Bytes) :
    Copier Unit := do
  match ← foundAt true target with
  | .error _ => return
  | .ok goal =>
    if manner.keepsTimes then
      changeWorld fun world =>
        { world with tree := world.tree.stampWith goal.place (world.tree.stampOf origin.place) }
    if manner.keepsMode then setMode goal.place origin.node.mode
    else match manner.mode? with
      | some mode => setMode goal.place mode
      | none =>
        if isNew then
          setMode goal.place (← maskedMode (if manner.dropsMode then usual else origin.node.mode &&& 0o777))

/-- Opens the target of a copy, which may have to be made: its descriptor, and whether it is new. Tells about
    a problem. -/
def openTarget (manner : Manner) (target : Bytes) (isNew : Bool) : Copier (Option (Nat × Bool)) := do
  let stop (_ : Bool) : Copier (Option (Nat × Bool)) := return none
  let access : Host.Access := { writes := true, empties := manner.copiesContent }
  let first : Except Errno Nat ← if isNew then pure (.error .ENOENT) else openPath access target
  match first with
  | .ok descriptor => return some (descriptor, false)
  | .error errno =>
    if errno != .ENOENT then
      if !manner.removesClosed then return ← stop (← failAt "cannot create regular file " target errno)
      match ← removeName target with
      | some other => return ← stop (← failAt "cannot remove " target other)
      | none => if manner.verbose then print (utf8 "removed " ++ (← quotedName target) ++ [10])
    let isDangling := match ← foundAt false target with
      | .ok ⟨_, .link _⟩ => true
      | _ => false
    if isDangling && !isStrict (← getThe State) then
      return ← stop (← fail (utf8 "not writing through dangling symlink " ++ (← quotedName target)))
    if target.getLast? = some Path.slash then
      return ← stop (← failAt "cannot create regular file " target .ENOTDIR)
    match ← openPath .output target with
    | .ok descriptor => return some (descriptor, true)
    | .error errno => stop (← failAt "cannot create regular file " target errno)

/-- Copies the content of a file into another one, which may have to be made. -/
def copyContent (manner : Manner) (passage : Passage) (isNew : Bool) (origin : Found) : Copier Bool := do
  let { source, target, .. } := passage
  match origin.node, isNew with
  | .program _, true =>
    match ← vacancy target with
    | .error errno => failAt "cannot create regular file " target errno
    | .ok place =>
      changeWorld (·.putNode place origin.node)
      return true
  | _, _ =>
  match ← content source with
  | .closed errno =>
    fail (utf8 "cannot open " ++ (← quotedName source) ++ utf8 " for reading: " ++ errno.wording)
  | .unreadable errno => failAt "error reading " source errno
  | .text text =>
    match ← openTarget manner target isNew with
    | none => return false
    | some (descriptor, isNew) =>
      let problem : Option Errno ← if manner.copiesContent then write descriptor text else pure none
      close descriptor
      match problem with
      | some errno => failAt "error writing " target errno
      | none =>
        finishCopy manner isNew 0o666 origin target
        return true

/-- What came of a file in the way. -/
inductive Way
  /-- Nothing more is to be done, and whether all is well. -/
  | finished (isGood : Bool)
  /-- The way is free, or leads to a file to write to; a backup may have been made. -/
  | ready (isNew : Bool) (backup : Option Bytes)

/-- Deals with a file in the way. -/
def clearWay (manner : Manner) (passage : Passage) (meeting : Meeting) : Copier Way := do
  let { source, target, .. } := passage
  let { origin, there } := meeting
  let stop (message : Bytes) : Copier Way := return .finished (← fail message)
  let fromDirectory := origin.node.isDirectory
  let ontoDirectory := there.node.isDirectory
  let mut isDone := false
  if manner.reply != .no then
    let (isAllowed, isOver) ← isAllowed manner passage meeting
    if !isAllowed then return ← stop ((← quotedPair source " and " target) ++ utf8 " are the same file")
    isDone := isOver
  if manner.updates && !fromDirectory && (← timeOf origin.place) ≤ (← timeOf there.place) then
    match ← remember origin.place target with
    | some earlier =>
      return .finished (← makeName true manner.verbose (follows manner passage) earlier target)
    | none => return .finished true
  if manner.moves || !fromDirectory then
    if ← isDeclined manner target then return .finished (manner.reply != .ask)
  if isDone then return .finished true
  let makesWay := manner.moves && manner.backup.isSome
  if !ontoDirectory then
    if fromDirectory && !makesWay then
      return ← stop (utf8 "cannot overwrite non-directory " ++
        (← quotedPair target " with directory " source))
    if passage.isOperand && manner.backup != some .numbered && (← get).made.contains there.place then
      return ← stop (utf8 "will not overwrite just-created " ++ (← quotedPair target " with " source))
  else if !fromDirectory && !makesWay then
    return ← stop (utf8 "cannot overwrite directory " ++ (← quotedName target) ++
      utf8 " with non-directory")
  match manner.backup with
  | some backup =>
    if isDots source || !(manner.moves || !ontoDirectory) then return .ready false none
    let path ← backup.path target
    let destroysSource ← match backup with
      | .numbered => pure false
      | .simple ending | .existing ending =>
        if lastPart source ≠ lastPart target ++ ending then pure false
        else match ← foundAt false (target ++ ending) with
          | .ok other => isSameFile other.place origin.place
          | .error _ => pure false
    if destroysSource then
      return ← stop (utf8 "backing up " ++ (← quotedName target) ++ utf8 " might destroy source;  " ++
        (← quotedName source) ++ utf8 (if manner.moves then " not moved" else " not copied"))
    match ← moveFile true (trimmed target) path with
    | some errno => return .finished (← failAt "cannot backup " target errno)
    | none => return .ready true (some path)
  | none =>
    let isRegular := origin.node.isRegular
    let count ← nameCount there.place
    if !ontoDirectory && !manner.moves && (manner.removesFirst || (manner.copiesContent &&
        ((manner.keepsLinks && 1 < count) || (manner.following = .none && !isRegular)))) then
      match ← removeName target with
      | some errno => return .finished (← failAt "cannot remove " target errno)
      | none =>
        if manner.verbose then print (utf8 "removed " ++ (← quotedName target) ++ [10])
        return .ready true none
    return .ready false none

/-- Makes the copy of a file that is no directory. -/
def copyFile (manner : Manner) (passage : Passage) (isNew : Bool) (origin : Found) : Copier Bool := do
  let { source, target, .. } := passage
  match manner.linkKind with
  | some .symbolic =>
    if !Path.isAbsolute source then
      let directory := (← getThe State).directory
      let isHere : Bool ← match ← foundAt true (withoutLast target) with
        | .ok found => pure (decide (found.place = directory))
        | .error _ => pure true
      if !isHere then
        return ← fail ((← plainName target) ++
          utf8 ": can make relative symbolic links only in current directory")
    match ← forceLink manner.removesClosed target (linkPath source target) with
    | (_, some errno) =>
      fail (utf8 "cannot create symbolic link " ++ (← quotedPair target " to " source) ++ utf8 ": " ++
        errno.wording)
    | (_, none) => return true
  | some .hard =>
    makeName (manner.removesClosed || manner.reply = .ask) false (follows manner passage) source target
  | none =>
    match origin.node with
    | .link path =>
      match ← forceLink manner.removesClosed target (linkPath path target) with
      | (_, some errno) => failAt "cannot create symbolic link " target errno
      | (_, none) =>
        if manner.keepsTimes then
          match ← foundAt false target with
          | .ok goal => changeWorld fun world =>
              { world with tree := world.tree.stampWith goal.place (world.tree.stampOf origin.place) }
          | .error _ => pure ()
        return true
    | .fifo mode _ =>
      if manner.copiesSpecial then copyContent manner passage isNew origin
      else match ← vacancy target with
        | .error errno => failAt "cannot create fifo " target errno
        | .ok place =>
          let mode ← if manner.keepsMode then pure mode else maskedMode mode
          changeWorld (·.makeFifo place mode)
          return true
    | .device _ =>
      if manner.copiesSpecial then copyContent manner passage isNew origin
      else match ← vacancy target with
        | .error errno => failAt "cannot create special file " target errno
        | .ok _ => failAt "cannot create special file " target .EPERM
    | _ => copyContent manner passage isNew origin

/-- Moves a file that is not in anybody's way any more. -/
def moveOver (manner : Manner) (passage : Passage) (backup : Option Bytes) : Copier Bool := do
  let { source, target, .. } := passage
  match ← moveFile true source target with
  | none =>
    if manner.verbose then announce "renamed " source target backup
    if passage.isOperand && (← get).hasSeveral then
      match ← foundAt false target with
      | .ok goal => modify fun memory => { memory with made := goal.place :: memory.made }
      | .error _ => pure ()
    return true
  | some .EINVAL =>
    fail (utf8 "cannot move " ++ (← quotedPair source " to a subdirectory of itself, " target))
  | some errno =>
    if [Errno.EEXIST, .EISDIR, .EMLINK, .ENOSPC, .ENOTEMPTY, .ETXTBSY].contains errno then
      failAt "cannot overwrite " target errno
    else
      fail (utf8 "cannot move " ++ (← quotedPair source " to " target) ++ utf8 ": " ++ errno.wording)

/-- The first copy of a file that is to be copied, which then becomes another name of that copy. -/
def earlierCopy? (manner : Manner) (passage : Passage) (origin : Found) : Copier (Option Bytes) := do
  let count ← nameCount origin.place
  if manner.recursive && origin.node.isDirectory then
    if passage.isOperand then remember origin.place passage.target else copyOf? origin.place
  else if manner.moves && count = 1 then copyOf? origin.place
  else if manner.keepsLinks && manner.linkKind != some .hard &&
      (1 < count || (passage.isOperand && manner.following != .none)) then
    remember origin.place passage.target
  else return none

/-- Makes way for a copy at its target. -/
def approach (manner : Manner) (passage : Passage) (origin : Found) : Copier Way := do
  let isRegular := origin.node.isRegular
  let isLinkOrDirectory := match origin.node with
    | .link _ | .directory _ => true
    | _ => false
  let looksAtLinks := (!isRegular && (!manner.copiesSpecial || isLinkOrDirectory)) || manner.moves ||
    manner.linkKind.isSome || manner.backup.isSome || manner.removesFirst
  let path := if origin.node.isDirectory then trimmed passage.target else passage.target
  match ← foundAt (!looksAtLinks) path with
  | .ok there => clearWay manner passage ⟨origin, there⟩
  | .error .ENOENT => return .ready true none
  | .error .ELOOP =>
    if manner.removesClosed then return .ready false none
    return .finished (← failAt "cannot stat " passage.target .ELOOP)
  | .error errno => return .finished (← failAt "cannot stat " passage.target errno)

/-- Copies a directory, and what is in it with `each`. -/
def copyDirectory (manner : Manner) (passage : Passage) (isNew : Bool) (above : List Place) (origin : Found)
    (each : List Place → Passage → Copier Bool) : Copier Bool := do
  let { source, target, .. } := passage
  if above.contains origin.place then
    return ← fail (utf8 "cannot copy cyclic symbolic link " ++ (← quotedName source))
  if isNew then
    match ← makeDirectory target ((← maskedMode (origin.node.mode &&& 0o777)) ||| 0o700) with
    | .error errno => return ← failAt "cannot create directory " target errno
    | .ok () =>
      if !(← get).madeDirectory then
        match ← foundAt true target with
        | .ok goal =>
          let _ ← remember goal.place target
          modify fun memory => { memory with madeDirectory := true }
        | .error _ => pure ()
      if manner.verbose then announce "" source target none
  let names := (← getThe State).tree.children origin.place
  let isGood ← if !origin.node.isReadable then failAt "cannot access " source .EACCES
    else names.eraseDups.foldlM (fun isGood name => do
      let answer ← each (origin.place :: above) ⟨within source name, within target name, false⟩
      return isGood && answer) true
  finishCopy manner isNew 0o777 origin target
  return isGood

/-- Copies or moves a file. `above` are the directories that are being copied. -/
def transfer (manner : Manner) : (bound : Nat) → (above : List Place) → Passage → Copier Bool
  | 0, _, _ => return false
  | bound + 1, above, passage => do
    let { source, target, isOperand } := passage
    if isOperand then
      modify fun memory => { memory with madeDirectory := false, top := (source, target) }
    match ← foundAt (manner.following != .none && follows manner passage) source with
    | .error errno => failAt "cannot stat " source errno
    | .ok origin =>
    let isDirectory := origin.node.isDirectory
    if isDirectory && !manner.recursive && !manner.moves then
      return ← fail (utf8 (if manner.installs then "omitting directory "
        else "-r not specified; omitting directory ") ++ (← quotedName source))
    if isOperand && !manner.moves && (← get).hasSeveral then
      if !isDirectory && manner.backup.isNone && (← get).sources.contains origin.place then
        let _ ← fail (utf8 "warning: source file " ++ (← quotedName source) ++
          utf8 " specified more than once")
        return true
      modify fun memory => { memory with sources := origin.place :: memory.sources }
    match ← approach manner passage origin with
    | .finished isGood => return isGood
    | .ready isNew backup =>
    if isOperand && !manner.moves && manner.backup.isNone then
      match ← foundAt false target with
      | .ok ⟨place, .link _⟩ =>
        if (← get).made.contains place then
          return ← fail (utf8 "will not copy " ++
            (← quotedPair source " through just-created symlink " target))
      | _ => pure ()
    if manner.verbose && !manner.moves && !isDirectory then announce "" source target backup
    if manner.moves then return ← moveOver manner passage backup
    let undo : Copier Bool := do
      match backup with
      | none => return false
      | some path =>
        match ← moveFile true path target with
        | some errno => failAt "cannot un-backup " target errno
        | none =>
          if manner.verbose then print ((← quotedPair path " -> " target) ++ utf8 " (unbackup)\n")
          return false
    let (top, topTarget) := (← get).top
    match ← earlierCopy? manner passage origin with
    | some earlier =>
      if !isDirectory then
        return ← makeName true manner.verbose (follows manner passage) earlier target
      let isItself : Bool ← match ← foundAt true source, ← foundAt true earlier with
        | .ok a, .ok b => pure (decide (a.place = b.place))
        | _, _ => pure false
      if isItself then
        let _ ← fail (utf8 "cannot copy a directory, " ++ (← quotedPair top ", into itself, " topTarget))
        undo
      else if trimmed target = trimmed earlier then
        let _ ← fail (utf8 "warning: source directory " ++ (← quotedName top) ++
          utf8 " specified more than once")
        return true
      else if follows manner passage then copyDirectory manner passage isNew above origin (transfer manner bound)
      else
        let _ ← fail (utf8 "will not create hard link " ++ (← quotedPair target " to directory " earlier))
        undo
    | none =>
      if isDirectory then copyDirectory manner passage isNew above origin (transfer manner bound)
      else
        let isGood ← copyFile manner passage isNew origin
        if isOperand && (← get).hasSeveral then
          match ← foundAt false target with
          | .ok goal => modify fun memory => { memory with made := goal.place :: memory.made }
          | .error _ => pure ()
        if isGood then return true else undo

end Copying

end CleanLaunch.Shell.Utility
