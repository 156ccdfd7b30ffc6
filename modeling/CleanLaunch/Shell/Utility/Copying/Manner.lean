import CleanLaunch.Shell.Utility.Backup

/-! How files are copied and moved, and what a run of that keeps in mind.

    A run knows of which files it has made copies, so that two names of one file become two names of its
    copy, and which files it has made itself, so that it does not copy one over another. -/

namespace CleanLaunch.Shell.Utility

open Shell.Action
open Files (Place Node Tree Target)

namespace Copying

/-- What is done about files in the way. -/
inductive Reply
  | unspecified
  | yes
  | no
  | ask
  deriving DecidableEq

/-- Which links are followed to what is copied. -/
inductive Following
  | none
  | operands
  | all
  deriving DecidableEq

/-- What a copy is, if it is a link. -/
inductive LinkKind
  | hard
  | symbolic
  deriving DecidableEq

structure Manner where
  moves : Bool := false
  installs : Bool := false
  backup : Option Backup := none
  reply : Reply := .unspecified
  following : Following := .all
  /-- Are only files replaced that are older? -/
  updates : Bool := false
  linkKind : Option LinkKind := none
  /-- Is a file in the way removed first, or only if it cannot be opened? -/
  removesFirst : Bool := false
  removesClosed : Bool := false
  recursive : Bool := false
  /-- Is the content of special files copied? -/
  copiesSpecial : Bool := true
  copiesContent : Bool := true
  keepsMode : Bool := false
  keepsTimes : Bool := false
  keepsLinks : Bool := false
  /-- Do copies get the permissions of any new file? -/
  dropsMode : Bool := false
  mode? : Option Nat := none
  verbose : Bool := false

/-- What a run keeps in mind. -/
structure Memory where
  /-- Files that were copied, each with the path of its first copy. -/
  copies : List (Place × Bytes) := []
  /-- Operands that were copied, and what was made of them, if there are several operands. -/
  sources : List Place := []
  made : List Place := []
  hasSeveral : Bool := false
  /-- Has a directory been made for the operand? -/
  madeDirectory : Bool := false
  /-- The paths of the operand and of its copy. -/
  top : Bytes × Bytes := ([], [])

/-- A computation of a run. -/
abbrev Copier := StateT Memory Action

/-- Reports a problem, which ends the copying of a file. -/
def fail (message : Bytes) : Copier Bool := do
  complain message
  return false

/-- Reports what the system says about a file. -/
def failAt (what : String) (path : Bytes) (errno : Errno) : Copier Bool := do
  fail (utf8 what ++ (← quotedName path) ++ utf8 ": " ++ errno.wording)

/-- Two paths that are quoted, with something between. -/
def quotedPair (a : Bytes) (between : String) (b : Bytes) : Copier Bytes := do
  return (← quotedName a) ++ utf8 between ++ (← quotedName b)

/-- The path of the first copy of a file, if there is one. -/
def copyOf? (place : Place) : Copier (Option Bytes) := do
  let names := (← (getThe State : Action State)).world.tree.names place
  return ((← get).copies.find? fun entry => names.contains entry.1).map (·.2)

/-- Keeps in mind where a file was copied, unless it is known already: then that copy is the result. -/
def remember (place : Place) (path : Bytes) : Copier (Option Bytes) := do
  match ← copyOf? place with
  | some earlier => return some earlier
  | none =>
    modify fun memory => { memory with copies := (place, path) :: memory.copies }
    return none

def forget (place : Place) : Copier Unit :=
  modify fun memory => { memory with copies := memory.copies.filter (·.1 ≠ place) }

/-- What is copied, and where. -/
structure Passage where
  source : Bytes
  target : Bytes
  isOperand : Bool

/-- Is the file that a passage begins at found behind links? -/
def follows (manner : Manner) (passage : Passage) : Bool :=
  match manner.following with
  | .none => false
  | .operands => passage.isOperand
  | .all => true

/-- What is known of a source and of the file in its way. -/
structure Meeting where
  origin : Found
  there : Found

/-- May a file be copied over another one, as they are not the same in a way that harms? The second part of the
    result tells that nothing is left to do. -/
def isAllowed (manner : Manner) (passage : Passage) (meeting : Meeting) : Copier (Bool × Bool) := do
  let isLink (found : Found) : Bool := match found.node with
    | .link _ => true
    | _ => false
  let same ← isSameFile meeting.origin.place meeting.there.place
  if same && manner.linkKind = some .hard then return (true, true)
  -- the names themselves, without what they lead to
  let (from?, to?) ← match ← foundAt false passage.source, ← foundAt false passage.target with
    | .ok source, .ok target => pure (some source, some target)
    | _, _ => pure (none, none)
  match from?, to? with
  | some source, some target =>
    let sameName := source.place = target.place
    let sameLink ← isSameFile source.place target.place
    if manner.following = .none && isLink meeting.origin && isLink meeting.there then
      if !sameName && manner.backup.isSome then return (true, false)
      if !sameName && sameLink then return (!manner.moves, true)
      return (!sameName, false)
    if manner.following != .none && !same then return (true, false)
    if manner.following != .none && isLink source && isLink target && manner.removesFirst then
      return (true, false)
    if manner.backup.isSome then
      if sameLink then return (!sameName, false)
      return (manner.moves || manner.following = .none || !isLink source || isLink target, false)
    let count ← nameCount target.place
    if manner.moves || manner.removesFirst then
      if isLink target then return (true, false)
      if sameLink && 1 < count && !sameName then return (!manner.moves, false)
    if !isLink source && !isLink target then
      if !sameLink then return (true, false)
      if manner.linkKind = some .hard then return (true, true)
    if manner.moves && isLink source && 1 < count then
      match ← foundAt true passage.source with
      | .ok original => return (original.place ≠ target.place, false)
      | .error _ => pure ()
    if manner.linkKind = some .symbolic && isLink target then return (true, false)
    if manner.following = .none then
      match ← foundAt true passage.source, ← foundAt true passage.target with
      | .ok source, .ok target =>
        if !(← isSameFile source.place target.place) then return (true, false)
      | _, _ => return (true, false)
      if manner.linkKind = some .hard then return (true, !isLink target)
    return (false, false)
  | _, _ => return (true, false)

/-- Is a file left as it is because of what the user says? -/
def isDeclined (manner : Manner) (path : Bytes) : Action Bool := do
  match manner.reply with
  | .no => return true
  | .ask => return !(← isAgreed (utf8 "overwrite " ++ (← quotedName path)))
  | _ => return false

end Copying

end CleanLaunch.Shell.Utility
