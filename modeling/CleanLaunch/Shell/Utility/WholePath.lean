import CleanLaunch.Shell.Utility.Paths

/-! Whole paths: the way from the root to a file, without dots and, unless they are to be kept, without links.

    How much of a path has to be there is up to whoever asks. `WholePath.relative` gives the way from one place
    to another. -/

namespace CleanLaunch.Shell.Utility

open Files (Place Node Tree)

namespace WholePath

/-- What of a path has to be there. -/
inductive Strictness
  | everything
  | allButLast
  | nothing
  deriving DecidableEq

/-- How a path is made whole. -/
structure Manner where
  strictness : Strictness := .allButLast
  /-- Are links followed? -/
  followsLinks : Bool := true

/-- Parts of a path. A slash at its end leaves an empty one. -/
def parts (path : Bytes) : List Bytes :=
  let names := (path.splitAt Path.slash).filter (!·.isEmpty)
  names ++ if path.getLast? = some Path.slash && !names.isEmpty then [[]] else []

/-- Must what is in front of the rest of a path be a directory? -/
def needsDirectory : List Bytes → Bool
  | [] => false
  | next :: _ => next.isEmpty || next = [46] || next = [46, 46]

/-- Why there is nothing at a place that a path could go on from, if so. -/
def problem? (tree : Tree) (manner : Manner) (here place : Place) (rest : List Bytes) : Option Errno :=
  let node? : Option Node := match tree.resolve here true (place.getLast?.getD []) with
    | .ok target => target.node?
    | .error _ => none
  if !tree.isSearchable here then some .EACCES
  else match tree.node? here, node? with
    | some (.directory _), none =>
      if !manner.followsLinks && !rest.isEmpty && !needsDirectory rest then none else some .ENOENT
    | some (.directory _), some (.directory _) => none
    | some (.directory _), some _ => if needsDirectory rest then some .ENOTDIR else none
    | some _, _ => some .ENOTDIR
    | none, _ => some .ENOENT

/-- Goes along the parts of a path. `links` is the number of links still allowed. -/
def along (tree : Tree) (manner : Manner) (links : Nat) (here : Place) : List Bytes → Except Errno Place
  | [] => .ok here
  | part :: rest =>
    if part.isEmpty || part = [46] then along tree manner links here rest
    else if part = [46, 46] then along tree manner links here.dropLast rest
    else
      let place := here ++ [part]
      let goOn : Except Errno Place :=
        match problem? tree manner here place rest with
        | none => along tree manner links place rest
        | some errno =>
          let isTolerated : Bool := match manner.strictness with
            | .nothing => true
            | .allButLast => errno = .ENOENT && rest.all (·.isEmpty)
            | .everything => false
          if isTolerated then along tree manner links place rest else .error errno
      match tree.node? place, links with
      | some (.link target), links + 1 =>
        if manner.followsLinks then
          along tree manner links (if Path.isAbsolute target then [] else here) (parts target ++ rest)
        else goOn
      | some (.link _), 0 => if manner.followsLinks then .error .ELOOP else goOn
      | _, _ => goOn
termination_by parts => (links, parts.length)

/-- A path made whole, from a working directory. -/
def ofPath (tree : Tree) (directory : Place) (manner : Manner) (path : Bytes) : Except Errno Bytes :=
  if path.isEmpty then .error .ENOENT
  else
    let start : Place := if Path.isAbsolute path then [] else directory
    (along tree manner Files.maxLinks start (parts path)).map Place.path

/-- The way from a directory to a file, both as whole paths. -/
def relative (directory path : Bytes) : Bytes :=
  let rec common : List Bytes → List Bytes → Nat
    | a :: as, b :: bs => if a = b then common as bs + 1 else 0
    | _, _ => 0
  let (start, goal) := (Place.ofPath directory, Place.ofPath path)
  let n := common start goal
  let way := List.replicate (start.length - n) (utf8 "..") ++ goal.drop n
  if way.isEmpty then [46] else Bytes.joinWith [Path.slash] way

/-- Is a whole path below another one? -/
def isBelow (directory path : Bytes) : Bool := Place.ofPath directory <+: Place.ofPath path

/-- The strictness that a flag asks for. -/
def strictnessOf (flag : Option Char) : Strictness :=
  if flag == some 'e' then .everything else if flag == some 'm' then .nothing else .allButLast

end WholePath

end CleanLaunch.Shell.Utility
