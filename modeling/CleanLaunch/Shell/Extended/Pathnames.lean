import CleanLaunch.Shell.Extended.Globs
import CleanLaunch.Shell.State

/-! The paths that a pattern of the extended language stands for.

    A pattern is taken apart at its slashes. Each part that is a pattern is matched with the entries of the
    directories that the parts before it lead to; a part that is two stars may stand for any number of
    directories, if that is asked for. -/

namespace CleanLaunch.Shell

namespace Pathnames

/-- How entries are matched. -/
structure Manner where
  /-- Do entries whose names begin with a dot count as others do? -/
  dots : Bool := false
  /-- Are the directory itself and the one above it left out in any case? -/
  skipsDots : Bool := true
  ignoresCase : Bool := false
  /-- May characters have several bytes? -/
  wide : Bool := false
  /-- Do two stars stand for directories? -/
  descends : Bool := false

/-- The parts of a pattern between its slashes. -/
def parts (read : Bytes) : Bytes → List Bytes
  | [] => [read.reverse]
  | 92 :: byte :: rest =>
    if byte == Path.slash then read.reverse :: parts [] rest else parts (byte :: 92 :: read) rest
  | byte :: rest => if byte == Path.slash then read.reverse :: parts [] rest else parts (byte :: read) rest

/-- Does an entry match a part of a pattern? -/
def isMatch (manner : Manner) (pattern entry : Bytes) : Bool :=
  let isOwn := entry = [46] || entry = [46, 46]
  let first := if pattern.head? == some 92 then pattern[1]? else pattern.head?
  let isShown := entry.head? != some 46 || first == some 46 || (manner.dots && !isOwn)
  let fold (text : Bytes) : Bytes := if manner.ignoresCase then Globs.folded manner.wide text else text
  isShown && !(isOwn && manner.skipsDots) && Globs.isMatch manner.wide (fold pattern) (fold entry)

/-- The names of the entries of the directory that a path leads to. -/
def names (state : State) (path : Bytes) : List Bytes :=
  match state.tree.resolve state.directory true (if path.isEmpty then [46] else path) with
  | .ok ⟨place, some (.directory _)⟩ => [46] :: [46, 46] :: state.entries place
  | _ => []

/-- Is there something under a path? -/
def isThere (state : State) (path : Bytes) : Bool :=
  match state.tree.resolve state.directory false path with
  | .ok ⟨_, some _⟩ => true
  | _ => false

/-- Does a path lead to a directory, other than by a link if links are not `followed`? -/
def isDirectory (state : State) (followed : Bool) (path : Bytes) : Bool :=
  match state.tree.resolve state.directory followed path with
  | .ok ⟨_, some (.directory _)⟩ => true
  | _ => false

/-- Deeper nesting of directories than any tree has. -/
def maxDepth : Nat := 1000

/-- The paths of what is below a directory, and whether each is a directory itself. -/
def below (state : State) (manner : Manner) : (bound : Nat) → (before : Bytes) → List (Bytes × Bool)
  | 0, _ => []
  | bound + 1, before =>
    let here := (names state before).filter (isMatch { manner with skipsDots := true } [42])
    here.flatMap fun name =>
      let path := before ++ name
      if isDirectory state false path then
        (path, true) :: below state manner bound (path ++ [Path.slash])
      else [(path, false)]

/-- The paths that the parts of a pattern stand for behind a path, in no particular order. -/
def matching (state : State) (manner : Manner) : (before : Bytes) → List Bytes → List Bytes
  | _, [] => []
  | before, [[]] => if !before.isEmpty && isDirectory state true before then [before] else []
  | before, part :: rest =>
    let isLast := rest.isEmpty
    if manner.descends && part = [42, 42] then
      let found := below state manner maxDepth before
      if isLast then
        (if before.isEmpty then [] else [before]) ++ found.map (·.1)
      else
        let directories := (found.filter (·.2)).map fun (path, _) => path ++ [Path.slash]
        (before :: directories).flatMap fun path => matching state manner path rest
    else if Globs.isPattern false part then
      let found := ((names state before).filter (isMatch manner part)).map (before ++ ·)
      if isLast then found
      else found.flatMap fun path => matching state manner (path ++ [Path.slash]) rest
    else
      let path := before ++ Pattern.unescaped part
      if isLast then if isThere state path then [path] else []
      else matching state manner (path ++ [Path.slash]) rest

/-- The paths that a pattern stands for, in the order of their bytes. -/
def ofPattern (state : State) (manner : Manner) (pattern : Bytes) : List Bytes :=
  (matching state manner [] (parts [] pattern)).mergeSort fun a b => !decide (b < a)

end Pathnames

end CleanLaunch.Shell
