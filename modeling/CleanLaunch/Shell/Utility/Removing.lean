import CleanLaunch.Shell.Utility.Paths

/-! The utilities that remove files: `rm` and `rmdir`. -/

namespace CleanLaunch.Shell.Utility

open Shell.Action
open Files (Place Node Tree Target)

namespace Removing

structure Manner where
  recursive : Bool
  removesEmpty : Bool
  asks : Bool
  /-- Does it not matter if a file is not there? -/
  ignoresMissing : Bool
  verbose : Bool
  keepsRoot : Bool

/-- What became of a file that was to be removed. -/
inductive Outcome
  | removed
  | declined
  | failed
  deriving DecidableEq

/-- What a file is, in words. -/
def kindOf (node : Node) : String :=
  match node with
  | .directory _ => "directory"
  | .file _ content => if content.isEmpty then "regular empty file" else "regular file"
  | .link _ => "symbolic link"
  | .program _ | .held _ => "regular file"
  | .device _ => "character special file"
  | .channel _ | .fifo .. => "fifo"

/-- Reports that a file cannot be removed. -/
def cannot (path : Bytes) (errno : Errno) : Action Outcome := do
  complain (utf8 "cannot remove " ++ (← quotedName path) ++ utf8 ": " ++ errno.wording)
  return .failed

/-- Removes a file or an empty directory. -/
def excise (manner : Manner) (isDirectory : Bool) (path : Bytes) : Action Outcome := do
  match ← removeName path with
  | none =>
    if manner.verbose then
      print (utf8 (if isDirectory then "removed directory " else "removed ") ++ (← quotedName path) ++ [10])
    return .removed
  | some errno =>
    if manner.ignoresMissing && (errno = .ENOENT || errno = .ENOTDIR) then return .removed
    cannot path errno

/-- Asks whether a file is to be removed, if the user wants that. -/
def isWanted (manner : Manner) (node : Node) (path : Bytes) : Action Bool := do
  if manner.asks then
    isAgreed (utf8 "remove " ++ utf8 (kindOf node) ++ utf8 " " ++ (← quotedName path))
  else return true

/-- Removes a file, or a directory with everything in it. -/
def remove (manner : Manner) : (bound : Nat) → (isOperand : Bool) → (path : Bytes) → Action Outcome
  | 0, _, _ => return .failed
  | bound + 1, isOperand, path => do
    match ← foundAt false path with
    | .error errno =>
      if manner.ignoresMissing && (errno = .ENOENT || errno = .ENOTDIR) then return .removed
      cannot path errno
    | .ok found =>
      if !found.node.isDirectory then
        if ← isWanted manner found.node path then return ← excise manner false path
        return .declined
      let names := (← get).tree.children found.place |>.eraseDups
      if !manner.recursive && !(manner.removesEmpty && names.isEmpty) then
        return ← cannot path (if manner.removesEmpty then .ENOTEMPTY else .EISDIR)
      if isOperand && isDots path then
        complain (utf8 "refusing to remove '.' or '..' directory: skipping " ++ (← quotedName path))
        return .failed
      if isOperand && found.place.isEmpty && manner.keepsRoot then
        let more ← if path = [Path.slash] then pure []
          else pure (utf8 " (same as " ++ (← quotedName [Path.slash]) ++ utf8 ")")
        complain (utf8 "it is dangerous to operate recursively on " ++ (← quotedName path) ++ more)
        complain (utf8 "use --no-preserve-root to override this failsafe")
        return .failed
      if names.isEmpty then
        if ← isWanted manner found.node path then return ← excise manner true path
        return .declined
      if manner.asks then
        if !(← isAgreed (utf8 "descend into directory " ++ (← quotedName path))) then return .declined
      if !found.node.isReadable then return ← cannot path .EACCES
      let worst ← names.foldlM (fun (worst : Outcome) name => do
        match ← remove manner bound false (within path name) with
        | .removed => return worst
        | .declined => return if worst = .failed then .failed else .declined
        | .failed => return .failed) .removed
      if worst = .failed then return .failed
      if ← isWanted manner found.node path then excise manner true path else return .declined

/-- When the user is asked. -/
inductive Asking
  | never
  | once
  | always
  deriving DecidableEq

/-- When the flags of a call say that the user is asked, and whether missing files are ignored. -/
def askingOf (call : Call) : Action (Except Nat (Option Asking × Bool)) :=
  call.flags.reverse.foldlM (fun answer (letter, argument) => do
    match answer with
    | .error status => return .error status
    | .ok (asking, ignores) =>
      match letter with
      | 'f' => return .ok (some .never, true)
      | 'i' => return .ok (some .always, false)
      | 'I' => return .ok (some .once, false)
      | 'ι' =>
        if argument.isEmpty then return .ok (some .always, false)
        match ← choice? "--interactive" [["never", "no", "none"], ["once"], ["always", "yes"]]
          (some argument) with
        | .error status => return .error status
        | .ok (some "never") => return .ok (some .never, ignores)
        | .ok (some "once") => return .ok (some .once, false)
        | .ok _ => return .ok (some .always, false)
      | _ => return .ok (asking, ignores)) (.ok (none, false))

end Removing

open Removing in
/-- Removes files. -/
def rm (arguments : List Bytes) : Action Nat :=
  withCall ⟨"dfirvIR", [⟨"force", 'f', .nothing⟩, ⟨"interactive", 'ι', .perhaps⟩,
    ⟨"one-file-system", 'x', .nothing⟩, ⟨"no-preserve-root", 'ν', .nothing⟩,
    ⟨"preserve-root", 'π', .perhaps⟩, ⟨"recursive", 'r', .nothing⟩, ⟨"dir", 'd', .nothing⟩,
    ⟨"verbose", 'v', .nothing⟩], .atEnd⟩ 1 arguments fun call => do
    if call.has 'ν' && !arguments.contains (utf8 "--no-preserve-root") then
      complain (utf8 "you may not abbreviate the --no-preserve-root option")
      return 1
    match ← askingOf call with
    | .error status => return status
    | .ok (asking, ignoresMissing) =>
      if call.operands.isEmpty then
        if ignoresMissing then return 0 else return ← missingOperand "operand"
      let recursive := (call.last? "rR").isSome
      let count := call.operands.length
      if asking = some .once && (recursive || 3 < count) then
        let question := utf8 "remove " ++ Bytes.decimal count ++
          utf8 (if count = 1 then " argument" else " arguments") ++ utf8 (if recursive then " recursively" else "")
        if !(← isAgreed question) then return 0
      let manner : Removing.Manner := {
        recursive, removesEmpty := call.has 'd', asks := asking = some .always, ignoresMissing
        verbose := call.has 'v', keepsRoot := call.last? "νπ" != some 'ν' }
      let status ← forInputs call.operands fun path => do
        let bound := (← get).tree.nodes.length + 2
        let path := if utf8 "//" |>.isSuffixOf path then trimmed path ++ [Path.slash] else path
        let outcome ← remove manner bound true path
        return if outcome = .failed then 1 else 0
      finish status 1

/-- Removes a directory, which must be empty. -/
def removeDirectory (path : Bytes) : Action (Option Errno) := do
  match ← foundAt false path with
  | .error errno => return some errno
  | .ok found =>
    let endsInSlash := path.getLast? = some Path.slash
    let isLink := match ← foundAt false (trimmed path) with
      | .ok ⟨_, .link _⟩ => true
      | _ => false
    if !found.node.isDirectory || (endsInSlash && isLink) then return some .ENOTDIR
    let last := lastPart path
    if found.place.isEmpty then return some .EBUSY
    if last = [46] then return some .EINVAL
    if last = [46, 46] then return some .ENOTEMPTY
    removeName path

/-- Removes directories with nothing in them. -/
def rmdir (arguments : List Bytes) : Action Nat :=
  withCall ⟨"pv", [⟨"ignore-fail-on-non-empty", 'ι', .nothing⟩, ⟨"path", 'p', .nothing⟩,
    ⟨"parents", 'p', .nothing⟩, ⟨"verbose", 'v', .nothing⟩], .atEnd⟩ 1 arguments fun call => do
    if call.operands.isEmpty then return ← missingOperand "operand"
    let announce (path : Bytes) : Action Unit := do
      if call.has 'v' then
        print ((← ownName) ++ utf8 ": removing directory, " ++ (← quotedName path) ++ [10])
    let isIgnored (errno : Errno) : Bool := call.has 'ι' && errno = .ENOTEMPTY
    let status ← forInputs call.operands fun path => do
      announce path
      match ← removeDirectory path with
      | some errno =>
        if isIgnored errno then return 0
        let isLink := match ← foundAt false (trimmed path) with
          | .ok ⟨_, .link _⟩ => true
          | _ => false
        let endsInSlash := path.getLast? = some Path.slash
        let reason ← if errno = .ENOTDIR && endsInSlash && isLink && (← isDirectoryAt path) then
            pure (utf8 "Symbolic link not followed")
          else pure errno.wording
        complain (utf8 "failed to remove " ++ (← quotedName path) ++ utf8 ": " ++ reason)
        return 1
      | none =>
        if !call.has 'p' then return 0
        -- each directory above, the deepest first
        let parents := (waypoints path).dropLast.reverse
        let (status, _) ← parents.foldlM (fun (status, isOver) parent => do
          if isOver then return (status, true)
          announce parent
          match ← removeDirectory parent with
          | none => return (status, false)
          | some errno =>
            if isIgnored errno then return (status, true)
            complain (utf8 (if errno = .ENOTDIR then "failed to remove " else "failed to remove directory ") ++
              (← quotedName parent) ++ utf8 ": " ++ errno.wording)
            return (1, true)) (0, false)
        return status
    finish status 1

end CleanLaunch.Shell.Utility
