import CleanLaunch.Shell.Utility.Copying.Commands
import CleanLaunch.Shell.Utility.WholePath

/-! The utilities that give files other names: `ln`, `link` and `unlink`. -/

namespace CleanLaunch.Shell.Utility

open Shell.Action
open Files (Place Node Tree Target)

namespace Linking

structure Manner where
  symbolic : Bool
  relative : Bool
  follows : Bool
  replaces : Bool
  asks : Bool
  verbose : Bool
  mayLinkDirectories : Bool
  backup : Option Backup

/-- Makes a link where there is nothing. -/
def attempt (manner : Manner) (source target : Bytes) : Action (Option Errno) :=
  if manner.symbolic then linkPath source target else linkFile manner.follows source target

/-- Tells what link was made. -/
def announce (manner : Manner) (backup : Option Bytes) (source target : Bytes) : Action Unit := do
  if manner.verbose then
    let before : Bytes ← match backup with
      | some path => pure ((← quotedName path) ++ utf8 " ~ ")
      | none => pure []
    print (before ++ (← quotedName target) ++ utf8 (if manner.symbolic then " -> " else " => ") ++
      (← quotedName source) ++ [10])

/-- Reports why a link could not be made. -/
def reportFailure (manner : Manner) (source target : Bytes) (errno : Errno) : Action Unit := do
  let shownTarget ← quotedName target
  let both (between : String) : Action Bytes := do
    return shownTarget ++ utf8 between ++ (← quotedName source)
  let what ← if manner.symbolic then do
      let names ← if errno != .ENAMETOOLONG && !source.isEmpty then pure shownTarget else both " -> "
      pure (utf8 "failed to create symbolic link " ++ names)
    else do
      let names ← if [Errno.EEXIST, .ENOSPC, .EROFS].contains errno then pure shownTarget else both " => "
      pure (utf8 "failed to create hard link " ++ names)
  complain (what ++ utf8 ": " ++ errno.wording)

/-- What is done about a file in the way of a link. -/
inductive Way
  | refused
  /-- The way is free, perhaps as there is a backup. Has something to be removed still? -/
  | ready (removes : Bool) (backup : Option Bytes)

/-- Deals with a file in the way of a link. -/
def clearWay (manner : Manner) (made : List Place) (original : Option Found) (source target : Bytes) :
    Action Way := do
  let stop (message : Bytes) : Action Way := do
    complain message
    return .refused
  match ← foundAt false target with
  | .error .ENOENT => return .ready false none
  | .error errno =>
    stop (utf8 "failed to access " ++ (← quotedName target) ++ utf8 ": " ++ errno.wording)
  | .ok there =>
    if there.node.isDirectory then
      return ← stop ((← plainName target) ++ utf8 ": cannot overwrite directory")
    if made.contains there.place then
      return ← stop (utf8 "will not overwrite just-created " ++ (← quotedName target) ++ utf8 " with " ++
        (← quotedName source))
    let original ← match original with
      | some found => pure (some found)
      | none => match ← foundAt true source with
        | .ok found => pure (some found)
        | .error _ => pure none
    let isItself : Bool ← match original with
      | none => pure false
      | some found => do
        let isSame ← isSameFile found.place there.place
        let count ← nameCount found.place
        let isSameName := match ← resolve false source with
          | .ok target => target.place = there.place
          | .error _ => false
        pure (isSame && (count = 1 || isSameName))
    if isItself && (manner.backup.isNone || !manner.symbolic) then
      return ← stop ((← quotedName source) ++ utf8 " and " ++ (← quotedName target) ++
        utf8 " are the same file")
    if manner.asks then
      if !(← isAgreed (utf8 "replace " ++ (← quotedName target))) then return .refused
    match manner.backup with
    | none => return .ready true none
    | some backup =>
      let path ← backup.path target
      match ← moveFile true target path with
      | none => return .ready true (some path)
      | some .ENOENT => return .ready false none
      | some errno =>
        stop (utf8 "cannot backup " ++ (← quotedName target) ++ utf8 ": " ++ errno.wording)

/-- Makes one link. The second part of the result is its place, if it is a name of a file. -/
def makeLink (manner : Manner) (made : List Place) (source target : Bytes) : Action (Bool × Option Place) := do
  let done (backup : Option Bytes) (source : Bytes) : Action (Bool × Option Place) := do
    announce manner backup source target
    match manner.symbolic, ← resolve false target with
    | false, .ok link => return (true, some link.place)
    | _, _ => return (true, none)
  let stop (message : Bytes) : Action (Bool × Option Place) := do
    complain message
    return (false, none)
  let mustLook := manner.symbolic && manner.relative || !manner.symbolic && manner.mayLinkDirectories
  let first : Option Errno ← if mustLook then pure (some .EEXIST) else attempt manner source target
  if first.isNone then return ← done none source
  let original : Except Errno (Option Found) ← if manner.symbolic then pure (.ok none)
    else match ← foundAt manner.follows source with
      | .error errno => pure (.error errno)
      | .ok found => pure (.ok (some found))
  match original with
  | .error errno =>
    stop (utf8 "failed to access " ++ (← quotedName source) ++ utf8 ": " ++ errno.wording)
  | .ok original =>
    if !manner.mayLinkDirectories && original.any (·.node.isDirectory) then
      return ← stop ((← plainName source) ++ utf8 ": hard link not allowed for directory")
    let source ← if manner.relative then do
        let state ← get
        let whole := WholePath.ofPath state.tree state.directory { strictness := .nothing }
        pure (match whole (withoutLast target), whole source with
          | .ok directory, .ok path => WholePath.relative directory path
          | _, _ => source)
      else pure source
    let way ← if manner.replaces || manner.asks || manner.backup.isSome then
        clearWay manner made original source target
      else pure (.ready false none)
    match way with
    | .refused => return (false, none)
    | .ready removes backup =>
      if removes && backup.isNone then
        let _ ← removeName target
      match ← attempt manner source target with
      | none => done backup source
      | some errno =>
        reportFailure manner source target errno
        match backup with
        | some path =>
          let _ ← moveFile true path target
        | none => pure ()
        return (false, none)

/-- Where links go: into a directory with a name, or to one path. -/
def goalOf (call : Call) (follows : Bool) : Action (Except Nat Copying.Goal) := do
  let stop (message : Bytes) : Action (Except Nat Copying.Goal) := do
    complain message
    return .error 1
  let problem? (path : Bytes) : Action (Option Errno) := do
    match ← foundAt follows path with
    | .ok found => return if found.node.isDirectory then none else some .ENOTDIR
    | .error errno => return some errno
  match call.argument? 't', call.operands with
  | _, [] => return .error (← Copying.tooFew [])
  | some directory, operands =>
    if call.has 'T' then
      return ← stop (utf8 "cannot combine --target-directory and --no-target-directory")
    match ← problem? directory with
    | none => return .ok (.into directory operands)
    | some errno => stop (utf8 "failed to access " ++ (← quotedName directory) ++ utf8 ": " ++ errno.wording)
  | none, [source] =>
    if call.has 'T' then return .error (← Copying.tooFew [source])
    return .ok (.into [46] [source])
  | none, source :: target :: more =>
    if call.has 'T' then
      match more with
      | [] => return .ok (.onto source target)
      | extra :: _ => return .error (← refuse 1 (utf8 "extra operand " ++ (← quotedName extra)))
    else
      let last := more.getLast?.getD target
      match ← problem? last with
      | none => return .ok (.into last (source :: target :: more).dropLast)
      | some errno =>
        if more.isEmpty then return .ok (.onto source target)
        else stop (utf8 "target " ++ (← quotedName last) ++ utf8 ": " ++ errno.wording)

end Linking

open Linking in
/-- Makes links. -/
def ln (arguments : List Bytes) : Action Nat :=
  withCall ⟨"bdfinrst:vFLPS:T", [⟨"directory", 'F', .nothing⟩, ⟨"no-dereference", 'n', .nothing⟩,
    ⟨"no-target-directory", 'T', .nothing⟩, ⟨"force", 'f', .nothing⟩, ⟨"interactive", 'i', .nothing⟩,
    ⟨"logical", 'L', .nothing⟩, ⟨"physical", 'P', .nothing⟩, ⟨"relative", 'r', .nothing⟩,
    ⟨"target-directory", 't', .argument⟩, ⟨"symbolic", 's', .nothing⟩, ⟨"verbose", 'v', .nothing⟩] ++
    Backup.flags, .atEnd⟩ 1 arguments fun call => Copying.withOneDirectory call do
    let symbolic := call.has 's'
    if call.operands.isEmpty then return ← Copying.tooFew []
    if call.has 'r' && !symbolic then
      complain (utf8 "cannot do --relative without --symbolic")
      return 1
    match ← Linking.goalOf call (!call.has 'n') with
    | .error status => return status
    | .ok goal =>
    match ← Backup.ofCall call with
    | .error status => return status
    | .ok backup =>
      let manner : Linking.Manner := {
        symbolic, relative := call.has 'r', follows := call.last? "LP" == some 'L'
        replaces := call.last? "fi" == some 'f', asks := call.last? "fi" == some 'i'
        verbose := call.has 'v', mayLinkDirectories := (call.last? "dF").isSome, backup }
      let (links, isWatched) := match goal with
        | .onto source target => ([(source, target)], false)
        | .into directory sources =>
          (sources.map fun source => (source, within directory (lastPart source)),
            1 < sources.length && manner.replaces && backup != some Backup.numbered)
      let (isGood, _) ← links.foldlM (fun ((isGood : Bool), (made : List Place)) (source, target) => do
        let (answer, place?) ← makeLink manner made source target
        return (isGood && answer, if isWatched then place?.toList ++ made else made)) (true, [])
      finish (if isGood then 0 else 1) 1

/-- Gives a file another name. -/
def link (arguments : List Bytes) : Action Nat :=
  withCall ⟨"", [], .atOperand⟩ 1 arguments fun call => do
    match call.operands with
    | [] => missingOperand "operand"
    | [source] => missingAfter source
    | [source, target] =>
      match ← linkFile false source target with
      | none => return 0
      | some errno =>
        complain (utf8 "cannot create link " ++ (← quotedName target) ++ utf8 " to " ++
          (← quotedName source) ++ utf8 ": " ++ errno.wording)
        return 1
    | _ :: _ :: extra :: _ => extraOperand extra

/-- Takes the name of a file away. -/
def unlink (arguments : List Bytes) : Action Nat :=
  withCall ⟨"", [], .atOperand⟩ 1 arguments fun call => do
    match call.operands with
    | [] => missingOperand "operand"
    | [path] =>
      let problem ← match ← foundAt false path with
        | .error errno => pure (some errno)
        | .ok found => if found.node.isDirectory then pure (some .EISDIR) else removeName path
      match problem with
      | none => return 0
      | some errno =>
        complain (utf8 "cannot unlink " ++ (← quotedName path) ++ utf8 ": " ++ errno.wording)
        return 1
    | _ :: extra :: _ => extraOperand extra

end CleanLaunch.Shell.Utility
