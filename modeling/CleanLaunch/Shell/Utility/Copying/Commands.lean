import CleanLaunch.Shell.Utility.Copying.Transfer

/-! The utilities that copy and move files: `cp`, `mv` and `install`. -/

namespace CleanLaunch.Shell.Utility

open Shell.Action
open Files (Place Node Tree Target)

namespace Copying

/-- Where operands go. -/
inductive Goal
  | into (directory : Bytes) (sources : List Bytes)
  | onto (source target : Bytes)

/-- Complains that nothing says where an operand goes, or that there is none. -/
def tooFew : List Bytes → Action Nat
  | [] => missingOperand "file operand"
  | source :: _ => do
    refuse 1 (utf8 "missing destination file operand after " ++ (← quotedName source))

/-- Where the operands of a call go. `access` are words about a directory that is not there. -/
def goalOf (call : Call) (access : String) (mayMake : Bool) : Action (Except Nat Goal) := do
  let stop (message : Bytes) : Action (Except Nat Goal) := do
    complain message
    return .error 1
  let onto : List Bytes → Action (Except Nat Goal)
    | source :: target :: [] => return .ok (.onto source target)
    | _ :: _ :: extra :: _ => return .error (← refuse 1 (utf8 "extra operand " ++ (← quotedName extra)))
    | operands => return .error (← tooFew operands)
  match call.argument? 't' with
  | some directory =>
    if call.operands.isEmpty then return .error (← tooFew [])
    if call.has 'T' then
      return ← stop (utf8 "cannot combine --target-directory (-t) and --no-target-directory (-T)")
    match ← directoryProblem? directory with
    | some errno =>
      if mayMake && errno = .ENOENT then return .ok (.into directory call.operands)
      stop (utf8 access ++ (← quotedName directory) ++ utf8 ": " ++ errno.wording)
    | none => return .ok (.into directory call.operands)
  | none =>
    if call.operands.length < 2 then return .error (← tooFew call.operands)
    if call.has 'T' then return ← onto call.operands
    let last := call.operands.getLast?.getD []
    match ← directoryProblem? last with
    | none => return .ok (.into last call.operands.dropLast)
    | some errno =>
      if call.operands.length = 2 then onto call.operands
      else stop (utf8 "target " ++ (← quotedName last) ++ utf8 ": " ++ errno.wording)

/-- Copies or moves an operand, with nothing kept in mind yet. -/
def transferOne (manner : Manner) (source target : Bytes) : Copier Bool := do
  let bound := (← getThe State).tree.nodes.length + 2
  transfer manner bound [] ⟨source, target, true⟩

/-- The path that an operand has in a directory. -/
def pathIn (directory source : Bytes) : Bytes :=
  let name := lastPart source
  within directory (if name = [46, 46] then [46] else name)

/-- Copies or moves all operands. -/
def transferAll (manner : Manner) (hasSeveral : Bool) (passages : List (Bytes × Bytes)) : Action Bool := do
  let run : Copier Bool := passages.foldlM (fun isGood (source, target) => do
    let answer ← transferOne manner source target
    return isGood && answer) true
  let (isGood, _) ← StateT.run run { hasSeveral }
  return isGood

/-- What is kept of files, by word. -/
def attributes : List (List String) :=
  [["mode"], ["timestamps"], ["ownership"], ["links"], ["context"], ["xattr"], ["all"]]

/-- A manner that keeps something of files, or does not. -/
def keeping (keeps : Bool) (flag : String) (words : Bytes) (manner : Manner) : Action (Except Nat Manner) :=
  (words.splitAt 44).foldlM (fun manner word => do
    match manner with
    | .error status => return .error status
    | .ok manner =>
      match ← choice? flag attributes (some word) with
      | .error status => return .error status
      | .ok (some "mode") => return .ok { manner with keepsMode := keeps, dropsMode := !keeps }
      | .ok (some "timestamps") => return .ok { manner with keepsTimes := keeps }
      | .ok (some "links") => return .ok { manner with keepsLinks := keeps }
      | .ok (some "all") => return .ok { manner with
          keepsMode := keeps, keepsTimes := keeps, keepsLinks := keeps, dropsMode := !keeps }
      | .ok (some "context") =>
        if keeps then
          complain (utf8 "cannot preserve security context without an SELinux-enabled kernel")
          return .error 1
        else return .ok manner
      | .ok _ => return .ok manner) (.ok manner)

/-- A manner with a flag about files that are there already. -/
def replying (manner : Manner) (letter : Char) (argument : Bytes) : Action (Except Nat Manner) := do
  match letter with
  | 'i' => return .ok { manner with reply := .ask }
  | 'n' => return .ok { manner with reply := .no }
  | 'u' => return .ok { manner with updates := true }
  | 'υ' =>
    if argument.isEmpty then return .ok { manner with updates := true }
    match ← choice? "--update" [["all"], ["none"], ["older"]] (some argument) with
    | .error status => return .error status
    | .ok kind =>
      if manner.reply = .no then return .ok manner
      return .ok { manner with
        updates := kind = some "older", reply := if kind = some "none" then .no else .unspecified }
  | _ => return .ok manner

/-- A manner with a flag of `cp`. -/
def copying (manner : Manner) (letter : Char) (argument : Bytes) : Action (Except Nat Manner) := do
  match letter with
  | 'a' => return .ok { manner with
      following := .none, keepsLinks := true, keepsMode := true, keepsTimes := true, recursive := true }
  | 'd' => return .ok { manner with following := .none, keepsLinks := true }
  | 'f' => return .ok { manner with removesClosed := true }
  | 'H' => return .ok { manner with following := .operands }
  | 'L' => return .ok { manner with following := .all }
  | 'P' => return .ok { manner with following := .none }
  | 'r' | 'R' => return .ok { manner with recursive := true }
  | 'v' => return .ok { manner with verbose := true }
  | 'p' => return .ok { manner with keepsMode := true, keepsTimes := true }
  | 'ρ' =>
    if argument.isEmpty then return .ok { manner with keepsMode := true, keepsTimes := true }
    else keeping true "--preserve" argument manner
  | 'ν' => keeping false "--no-preserve" argument manner
  | 'α' => return .ok { manner with copiesContent := false }
  | 'ω' => return .ok { manner with removesFirst := true }
  | 'l' => return .ok { manner with linkKind := some .hard }
  | 's' => return .ok { manner with linkKind := some .symbolic }
  | _ => replying manner letter argument

/-- A manner with all flags of a call. -/
def withFlags (one : Manner → Char → Bytes → Action (Except Nat Manner)) (call : Call) (manner : Manner) :
    Action (Except Nat Manner) :=
  call.flags.reverse.foldlM (fun manner (letter, argument) => do
    match manner with
    | .error status => return .error status
    | .ok manner => one manner letter argument) (.ok manner)

/-- A manner with backups, or the status to end with. -/
def withBackup (call : Call) (manner : Manner) : Action (Except Nat Manner) := do
  if Backup.isAskedFor call && manner.reply = .no then
    return .error (← refuse 1 (utf8 "options --backup and --no-clobber are mutually exclusive"))
  match ← Backup.ofCall call with
  | .error status => return .error status
  | .ok backup => return .ok { manner with backup, updates := manner.updates && manner.reply != .no }

/-- Complains about a directory that is given twice. -/
def withOneDirectory (call : Call) (body : Action Nat) : Action Nat := do
  if 1 < (call.flags.filter (·.1 == 't')).length then
    complain (utf8 "multiple target directories specified")
    return 1
  body

/-- Makes the directories of an operand's path below another directory, with the permissions of those that
    they are named after. -/
def makeWay (manner : Manner) (directory source : Bytes) : Action Bool := do
  let start := if Path.isAbsolute source then [Path.slash] else []
  let parents := (waypoints source).dropLast
  parents.foldlM (fun isGood parent => do
    if !isGood then return false
    let goal := within directory (parent.drop start.length)
    match ← foundAt true goal with
    | .ok found =>
      if found.node.isDirectory then return true
      complain ((← quotedName goal) ++ utf8 " exists but is not a directory")
      return false
    | .error _ =>
      let origin ← foundAt true parent
      let problem := match origin with
        | .error errno => some errno
        | .ok found => if found.node.isDirectory then none else some .ENOTDIR
      match problem, origin with
      | none, .ok found =>
        let mode ← if manner.keepsMode then pure found.node.mode else maskedMode (found.node.mode &&& 0o777)
        match ← makeDirectory goal (mode ||| 0o300) with
        | .error errno =>
          complain (utf8 "cannot make directory " ++ (← quotedName goal) ++ utf8 ": " ++ errno.wording)
          return false
        | .ok () =>
          if manner.verbose then print (parent ++ utf8 " -> " ++ goal ++ [10])
          return true
      | some errno, _ =>
        complain (utf8 "failed to get attributes of " ++ (← quotedName parent) ++ utf8 ": " ++
          errno.wording)
        return false
      | _, _ => return false) true

/-- Copies an operand below a directory, under the whole of its path. -/
def copyBelow (manner : Manner) (directory source : Bytes) : Copier Bool := do
  if ← makeWay manner directory source then
    let path := (trimmed source).dropWhile (· == Path.slash)
    transferOne manner source (within directory path)
  else return false

def copyFlags : Flags :=
  ⟨"abdfHilLnprst:uvxPRS:TZ", [⟨"archive", 'a', .nothing⟩, ⟨"attributes-only", 'α', .nothing⟩,
    ⟨"copy-contents", 'κ', .nothing⟩, ⟨"debug", 'δ', .nothing⟩, ⟨"dereference", 'L', .nothing⟩,
    ⟨"force", 'f', .nothing⟩, ⟨"interactive", 'i', .nothing⟩, ⟨"link", 'l', .nothing⟩,
    ⟨"no-clobber", 'n', .nothing⟩, ⟨"no-dereference", 'P', .nothing⟩, ⟨"no-preserve", 'ν', .argument⟩,
    ⟨"no-target-directory", 'T', .nothing⟩, ⟨"one-file-system", 'x', .nothing⟩, ⟨"parents", 'π', .nothing⟩,
    ⟨"path", 'π', .nothing⟩, ⟨"preserve", 'ρ', .perhaps⟩, ⟨"recursive", 'R', .nothing⟩,
    ⟨"remove-destination", 'ω', .nothing⟩, ⟨"sparse", 'σ', .argument⟩, ⟨"reflink", 'φ', .perhaps⟩,
    ⟨"strip-trailing-slashes", 'τ', .nothing⟩, ⟨"symbolic-link", 's', .nothing⟩,
    ⟨"target-directory", 't', .argument⟩, ⟨"update", 'υ', .perhaps⟩, ⟨"verbose", 'v', .nothing⟩,
    ⟨"context", 'ξ', .perhaps⟩] ++ Backup.flags, .atEnd⟩

/-- What of a call of `cp` is not a matter of one file. -/
def settled (call : Call) (manner : Manner) : Action (Except Nat Manner) := do
  if call.has 'l' && call.has 's' then
    return .error (← refuse 1 (utf8 "cannot make both hard and symbolic links"))
  match ← withBackup call manner with
  | .error status => return .error status
  | .ok manner =>
    let isChosen := (call.last? "adHLP").isSome
    let following := if isChosen then manner.following
      else if manner.recursive && manner.linkKind != some .hard then .none else .all
    return .ok { manner with following, copiesSpecial := !manner.recursive || call.has 'κ' }

end Copying

open Copying in
/-- Copies files. -/
def cp (arguments : List Bytes) : Action Nat :=
  withCall copyFlags 1 arguments fun call => withOneDirectory call do
    if (call.last? "δφξ").isSome then leave .abandoned
    let manner ← match ← withFlags copying call {} with
      | .error status => pure (.error status)
      | .ok manner => settled call manner
    match manner with
    | .error status => return status
    | .ok manner =>
    match ← goalOf call "target directory " false with
    | .error status => return status
    | .ok goal =>
      let shorten (source : Bytes) : Bytes := if call.has 'τ' then trimmed source else source
      let isGood ← match goal with
        | .into directory sources =>
          let sources := sources.map shorten
          if call.has 'π' then
            let run : Copier Bool := sources.foldlM (fun isGood source => do
              let answer ← copyBelow manner directory source
              return isGood && answer) true
            let (isGood, _) ← StateT.run run { hasSeveral := 1 < sources.length }
            pure isGood
          else
            transferAll manner (1 < sources.length) (sources.map fun source => (source, pathIn directory source))
        | .onto source target =>
          if call.has 'π' then
            return ← refuse 1 (utf8 "with --parents, the destination must be a directory")
          let source := shorten source
          match manner.backup with
          | some backup =>
            let isRegular := match ← foundAt true target with
              | .ok found => found.node.isRegular
              | .error _ => false
            if manner.removesClosed && source = target && isRegular then
              let path ← backup.path target
              transferAll { manner with backup := none } false [(source, path)]
            else transferAll manner false [(source, target)]
          | none => transferAll manner false [(source, target)]
      finish (if isGood then 0 else 1) 1

open Copying in
/-- Moves files. -/
def mv (arguments : List Bytes) : Action Nat :=
  withCall ⟨"bfint:uvS:TZ", [⟨"context", 'Z', .nothing⟩, ⟨"debug", 'δ', .nothing⟩, ⟨"force", 'f', .nothing⟩,
    ⟨"interactive", 'i', .nothing⟩, ⟨"no-clobber", 'n', .nothing⟩, ⟨"no-copy", 'κ', .nothing⟩,
    ⟨"no-target-directory", 'T', .nothing⟩, ⟨"strip-trailing-slashes", 'τ', .nothing⟩,
    ⟨"target-directory", 't', .argument⟩, ⟨"update", 'υ', .perhaps⟩, ⟨"verbose", 'v', .nothing⟩] ++
    Backup.flags, .atEnd⟩ 1 arguments fun call => withOneDirectory call do
    if call.has 'δ' then leave .abandoned
    let one (manner : Copying.Manner) (letter : Char) (argument : Bytes) :
        Action (Except Nat Copying.Manner) := do
      match letter with
      | 'f' => return .ok { manner with reply := .yes }
      | 'v' => return .ok { manner with verbose := true }
      | _ => replying manner letter argument
    match ← withFlags one call { moves := true, following := .none, recursive := true } with
    | .error status => return status
    | .ok manner =>
    match ← goalOf call "target directory " false with
    | .error status => return status
    | .ok goal =>
    match ← withBackup call manner with
    | .error status => return status
    | .ok manner =>
      let shorten (source : Bytes) : Bytes := if call.has 'τ' then trimmed source else source
      let isGood ← match goal with
        | .into directory sources =>
          transferAll manner (1 < sources.length)
            (sources.map fun source => (shorten source, within directory (lastPart source)))
        | .onto source target =>
          let isFile := match ← foundAt false (trimmed source) with
            | .ok found => !found.node.isDirectory
            | .error _ => false
          if isFile && shorten source ≠ source then
            complain (utf8 "cannot move " ++ (← quotedName (shorten source)) ++ utf8 " to " ++
              (← quotedName target) ++ utf8 ": " ++ Errno.ENOTDIR.wording)
            pure false
          else transferAll manner false [(shorten source, target)]
      finish (if isGood then 0 else 1) 1

namespace Copying

/-- Makes a directory and those above it, and tells about every one that it makes. The directories above get
    the usual permissions. -/
def makeDirectories (verbose : Bool) (mode : Nat) (isLast : Bool) (path : Bytes) : Action Bool := do
  let ways := waypoints path
  let count := ways.length
  let (isGood, _) ← ways.foldlM (fun (isGood, n) way => do
    if !isGood then return (false, n + 1)
    match ← foundAt true way with
    | .ok found =>
      if !found.node.isDirectory then
        complain (utf8 (if n = count && isLast then "cannot create directory " else "cannot create directory ") ++
          (← quotedName way) ++ utf8 ": " ++
          (if n = count then Errno.EEXIST else Errno.ENOTDIR).wording)
        return (false, n + 1)
      if n = count && isLast then setMode found.place mode
      return (true, n + 1)
    | .error _ =>
      match ← makeDirectory way (if n = count && isLast then mode else 0o755) with
      | .error errno =>
        complain (utf8 "cannot create directory " ++ (← quotedName way) ++ utf8 ": " ++ errno.wording)
        return (false, n + 1)
      | .ok () =>
        if verbose then
          print ((← ownName) ++ utf8 ": creating directory " ++ (← quotedName way) ++ [10])
        return (true, n + 1)) (true, 1)
  return isGood

/-- Is the copy there already, just as it would be? -/
def isUpToDate (mode : Nat) (source target : Bytes) : Action Bool := do
  match ← foundAt true source, ← foundAt false target with
  | .ok ⟨_, .file _ a⟩, .ok ⟨_, .file there b⟩ => return there = mode && a = b
  | _, _ => return false

/-- Installs one file. -/
def installOne (manner : Manner) (mode : Nat) (ifNeeded : Bool) (passage : Bytes × Bytes) :
    Copier Bool := do
  let (source, target) := passage
  if ifNeeded && (← isUpToDate mode source target) then return true
  if !(← transferOne manner source target) then return false
  match ← foundAt true target with
  | .ok goal => setMode goal.place mode
  | .error _ => pure ()
  return true

end Copying

open Copying in
/-- Copies files with permissions, and makes directories. -/
def install (arguments : List Bytes) : Action Nat :=
  withCall ⟨"bcCsDdg:m:o:pt:TvS:Z", [⟨"compare", 'C', .nothing⟩, ⟨"debug", 'δ', .nothing⟩,
    ⟨"directory", 'd', .nothing⟩, ⟨"group", 'g', .argument⟩, ⟨"mode", 'm', .argument⟩,
    ⟨"no-target-directory", 'T', .nothing⟩, ⟨"owner", 'o', .argument⟩,
    ⟨"preserve-timestamps", 'p', .nothing⟩, ⟨"strip", 's', .nothing⟩,
    ⟨"target-directory", 't', .argument⟩, ⟨"verbose", 'v', .nothing⟩] ++ Backup.flags, .atEnd⟩ 1
    arguments fun call => withOneDirectory call do
    if (call.last? "δs").isSome then leave .abandoned
    let stop (message : Bytes) : Action Nat := do
      complain message
      return 1
    if call.has 'd' && call.has 't' then
      return ← stop (utf8 "target directory not allowed when installing a directory")
    match ← Backup.ofCall call with
    | .error status => return status
    | .ok backup =>
    let text := (call.argument? 'm').getD (utf8 "755")
    let goal ← if call.has 'd' then do
        if call.operands.isEmpty then pure (.error (← tooFew []))
        else pure (.ok (Goal.into [] call.operands))
      else goalOf call "failed to access " (call.has 'D')
    match goal with
    | .error status => return status
    | .ok goal =>
    match Mode.change? false 0 text 0, Mode.change? true 0 text 0 with
    | some mode, some directoryMode =>
      if call.has 'C' && call.has 'p' then
        return ← refuse 1
          (utf8 "options --compare (-C) and --preserve-timestamps are mutually exclusive")
      let verbose := call.has 'v'
      let manner : Copying.Manner :=
        { installs := true, backup, removesFirst := true, keepsTimes := call.has 'p', mode? := some 0o600
          verbose }
      let one := installOne manner mode (call.has 'C')
      let isGood ← match goal with
        | .into directory sources =>
          if call.has 'd' then
            sources.foldlM (fun isGood path => do
              let answer ← makeDirectories verbose directoryMode true path
              return isGood && answer) true
          else
            let isReady ← if call.has 'D' && (call.argument? 't').isSome then
                makeDirectories verbose directoryMode false directory
              else pure true
            if !isReady then return 1
            let run : Copier Bool := sources.foldlM (fun isGood source => do
              let answer ← one (source, pathIn directory source)
              return isGood && answer) true
            let (isGood, _) ← StateT.run run { hasSeveral := true }
            pure isGood
        | .onto source target =>
          let isReady ← if call.has 'D' then
              (let parent := withoutLast target
               if parent = [46] then pure true else makeDirectories verbose 0o755 false parent)
            else pure true
          if !isReady then pure false
          else
            let (isGood, _) ← StateT.run (one (source, target)) {}
            pure isGood
      finish (if isGood then 0 else 1) 1
    | _, _ => stop (utf8 "invalid mode " ++ (← quoted text))

end CleanLaunch.Shell.Utility
