import CleanLaunch.Shell.Utility.Amount
import CleanLaunch.Shell.Utility.Dates
import CleanLaunch.Shell.Utility.Mode
import CleanLaunch.Shell.Utility.Paths

/-! The utilities that make files, and that set their times and sizes. -/

namespace CleanLaunch.Shell.Utility

open Shell.Action
open Files (Place Node Tree Target Stamp)
open Calendar (Zone Moment)

/-- Makes the directories above a path that are not there. The result is a problem, with the path that has
    it. -/
def makeParents (mode : Nat) (announce : Bytes → Action Unit) (path : Bytes) :
    Action (Option (Bytes × Errno)) :=
  (waypoints path).dropLast.foldlM (fun problem parent => do
    if problem.isSome then return problem
    match ← foundAt true parent with
    | .ok found => return if found.node.isDirectory then none else some (parent, .ENOTDIR)
    | .error .ENOENT =>
      match ← makeDirectory parent mode with
      | .ok () =>
        announce parent
        return none
      | .error errno => return some (parent, errno)
    | .error errno => return some (parent, errno)) none

/-- Makes directories. -/
def mkdir (arguments : List Bytes) : Action Nat :=
  withCall ⟨"pm:vZ", [⟨"context", 'Z', .perhaps⟩, ⟨"parents", 'p', .nothing⟩, ⟨"mode", 'm', .argument⟩,
    ⟨"verbose", 'v', .nothing⟩], .atEnd⟩ 1 arguments fun call => do
    if call.operands.isEmpty then return ← missingOperand "operand"
    let usual ← maskedMode 0o777
    let umask := (← get).umask
    let some mode := (match call.argument? 'm' with
      | some text => Mode.change? true umask text 0o777
      | none => some usual)
      | complain (utf8 "invalid mode " ++ (← quoted ((call.argument? 'm').getD [])))
        return 1
    let fail (path : Bytes) (errno : Errno) : Action Nat := do
      complain (utf8 "cannot create directory " ++ (← quotedName path) ++ utf8 ": " ++ errno.wording)
      return 1
    let announce (path : Bytes) : Action Unit := do
      if call.has 'v' then
        print ((← ownName) ++ utf8 ": created directory " ++ (← quotedName path) ++ [10])
    let status ← forInputs call.operands fun path => do
      let problem ← if call.has 'p' then makeParents (usual ||| 0o300) announce path else pure none
      match problem with
      | some (parent, errno) => fail parent errno
      | none =>
        match ← makeDirectory path mode with
        | .ok () =>
          announce path
          return 0
        | .error errno =>
          if errno = .EEXIST && call.has 'p' && (← isDirectoryAt path) then return 0
          fail path errno
    finish status 1

namespace Touching

/-- The times that files get: now, or a time of each kind. -/
inductive Times
  | now
  | exactly (stamp : Stamp)

/-- A time in parts of a second. -/
def parts (seconds : Int) (nanoseconds : Nat) : Int := seconds * Files.partsPerSecond + nanoseconds

/-- Complains about a time. -/
def refuseTime (text : Bytes) : Action (Except Nat Times) := do
  complain (utf8 "invalid date format " ++ (← quoted text))
  return .error 1

/-- A time that a phrase makes of another one. -/
def shifted? (zone : Zone) (text : Bytes) (time : Int) : Option Int :=
  let read := Calendar.Phrase.read zone (time.fdiv Files.partsPerSecond) (time.fmod Files.partsPerSecond).toNat
    (text.takeWhile (· != 0))
  read.map fun (seconds, nanoseconds) => parts seconds nanoseconds

/-- The times that a call asks for. -/
def timesOf (call : Call) : Action (Except Nat Times) := do
  let zone ← environmentZone
  let (now, nanoseconds) ← currentTime
  let digits? : Option (Option Int) := (call.argument? 't').map fun text =>
    Dates.compact? zone (Moment.ofSeconds zone now 0).year true text
  match digits? with
  | some none => refuseTime ((call.argument? 't').getD [])
  | some (some seconds) =>
    if call.has 'd' || call.has 'r' then
      return .error (← refuse 1 (utf8 "cannot specify times from more than one source"))
    let time := parts seconds 0
    return .ok (.exactly ⟨time, time⟩)
  | none =>
    match call.argument? 'r', call.argument? 'd' with
    | none, none => return .ok .now
    | none, some text =>
      match shifted? zone text (parts now nanoseconds) with
      | some time => return .ok (.exactly ⟨time, time⟩)
      | none => refuseTime text
    | some path, phrase? =>
      match ← foundAt (!call.has 'h') path with
      | .error errno =>
        complain (utf8 "failed to get attributes of " ++ (← quotedName path) ++ utf8 ": " ++ errno.wording)
        return .error 1
      | .ok found =>
        let stamp := (← get).tree.stampOf found.place
        match phrase? with
        | none => return .ok (.exactly stamp)
        | some text =>
          match shifted? zone text stamp.modified, shifted? zone text stamp.accessed with
          | some modified, some accessed => return .ok (.exactly ⟨modified, accessed⟩)
          | _, _ => refuseTime text

/-- Sets the times of one file. -/
def touchOne (call : Call) (setsAccess setsChange : Bool) (times : Times) (path : Bytes) : Action Nat := do
  let followsLinks := !call.has 'h'
  let makes := followsLinks && !call.has 'c'
  let report (what : String) (errno : Errno) : Action Nat := do
    complain (utf8 what ++ (← quotedName path) ++ utf8 ": " ++ errno.wording)
    return 1
  let found ← foundAt followsLinks path
  let openProblem ← match found with
    | .ok _ => pure none
    | .error errno =>
      if !makes then pure none
      else match ← openPath { writes := true, creates := true } path with
        | .error other => pure (some (if errno = .ENOENT then other else errno))
        | .ok descriptor =>
          close descriptor
          pure none
  match openProblem with
  | some .EISDIR => report "setting times of " .ENOENT
  | some errno => report "cannot touch " errno
  | none =>
    match ← foundAt followsLinks path with
    | .error errno =>
      if call.has 'c' && errno = .ENOENT then return 0
      report "setting times of " errno
    | .ok found =>
      let world := (← get).world
      let stamp : Stamp := match times with
        | .now => ⟨world.now, world.now⟩
        | .exactly stamp => stamp
      let before := world.tree.stampOf found.place
      let stamp : Stamp := {
        modified := if setsChange then stamp.modified else before.modified
        accessed := if setsAccess then stamp.accessed else before.accessed }
      changeWorld fun world => { world with tree := world.tree.stampWith found.place stamp }
      return 0

end Touching

open Touching in
/-- Sets the times of files, and makes empty ones where there are none. -/
def touch (arguments : List Bytes) : Action Nat :=
  withCall ⟨"acd:fhmr:t:", [⟨"time", 'τ', .argument⟩, ⟨"no-create", 'c', .nothing⟩,
    ⟨"date", 'd', .argument⟩, ⟨"reference", 'r', .argument⟩, ⟨"no-dereference", 'h', .nothing⟩], .atEnd⟩ 1
    arguments fun call => do
    let kinds := [["atime", "access", "use"], ["mtime", "modify"]]
    match ← choice? "--time" kinds (call.argument? 'τ') with
    | .error status => return status
    | .ok kind =>
      let access := call.has 'a' || kind = some "atime"
      let change := call.has 'm' || kind = some "mtime"
      match ← timesOf call with
      | .error status => return status
      | .ok times =>
        if call.operands.isEmpty then return ← missingOperand "file operand"
        let both := access == change
        let status ← forInputs call.operands fun path =>
          if path = [45] then return 0 else touchOne call (access || both) (change || both) times path
        finish status 1

/-- The permissions of pipes and devices that a call makes. -/
def specialMode (call : Call) : Action (Except Nat Nat) := do
  let usual ← maskedMode 0o666
  match call.argument? 'm' with
  | none => return .ok usual
  | some text =>
    match Mode.change? false (← get).umask text 0o666 with
    | none =>
      complain (utf8 "invalid mode")
      return .error 1
    | some mode =>
      if 0o777 < mode then
        complain (utf8 "mode must specify only file permission bits")
        return .error 1
      return .ok mode

/-- Makes a pipe with a name. -/
def makePipe (path : Bytes) (mode : Nat) : Action (Option Errno) := do
  match ← vacancy path with
  | .error errno => return some errno
  | .ok place =>
    if path.getLast? = some Path.slash then return some .ENOENT
    changeWorld (·.makeFifo place mode)
    return none

def specialFlags : Flags :=
  ⟨"m:Z", [⟨"context", 'ξ', .perhaps⟩, ⟨"mode", 'm', .argument⟩], .atEnd⟩

/-- Makes pipes with names. -/
def mkfifo (arguments : List Bytes) : Action Nat :=
  withCall specialFlags 1 arguments fun call => do
    if call.operands.isEmpty then return ← missingOperand "operand"
    match ← specialMode call with
    | .error status => return status
    | .ok mode =>
      forInputs call.operands fun path => do
        match ← makePipe path mode with
        | none => return 0
        | some errno =>
          complain (utf8 "cannot create fifo " ++ (← quotedName path) ++ utf8 ": " ++ errno.wording)
          return 1

/-- A number as programs write it: decimal, octal with a zero or hexadecimal with `0x` before it. -/
def programmersNatural? (text : Bytes) : Option Nat :=
  match text with
  | 48 :: 120 :: digits | 48 :: 88 :: digits =>
    let (n, rest) := Number.digits 16 digits
    if digits.isEmpty || !rest.isEmpty then none else some n
  | 48 :: digits =>
    let (n, rest) := Number.digits 8 digits
    if !rest.isEmpty then none else some n
  | _ => natural? text

/-- Makes a pipe with a name, or a device, which is not allowed. -/
def mknod (arguments : List Bytes) : Action Nat :=
  withCall specialFlags 1 arguments fun call => do
    match ← specialMode call with
    | .error status => return status
    | .ok mode =>
      let explained (problem note : Bytes) : Action Nat := do
        complain problem
        printError note
        suggestHelp
        return 1
      let kind := (call.operands.getD 1 []).headD 0
      let count := call.operands.length
      let expected := if count ≤ 1 || kind == 112 then 2 else 4
      if count < expected then
        let last := call.operands.getLast?.getD []
        if count = 0 then return ← missingOperand "operand"
        return ← explained (utf8 "missing operand after " ++ (← quoted last))
          (if expected = 4 && count = 2 then
            utf8 "Special files require major and minor device numbers.\n" else [])
      if expected < count then
        return ← explained (utf8 "extra operand " ++ (← quoted (call.operands.getD expected [])))
          (if expected = 2 && count = 4 then utf8 "Fifos do not have major and minor device numbers.\n"
            else [])
      let path := call.operands.headD []
      let report (errno : Errno) : Action Nat := do
        complain ((← plainName path) ++ utf8 ": " ++ errno.wording)
        return 1
      if kind == 112 then
        match ← makePipe path mode with
        | none => return 0
        | some errno => report errno
      else if kind == 98 || kind == 99 || kind == 117 then
        let invalid (what : String) (text : Bytes) : Action Nat := do
          complain (utf8 ("invalid " ++ what ++ " device number ") ++ (← quoted text))
          return 1
        let (major, minor) := (call.operands.getD 2 [], call.operands.getD 3 [])
        match programmersNatural? major, programmersNatural? minor with
        | none, _ => invalid "major" major
        | _, none => invalid "minor" minor
        | some _, some _ =>
          match ← vacancy path with
          | .error errno => report errno
          | .ok _ => report .EPERM
      else refuse 1 (utf8 "invalid device type " ++ (← quoted (call.operands.getD 1 [])))

namespace Truncating

/-- How a size is meant. -/
inductive Relation
  | exactly
  | by
  | atMost
  | atLeast
  | downTo
  | upTo
  deriving DecidableEq

/-- A size as a flag gives it. -/
structure Size where
  relation : Relation := .exactly
  value : Int := 0

/-- The relation that a byte before a size stands for. -/
def relation? (byte : UInt8) : Option Relation :=
  match Char.ofNat byte.toNat with
  | '<' => some .atMost
  | '>' => some .atLeast
  | '/' => some .downTo
  | '%' => some .upTo
  | _ => none

/-- Letters that multiply sizes. -/
def suffixes : String := "EgGkKmMPQRtTYZ"

/-- Reads a size. -/
def readSize (text : Bytes) : Action (Except Nat Size) := do
  let trim (text : Bytes) : Bytes := text.dropWhile fun byte => byte == 32 || (9 ≤ byte && byte ≤ 13)
  let text := trim text
  let relation? := text.head?.bind relation?
  let text := trim (if relation?.isSome then text.drop 1 else text)
  let hasSign := text.head? == some 43 || text.head? == some 45
  if hasSign && relation?.isSome then
    return .error (← refuse 1 (utf8 "multiple relative modifiers specified"))
  let relation := if hasSign then .by else relation?.getD .exactly
  let invalid (more : String) : Action (Except Nat Size) := do
    complain (utf8 "Invalid number: " ++ (← quoted text) ++ utf8 more)
    return .error 1
  let digits := if hasSign then text.drop 1 else text
  match Amount.read suffixes digits with
  | .invalid | .strange => invalid ""
  | .tooLarge => invalid ": Value too large for defined data type"
  | .value n =>
    if 9223372036854775807 < n then return ← invalid ": Value too large for defined data type"
    let value : Int := if text.head? == some 45 then -(n : Int) else n
    if value = 0 && (relation = .downTo || relation = .upTo) then
      complain (utf8 "division by zero")
      return .error 1
    return .ok { relation, value }

/-- The size that a file gets. -/
def resized (size : Size) (before : Nat) : Nat :=
  let n := size.value.toNat
  match size.relation with
  | .exactly => n
  | .by => ((before : Int) + size.value).toNat
  | .atMost => min before n
  | .atLeast => max before n
  | .downTo => before - before % n
  | .upTo => if before % n = 0 then before else before + (n - before % n)

/-- Sizes beyond this one are not followed. -/
def largest : Nat := 4194304

/-- Bytes that files are written in. -/
def blockSize : Int := 4096

/-- Sets the size of a file. -/
def resize (call : Call) (size : Size) (reference : Option Nat) (path : Bytes) : Action Nat := do
  let makes := !call.has 'c'
  match ← openPath { writes := true, creates := makes } path with
  | .error errno =>
    if !makes && errno = .ENOENT then return 0
    complain (utf8 "cannot open " ++ (← quotedName path) ++ utf8 " for writing: " ++ errno.wording)
    return 1
  | .ok descriptor =>
    let place? ← filePlace? descriptor
    close descriptor
    match place? with
    | none =>
      complain (utf8 "failed to truncate " ++ (← quotedName path) ++ utf8 " at " ++
        Bytes.decimal (resized size (reference.getD 0)) ++ utf8 " bytes: " ++ Errno.EINVAL.wording)
      return 1
    | some (place, _, _) =>
      let (mode, content) := (← get).world.fileAt place
      let length := resized size (reference.getD content.length)
      if largest < length then leave .abandoned
      let padded := content.take length ++ List.replicate (length - content.length) 0
      changeWorld (·.putContent place mode padded)
      return 0

end Truncating

open Truncating in
/-- Sets the sizes of files. -/
def truncate (arguments : List Bytes) : Action Nat :=
  withCall ⟨"cor:s:", [⟨"no-create", 'c', .nothing⟩, ⟨"io-blocks", 'o', .nothing⟩,
    ⟨"reference", 'r', .argument⟩, ⟨"size", 's', .argument⟩], .atEnd⟩ 1 arguments fun call => do
    let size : Except Nat (Option Size) ← match call.argument? 's' with
      | none => pure (.ok none)
      | some text => match ← readSize text with
        | .error status => pure (.error status)
        | .ok size => pure (.ok (some size))
    match size with
    | .error status => return status
    | .ok size? =>
      let (sizeName, referenceName) := (← quoted (utf8 "--size"), ← quoted (utf8 "--reference"))
      if size?.isNone && !call.has 'r' then
        return ← refuse 1 (utf8 "you must specify either " ++ sizeName ++ utf8 " or " ++ referenceName)
      if call.has 'r' && size?.any (·.relation = .exactly) then
        return ← refuse 1 (utf8 "you must specify a relative " ++ sizeName ++ utf8 " with " ++ referenceName)
      if call.has 'o' && size?.isNone then
        return ← refuse 1 ((← quoted (utf8 "--io-blocks")) ++ utf8 " was specified but " ++ sizeName ++
          utf8 " was not")
      if call.operands.isEmpty then return ← missingOperand "file operand"
      let reference : Except Nat (Option Nat) ← match call.argument? 'r' with
        | none => pure (.ok none)
        | some path => match ← foundAt true path with
          | .error errno => do
            complain (utf8 "cannot stat " ++ (← quotedName path) ++ utf8 ": " ++ errno.wording)
            pure (.error 1)
          | .ok ⟨_, .file _ content⟩ => pure (.ok (some content.length))
          | .ok _ => pure (.ok (some 0))
      match reference with
      | .error status => return status
      | .ok reference =>
        let size := size?.getD { value := (reference.getD 0 : Nat) }
        let size := if call.has 'o' then { size with value := size.value * blockSize } else size
        forInputs call.operands (resize call size reference)

namespace Naming

/-- Letters of names that nobody has chosen. -/
def letters : Bytes := utf8 "abcdefghijklmnopqrstuvwxyzABCDEFGHIJKLMNOPQRSTUVWXYZ0123456789"

/-- A word of a length that a number stands for. -/
def word : (length : Nat) → (n : Nat) → Bytes
  | 0, _ => []
  | length + 1, n => letters.getD (n % letters.length) 97 :: word length (n / letters.length)

/-- A name with its letters `X` before an ending filled in, such that nothing has it yet. -/
def free (path : Bytes) (count : Nat) (ending : Bytes) : Action Bytes := do
  let start := path.take (path.length - ending.length - count)
  let seed := (← get).world.clock + 1
  let name (n : Nat) : Bytes := start ++ word count ((seed + n) * 2654435761) ++ ending
  let isFree (n : Nat) : Action Bool := do
    match ← foundAt false (name n) with
    | .ok _ => return false
    | .error _ => return true
  let n ← (List.range 1000).findM? isFree
  return name (n.getD 0)

/-- What a name of a file is made from: letters to be filled in, with an ending behind them. -/
structure Template where
  text : Bytes
  ending : Bytes

/-- The template of a call, or the complaint about it. -/
def templateOf (call : Call) : Action (Except Bytes Template) := do
  let text := call.operands.headD (utf8 "tmp.XXXXXXXXXX")
  let shown ← quoted text
  match call.argument? 'σ' with
  | some ending =>
    if text.getLast? != some 88 then
      return .error (utf8 "with --suffix, template " ++ shown ++ utf8 " must end in X")
    return .ok ⟨text ++ ending, ending⟩
  | none =>
    if text.contains 88 then return .ok ⟨text, (text.reverse.takeWhile (· != 88)).reverse⟩
    return .ok ⟨text, []⟩

end Naming

open Naming in
/-- Makes a file or a directory with a name that nothing has yet. -/
def mktemp (arguments : List Bytes) : Action Nat :=
  withCall ⟨"dp:qtuV", [⟨"directory", 'd', .nothing⟩, ⟨"quiet", 'q', .nothing⟩,
    ⟨"dry-run", 'u', .nothing⟩, ⟨"suffix", 'σ', .argument⟩, ⟨"tmpdir", 'π', .perhaps⟩], .atEnd⟩ 1
    arguments fun call => do
    if call.has 'V' then leave .abandoned
    let stop (message : Bytes) : Action Nat := do
      complain message
      return 1
    if 1 < call.operands.length then return ← refuse 1 (utf8 "too many templates")
    match ← templateOf call with
    | .error problem => stop problem
    | .ok ⟨text, ending⟩ =>
      if ending.contains Path.slash then
        return ← stop (utf8 "invalid suffix " ++ (← quoted ending) ++ utf8 ", contains directory separator")
      let before := text.take (text.length - ending.length)
      let count := (before.reverse.takeWhile (· == 88)).length
      if count < 3 then
        return ← stop (utf8 "too few X's in template " ++ (← quoted (call.operands.headD [])))
      let environment := ((environmentValue? (← get) "TMPDIR").filter (!·.isEmpty))
      let given := ((call.flags.find? fun flag => flag.1 == 'p' || flag.1 == 'π').map (·.2)).filter
        (!·.isEmpty)
      let inDirectory := call.has 't' || call.has 'p' || call.has 'π' || call.operands.isEmpty
      let directory := (if call.has 't' then environment.or given else given.or environment).getD (utf8 "/tmp")
      if inDirectory && call.has 't' && text.contains Path.slash then
        return ← stop (utf8 "invalid template, " ++ (← quoted (call.operands.headD [])) ++
          utf8 ", contains directory separator")
      if inDirectory && !call.has 't' && Path.isAbsolute text then
        return ← stop (utf8 "invalid template, " ++ (← quoted (call.operands.headD [])) ++
          utf8 "; with --tmpdir, it may not be absolute")
      let template := if inDirectory then within directory text else text
      let path ← free template count ending
      let problem : Option Errno ←
        if call.has 'u' then pure none
        else if call.has 'd' then do
          match ← makeDirectory path 0o700 with
          | .ok () => pure none
          | .error errno => pure (some errno)
        else match ← openPath { writes := true, creates := true, onlyNew := true } path with
          | .error errno => pure (some errno)
          | .ok descriptor => do
            close descriptor
            match ← foundAt false path with
            | .ok found => setMode found.place 0o600
            | .error _ => pure ()
            pure none
      match problem with
      | none =>
        print (path ++ [10])
        finish 0 1
      | some errno =>
        if !call.has 'q' then
          complain (utf8 (if call.has 'd' then "failed to create directory via template "
            else "failed to create file via template ") ++ (← quoted template) ++ utf8 ": " ++ errno.wording)
        return 1

end CleanLaunch.Shell.Utility
