import CleanLaunch.Shell.Layout
import CleanLaunch.Shell.Utility.Dates
import CleanLaunch.Shell.Utility.Mode
import CleanLaunch.Shell.Utility.WholePath

/-! The utilities that tell where paths lead and what files are: `readlink`, `realpath` and `stat`. -/

namespace CleanLaunch.Shell.Utility

open Shell.Action
open Files (Place Node Tree Device)
open Calendar (Moment)

/-- Prints where links lead. -/
def readlink (arguments : List Bytes) : Action Nat :=
  withCall ⟨"efmnqsvz", [⟨"canonicalize", 'f', .nothing⟩, ⟨"canonicalize-existing", 'e', .nothing⟩,
    ⟨"canonicalize-missing", 'm', .nothing⟩, ⟨"no-newline", 'n', .nothing⟩, ⟨"quiet", 'q', .nothing⟩,
    ⟨"silent", 's', .nothing⟩, ⟨"verbose", 'v', .nothing⟩, ⟨"zero", 'z', .nothing⟩], .atEnd⟩ 1 arguments
    fun call => do
    if call.operands.isEmpty then missingOperand "operand"
    else
      let isOne := call.operands.length = 1
      if call.has 'n' && !isOne then complain (utf8 "ignoring --no-newline with multiple arguments")
      let ending : Bytes := if call.has 'n' && isOne then [] else if call.has 'z' then [0] else [10]
      let status ← forInputs call.operands fun path => do
        let state ← get
        let answer := match call.last? "efm" with
          | some letter => WholePath.ofPath state.tree state.directory
              { strictness := WholePath.strictnessOf (some letter) } path
          | none => state.tree.readLink state.directory path
        match answer with
        | .ok target =>
          print (target ++ ending)
          return 0
        | .error errno =>
          if call.last? "vqs" == some 'v' || (isStrict state && (call.last? "qs").isNone) then
            complain ((← plainName path) ++ utf8 ": " ++ errno.wording)
          return 1
      finish status 1

/-- Prints paths without links. -/
def realpath (arguments : List Bytes) : Action Nat :=
  withCall ⟨"eLmPqsz", [⟨"canonicalize-existing", 'e', .nothing⟩,
    ⟨"canonicalize-missing", 'm', .nothing⟩, ⟨"logical", 'L', .nothing⟩, ⟨"no-symlinks", 's', .nothing⟩,
    ⟨"physical", 'P', .nothing⟩, ⟨"quiet", 'q', .nothing⟩, ⟨"relative-base", 'β', .argument⟩,
    ⟨"relative-to", 'ρ', .argument⟩, ⟨"strip", 's', .nothing⟩, ⟨"zero", 'z', .nothing⟩], .atEnd⟩ 1 arguments
    fun call => do
    if call.operands.isEmpty then return ← missingOperand "operand"
    let strictness := WholePath.strictnessOf (call.last? "em")
    let way := call.last? "sLP"
    let whole (path : Bytes) : Action (Except Errno Bytes) := do
      let state ← get
      let make (followsLinks : Bool) (path : Bytes) : Except Errno Bytes :=
        WholePath.ofPath state.tree state.directory { strictness, followsLinks } path
      match way with
      | some 's' => return make false path
      | some 'L' => return (make false path).bind (make true)
      | _ => return make true path
    let directory (path? : Option Bytes) : Action (Except Nat (Option Bytes)) := do
      match path? with
      | none => return .ok none
      | some path =>
        let stop (errno : Errno) : Action (Except Nat (Option Bytes)) := do
          complain ((← plainName path) ++ utf8 ": " ++ errno.wording)
          return .error 1
        match ← whole path with
        | .error errno => stop errno
        | .ok found =>
          if strictness = .everything && !(← isDirectoryAt found) then stop .ENOTDIR
          else return .ok (some found)
    match ← directory ((call.argument? 'ρ').or (call.argument? 'β')), ← directory (call.argument? 'β') with
    | .error status, _ | _, .error status => return status
    | .ok start?, .ok base? =>
      let start? := match start?, base? with
        | some start, some base => if WholePath.isBelow base start then some start else none
        | _, _ => start?
      let status ← forInputs call.operands fun path => do
        match ← whole path with
        | .ok found =>
          let isInside := base?.all (WholePath.isBelow · found)
          let shown := match start? with
            | some start => if isInside then WholePath.relative start found else found
            | none => found
          print (shown ++ [if call.has 'z' then 0 else 10])
          return 0
        | .error errno =>
          if !call.has 'q' then complain ((← plainName path) ++ utf8 ": " ++ errno.wording)
          return 1
      finish status 1

namespace Inspecting

/-- Bytes a directory takes. -/
def directorySize : Nat := 4096

/-- Bytes of a block on the disk, and of those that sizes are counted in. -/
def blockLength : Nat := 4096

def unitLength : Nat := 512

/-- The letter of a kind of file, its bits in a mode, and its name. -/
def kindOf (node : Node) : UInt8 × Nat × String :=
  match node with
  | .directory _ => (100, 0o040000, "directory")
  | .file _ content => (45, 0o100000, if content.isEmpty then "regular empty file" else "regular file")
  | .program _ | .held _ => (45, 0o100000, "regular file")
  | .link _ => (108, 0o120000, "symbolic link")
  | .device _ => (99, 0o020000, "character special file")
  | .channel _ | .fifo .. => (112, 0o010000, "fifo")

/-- Bytes of a file, if that is known. -/
def size? (node : Node) : Option Nat :=
  match node with
  | .directory _ => some directorySize
  | .file _ content => some content.length
  | .link target => some target.length
  | .device _ | .channel _ | .fifo .. => some 0
  | .program _ | .held _ => none

/-- Blocks that a file takes on the disk, in small units. -/
def units? (node : Node) : Option Nat :=
  match node with
  | .link _ => some 0
  | node => (size? node).map fun n => (n + blockLength - 1) / blockLength * (blockLength / unitLength)

/-- The two numbers of a device. -/
def deviceNumbers (node : Node) : Nat × Nat :=
  match node with
  | .device .null => (1, 3)
  | .device .zero => (1, 5)
  | .device .full => (1, 7)
  | .device .random => (1, 8)
  | .device .terminal => (5, 0)
  | _ => (0, 0)

/-- How many names a file has. A directory has one in each directory that is in it. -/
def names (tree : Tree) (found : Found) : Nat :=
  match found.node with
  | .directory _ =>
    let isDirectory (name : Bytes) : Bool := match tree.node? (found.place ++ [name]) with
      | some (.directory _) => true
      | _ => false
    ((tree.children found.place).eraseDups.filter isDirectory).length + 2
  | _ => (tree.names found.place).length

/-- Lays out a time in seconds, with as many places as the precision asks for. -/
def epoch (layout : Layout) (hasPoint : Bool) (time : Int) : Bytes :=
  let places := if hasPoint then (match layout.precision with
    | some 0 | none => 9
    | some n => n) else 0
  let seconds := time.fdiv Files.partsPerSecond
  let parts := (time.fmod Files.partsPerSecond).toNat
  let digits := Bytes.decimal parts
  let fraction := (List.replicate (9 - digits.length) 48 ++ digits ++ List.replicate (places - 9) 48).take places
  let sign : Bytes := if seconds < 0 then [45] else []
  layout.padNumber true sign (Bytes.decimal seconds.natAbs ++
    if places = 0 then [] else 46 :: fraction)

/-- A time as people read it. -/
def shownTime (time : Int) : Action Bytes := do
  let zone ← environmentZone
  let moment := Moment.ofSeconds zone (time.fdiv Files.partsPerSecond) (time.fmod Files.partsPerSecond).toNat
  return moment.shownFully (utf8 "%Y-%m-%d %H:%M:%S.%N %z")

/-- The style in which names are quoted. -/
def quoteName (path : Bytes) : Action Bytes := do
  match environmentValue? (← get) "QUOTING_STYLE" with
  | none => quotedName path
  | some _ => leave .abandoned

/-- Prints what a letter of a format stands for. -/
def putField (path : Bytes) (found : Found) (layout : Layout) (hasPoint : Bool) (half : Option UInt8)
    (letter : UInt8) : Action Unit := do
  let node := found.node
  let tree := (← get).tree
  let plain : Layout := { layout with alternate := false, plusSign := false, blankSign := false }
  let text (shown : Bytes) : Action Unit := print ({ plain with zeroPadded := false }.text shown)
  let number (n : Nat) : Action Unit := print (plain.natural 117 n)
  let inBase (letter : UInt8) (n : Nat) : Action Unit :=
    print ({ plain with alternate := layout.alternate }.natural letter n)
  let known (value : Option Nat) : Action Unit := match value with
    | some n => number n
    | none => leave .abandoned
  let (kind, bits, word) := kindOf node
  let (major, minor) := deviceNumbers node
  let stamp := tree.stampOf found.place
  match Char.ofNat letter.toNat with
  | 'n' => text path
  | 'N' =>
    text (← quoteName path)
    match node with
    | .link target =>
      print (utf8 " -> ")
      text (← quoteName target)
    | _ => pure ()
  | 'a' => inBase 111 node.mode
  | 'A' => text (kind :: Mode.letters node.mode)
  | 'f' => inBase 120 (bits + node.mode)
  | 'F' => text (utf8 word)
  | 'h' => number (names tree found)
  | 'u' | 'g' => number 0
  | 'U' | 'G' => text (utf8 "root")
  | 's' => known (size? node)
  | 'b' => known (units? node)
  | 'B' => number unitLength
  | 'o' => number blockLength
  | 't' => inBase 120 major
  | 'T' => inBase 120 minor
  | 'r' =>
    match half with
    | some 72 => number major
    | some 76 => number minor
    | _ => number (major * 256 + minor)
  | 'R' => inBase 120 (major * 256 + minor)
  | 'x' => text (← shownTime stamp.accessed)
  | 'y' | 'z' => text (← shownTime stamp.modified)
  | 'X' => print (epoch layout hasPoint stamp.accessed)
  | 'Y' | 'Z' => print (epoch layout hasPoint stamp.modified)
  | 'i' | 'd' | 'D' | 'm' | 'w' | 'W' | 'C' => leave .abandoned
  | _ => print [63]

/-- The value of a digit, if there is one at the head of a text. -/
def octalAt (text : Bytes) : Bytes := (text.take 3).takeWhile fun byte => 48 ≤ byte && byte ≤ 55

def isHexDigit (byte : UInt8) : Bool :=
  Bytes.isDigit byte || (65 ≤ byte && byte ≤ 70) || (97 ≤ byte && byte ≤ 102)

/-- Prints an escape, and gives what is behind it. -/
def putEscape (text : Bytes) : Action Bytes := do
  match text with
  | [] =>
    complain (utf8 "warning: backslash at end of format")
    print [92]
    return []
  | byte :: rest =>
    let octal := octalAt text
    if !octal.isEmpty then
      print [(octal.foldl (fun n byte => n * 8 + Bytes.digitValue byte) 0).toUInt8]
      return text.drop octal.length
    let digits := (rest.take 2).takeWhile isHexDigit
    if byte == 120 && !digits.isEmpty then
      print [(Number.digits 16 digits).1.toUInt8]
      return rest.drop digits.length
    match List.lookup byte [(97, 7), (98, 8), (101, 27), (102, 12), (110, 10), (114, 13), (116, 9), (118, 11),
        (34, 34), (92, (92 : UInt8))] with
    | some value => print [value]
    | none =>
      complain (utf8 "warning: unrecognized escape '\\" ++ [byte] ++ utf8 "'")
      print [byte]
    return rest

/-- A directive of a format behind its percent sign: its layout, whether it has a point, its text up to the
    letter, and what is behind. -/
def directive (text : Bytes) : Layout × Bool × Bytes × Bytes :=
  let isFlag (byte : UInt8) : Bool := (utf8 "'-+ #0I").contains byte
  let flagText := text.takeWhile isFlag
  let rest := text.drop flagText.length
  let width := rest.takeWhile Bytes.isDigit
  let rest := rest.drop width.length
  let hasPoint := rest.head? == some 46
  let precision := if hasPoint then (rest.drop 1).takeWhile Bytes.isDigit else []
  let rest := if hasPoint then rest.drop (1 + precision.length) else rest
  let has (byte : UInt8) : Bool := flagText.contains byte
  let layout : Layout := {
    leftAligned := has 45, zeroPadded := has 48, plusSign := has 43, blankSign := has 32, alternate := has 35
    width := (natural? width).getD 0, precision := if hasPoint then some ((natural? precision).getD 0) else none }
  (layout, hasPoint, text.take (text.length - rest.length), rest)

/-- Prints a file by a format. The result is false if a directive is invalid. -/
def putFormat (escapes : Bool) (path : Bytes) (found : Found) : (bound : Nat) → Bytes → Action Bool
  | 0, _ | _, [] => return true
  | bound + 1, byte :: rest => do
    if byte == 92 && escapes then
      let after ← putEscape rest
      putFormat escapes path found bound after
    else if byte != 37 then
      print [byte]
      putFormat escapes path found bound rest
    else
      let (layout, hasPoint, start, after) := directive rest
      match after with
      | [] | 37 :: _ =>
        if !start.isEmpty then
          complain ((← quoted (37 :: start ++ after.take 1)) ++ utf8 ": invalid directive")
          return false
        print [37]
        putFormat escapes path found bound (after.drop 1)
      | letter :: next :: more =>
        if (letter == 72 || letter == 76) && (next == 100 || next == 114) then
          putField path found layout hasPoint (some letter) next
          putFormat escapes path found bound more
        else
          putField path found layout hasPoint none letter
          putFormat escapes path found bound (next :: more)
      | [letter] =>
        putField path found layout hasPoint none letter
        return true

end Inspecting

open Inspecting in
/-- Tells what files are, in a format. -/
def stat (arguments : List Bytes) : Action Nat :=
  withCall ⟨"c:fLt", [⟨"dereference", 'L', .nothing⟩, ⟨"file-system", 'f', .nothing⟩,
    ⟨"format", 'c', .argument⟩, ⟨"printf", 'π', .argument⟩, ⟨"terse", 't', .nothing⟩,
    ⟨"cached", 'κ', .argument⟩], .atEnd⟩ 1 arguments fun call => do
    if call.operands.isEmpty then missingOperand "operand"
    else
      let (status, _) ← call.operands.foldlM (fun (status, isOver) path => do
        if isOver then return (status, true)
        let problem (errno : Errno) : Action (Nat × Bool) := do
          if path = [45] then complain (utf8 "cannot stat standard input: " ++ Errno.EBADF.wording)
          else complain (utf8 "cannot statx " ++ (← quotedName path) ++ utf8 ": " ++ errno.wording)
          return (1, false)
        let found ← if path = [45] then foundAt true (utf8 "/proc/self/fd/0") else foundAt (call.has 'L') path
        match found with
        | .error errno => problem errno
        | .ok found =>
          let format := call.flags.find? fun flag => flag.1 == 'c' || flag.1 == 'π'
          match format, call.has 'f' with
          | some (letter, text), false =>
            let isGood ← putFormat (letter == 'π') path found (text.length + 1) text
            if isGood && letter == 'c' then print [10]
            return (if isGood then status else 1, !isGood)
          | _, _ => leave .abandoned) (0, false)
      finish status 1

end CleanLaunch.Shell.Utility
