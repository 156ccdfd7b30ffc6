import CleanLaunch.Shell.Builtin.Arguments
import CleanLaunch.Shell.Lookup

/-! The builtins about the process itself: its directory, its mask and its limits. -/

namespace CleanLaunch.Shell

namespace Settings

open Shell.Action
open Files (Place)

/-- Adds the parts of a path to a path that ends in a slash. What is in `root` stays. -/
def addParts (root : Nat) : (path : Bytes) → List Bytes → Bytes
  | path, [] => path
  | path, part :: rest =>
    if part.isEmpty || part = utf8 "." then addParts root path rest
    else if part = utf8 ".." then
      let above := ((path.dropLast).reverse.dropWhile (· != Path.slash)).reverse
      addParts root (if above.length < root then path.take root else above) rest
    else addParts root (path ++ part ++ [Path.slash]) rest

/-- A path from a directory on, without dots and needless slashes. Two slashes at the very beginning
    stay. -/
def logical (directory path : Bytes) : Bytes :=
  let isAbsolute := Path.isAbsolute path
  let start :=
    if isAbsolute then
      if path.getD 1 0 == Path.slash && path.getD 2 0 != Path.slash then [Path.slash, Path.slash]
      else [Path.slash]
    else if directory.getLast? == some Path.slash then directory
    else directory ++ [Path.slash]
  let root := if start.getD 1 0 == Path.slash then 2 else 1
  let whole := addParts root start (path.splitAt Path.slash)
  if root < whole.length then whole.dropLast else whole

/-- Is the physical directory asked for? The last of the flags counts. -/
def isPhysical (flags : Arguments.Flags) : Bool :=
  (flags.flags.head?.map (·.1)) == some 80

/-- Goes to a directory; says whether there is one. -/
def enter (physical : Bool) (path : Bytes) : Action Bool := do
  let state ← get
  let named := if physical then path else logical state.directoryPath path
  match state.tree.resolve state.directory true named with
  | .ok ⟨place, some (.directory _)⟩ =>
    set { state with directory := place }
    Variables.change (utf8 "OLDPWD") (some state.directoryPath) { exported := true }
    let directoryPath := if physical then place.path else named
    modify fun state => { state with directoryPath }
    Variables.change (utf8 "PWD") (some directoryPath) { exported := true }
    Lookup.doubtAll
    return true
  | _ => return false

/-- Is a path looked for in the directories of `CDPATH`? -/
def isSearched (path : Bytes) : Bool :=
  match path with
  | 47 :: _ | [46] | 46 :: 47 :: _ | [46, 46] | 46 :: 46 :: 47 :: _ => false
  | _ => true

/-- Runs `cd`. -/
def changeDirectory (arguments : List Bytes) : Action Nat := do
  let read ← Arguments.flags "LP" arguments
  let (target, isBack) ← match read.rest with
    | [] => pure ((← valueOf? (utf8 "HOME")).getD [], false)
    | [45] :: _ => pure ((← valueOf? (utf8 "OLDPWD")).getD [], true)
    | path :: _ => pure (path, false)
  let searched := isSearched target
  let target := if target.isEmpty then utf8 "." else target
  let state ← get
  let isDirectory (path : Bytes) : Bool :=
    match state.tree.find state.directory path with
    | .ok (.directory _) => true
    | _ => false
  let searchPath? ← if searched then valueOf? (utf8 "CDPATH") else pure none
  let roots := match searchPath? with
    | some path => path.splitAt 58
    | none => []
  let under (root : Bytes) : Bytes :=
    if root.isEmpty then target else root ++ Path.slash :: target
  let root? := roots.find? fun root => isDirectory (under root)
  let path := (root?.map under).getD target
  if ← enter (isPhysical read) path then
    if isBack || root?.any (!·.isEmpty) then print ((← get).directoryPath ++ [10])
    return 0
  else fail (utf8 "can't cd to " ++ target)

/-- Runs `pwd`. -/
def printDirectory (arguments : List Bytes) : Action Nat := do
  let read ← Arguments.flags "LP" arguments
  let state ← get
  print ((if isPhysical read then state.directory.path else state.directoryPath) ++ [10])
  return 0

/-- What a mask leaves to owner, group and others, in letters. -/
def allowedText (mask : Nat) : Bytes :=
  let letters (shift : Nat) : Bytes :=
    let bits := 7 - mask / shift % 8
    (if bits &&& 4 != 0 then utf8 "r" else []) ++ (if bits &&& 2 != 0 then utf8 "w" else []) ++
      (if bits &&& 1 != 0 then utf8 "x" else [])
  utf8 "u=" ++ letters 64 ++ utf8 ",g=" ++ letters 8 ++ utf8 ",o=" ++ letters 1

/-- The bits of whom the letters at the head of a text name, each bit the lowest of its three. -/
def whom (text : Bytes) : Nat × Bytes :=
  let letters := text.takeWhile (utf8 "augo").contains
  let bits := letters.foldl (fun bits letter =>
    bits ||| (if letter == 97 then 0o111 else if letter == 117 then 0o100
      else if letter == 103 then 0o010 else 0o001)) 0
  (bits, text.drop letters.length)

/-- What the letters at the head of a text permit. -/
def permitted (allowed : Nat) (text : Bytes) : Nat × Bytes :=
  let letters := text.takeWhile (utf8 "rwxugoXs").contains
  let bits := letters.foldl (fun bits letter =>
    bits ||| (match Char.ofNat letter.toNat with
      | 'r' => 4
      | 'w' => 2
      | 'x' => 1
      | 'u' => allowed / 64
      | 'g' => allowed / 8
      | 'o' => allowed
      | 'X' => if allowed &&& 0o111 = 0 then 0 else 1
      | _ => 0)) 0
  (bits % 8, text.drop letters.length)

/-- Changes permissions by a text like `u=rwx,go-w`. `before` are those at the start, `people` whose
    change goes on. -/
def changedBy (before : Nat) : (bound : Nat) → (people allowed : Nat) → Bytes → Option Nat
  | 0, _, _, _ => none
  | _, _, allowed, [] => some allowed
  | bound + 1, people, allowed, text =>
    let (bits, text) := whom text
    let people := if people ||| bits = 0 then 0o111 else people ||| bits
    match text with
    | [] => none
    | operator :: text =>
      if !(utf8 "=+-").contains operator then none
      else
        let (bits, rest) := permitted before text
        let mine := bits * people
        let allowed :=
          if operator == 45 then allowed &&& (0o777 ^^^ mine)
          else if operator == 61 then mine ||| (allowed &&& (0o777 ^^^ (people * 7)))
          else allowed ||| mine
        match rest with
        | 44 :: rest => changedBy before bound 0 allowed rest
        | next :: _ =>
          if (utf8 "=+-").contains next then changedBy before bound people allowed rest else none
        | [] => some allowed

/-- Runs `umask`. -/
def mask (arguments : List Bytes) : Action Nat := do
  let read ← Arguments.flags "S" arguments
  let mask := (← get).umask
  let put (mask : Nat) : Action Nat := do
    modify fun state => { state with umask := mask &&& 0o777 }
    return 0
  match read.rest with
  | [] =>
    print ((if read.has 'S' then allowedText mask else Files.Running.octal 4 mask) ++ [10])
    return 0
  | text :: _ =>
    if text.head?.any Bytes.isDigit then
      if text.all fun byte => (Number.digit? 8 byte).isSome then put (Number.digits 8 text).1
      else fail (utf8 "Illegal number: " ++ text)
    else match changedBy (0o777 ^^^ mask) (text.length + 1) 0 (0o777 ^^^ mask) text with
      | some allowed => put (0o777 ^^^ (allowed &&& 0o777))
      | none => fail (utf8 "Illegal mode: " ++ text)

/-- A kind of limit: its letter, its name, and its value at the start unless it has none. -/
structure LimitKind where
  letter : Char
  name : String
  value : Option Nat := none

namespace LimitKind

def all : List LimitKind :=
  [⟨'t', "time(seconds)", none⟩, ⟨'f', "file(blocks)", none⟩, ⟨'d', "data(kbytes)", none⟩,
   ⟨'s', "stack(kbytes)", some 8192⟩, ⟨'c', "coredump(blocks)", some 0⟩,
   ⟨'m', "memory(kbytes)", none⟩, ⟨'l', "locked memory(kbytes)", some 8192⟩,
   ⟨'p', "process", some 128597⟩, ⟨'n', "nofiles", none⟩, ⟨'v', "vmemory(kbytes)", none⟩,
   ⟨'w', "locks", none⟩, ⟨'r', "rtprio", some 0⟩]

/-- The most descriptors anybody may ask for. -/
def maxDescriptors : Nat := 1048576

/-- The value of a limit in a process. -/
def current (kind : LimitKind) (state : State) : Option Nat :=
  if kind.letter = 'n' then some state.limit
  else (state.otherLimits.lookup kind.letter.toNat.toUInt8).getD kind.value

def text (value : Option Nat) : Bytes :=
  match value with
  | some n => Bytes.decimal n ++ [10]
  | none => utf8 "unlimited\n"

end LimitKind

/-- Runs `ulimit`. -/
def limits (arguments : List Bytes) : Action Nat := do
  let read ← Arguments.flags "HSatfdscmlpnvwr" arguments
  let letter := ((read.flags.find? fun flag => !(utf8 "HSa").contains flag.1).map (·.1)).getD 102
  let kind := (LimitKind.all.find? (·.letter.toNat == letter.toNat)).getD ⟨'f', "", none⟩
  match read.rest with
  | [] =>
    let state ← get
    if read.has 'a' then
      print (LimitKind.all.flatMap fun kind =>
        utf8 kind.name ++ List.replicate (20 - kind.name.length) 32 ++ [32] ++
          LimitKind.text (kind.current state))
    else print (LimitKind.text (kind.current state))
    return 0
  | text :: more =>
    if read.has 'a' || !more.isEmpty then fail (utf8 "too many arguments")
    let value? ←
      if text = utf8 "unlimited" then pure none
      else if text.all Bytes.isDigit then pure (some (Number.digits 10 text).1)
      else fail (utf8 "bad number")
    if kind.letter = 'n' then
      match value?.filter (· ≤ LimitKind.maxDescriptors) with
      | some limit => modify fun state => { state with limit }
      | none => fail (utf8 "error setting limit: Operation not permitted")
    else
      modify fun state => { state with
        otherLimits := (letter, value?) :: state.otherLimits.filter (·.1 != letter) }
    return 0

end Settings

end CleanLaunch.Shell
