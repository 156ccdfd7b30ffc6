import CleanLaunch.Shell.Extended.OutlineText
import CleanLaunch.Shell.Variables

/-! Variables that are lists.

    A list holds elements under numbers or under names. A reference is the text that stands for one
    element, such as `a[3]`; a variable that is no list is its own element 0. -/

namespace CleanLaunch.Shell

namespace Lists

open Shell.Action

/-- Lists in which elements under names are kept. -/
def bucketCount : Nat := 1024

/-- The list an element under a name is kept in. -/
def bucket (name : Bytes) : Nat :=
  (name.foldl (fun (hash : UInt32) byte => (hash * 16777619) ^^^ byte.toUInt32) 2166136261).toNat %
    bucketCount

/-- The elements of a variable in their order, each with the text of its number or name. -/
def elements (entry : Variable) : List (Bytes × Bytes) :=
  match entry.elements with
  | .none => entry.value?.toList.map fun value => ([48], value)
  | .numbered elements => elements.map fun (n, value) => (Bytes.decimal n, value)
  | .named elements => elements.mergeSort fun a b => bucket a.1 ≤ bucket b.1

def isList (entry : Variable) : Bool :=
  match entry.elements with
  | .none => false
  | _ => true

def isNamed (entry : Variable) : Bool :=
  match entry.elements with
  | .named _ => true
  | _ => false

/-- The element of a variable under a number or name. -/
def element? (entry : Variable) (key : Bytes) : Option Bytes := (elements entry).lookup key

/-- Puts an element under a number into its place. -/
def putNumbered (n : Nat) (value : Bytes) : List (Nat × Bytes) → List (Nat × Bytes)
  | [] => [(n, value)]
  | (m, other) :: rest =>
    if n < m then (n, value) :: (m, other) :: rest
    else if n = m then (n, value) :: rest
    else (m, other) :: putNumbered n value rest

/-- A variable with one element put. What is no list becomes one. -/
def put (entry : Variable) (key value : Bytes) : Variable :=
  match entry.elements with
  | .named elements =>
    let elements := (key, value) :: elements.filter (·.1 ≠ key)
    { entry with elements := .named elements, value? := elements.lookup [48] }
  | other =>
    let before := match other with
      | .numbered elements => elements
      | _ => entry.value?.toList.map fun value => (0, value)
    let elements := putNumbered (Number.digits 10 key).1 value before
    { entry with elements := .numbered elements, value? := elements.lookup 0 }

/-- A variable as an empty list. -/
def emptied (entry : Variable) : Variable :=
  { entry with value? := none, elements := if isNamed entry then .named [] else .numbered [] }

/-- A list without one of its elements. -/
def remove (entry : Variable) (key : Bytes) : Variable :=
  match entry.elements with
  | .none => if key = [48] then { entry with value? := none } else entry
  | .numbered elements =>
    let elements := elements.filter (Bytes.decimal ·.1 ≠ key)
    { entry with elements := .numbered elements, value? := elements.lookup 0 }
  | .named elements =>
    let elements := elements.filter (·.1 ≠ key)
    { entry with elements := .named elements, value? := elements.lookup [48] }

/-- The number behind the last element. -/
def nextNumber (entry : Variable) : Nat :=
  match entry.elements with
  | .none => if entry.value?.isSome then 1 else 0
  | .numbered elements => (elements.getLast?.map fun (n, _) => n + 1).getD 0
  | .named _ => 0

/-- The number an index stands for; a negative one counts from behind the last element. -/
def index? (entry : Variable) (index : Int) : Option Nat :=
  let index := if index < 0 then index + nextNumber entry else index
  if index < 0 then none else some index.toNat

/-- The key that the text of a subscript stands for in a variable. -/
def key? (entry : Variable) (subscript : Bytes) : Option Bytes :=
  if isNamed entry then some subscript
  else ((Number.ofText? (some 10) subscript).bind (index? entry)).map Bytes.decimal

/-- The text that stands for an element. -/
def reference (name key : Bytes) : Bytes := name ++ 91 :: key ++ [93]

/-- A text as the name of a variable and the text of a subscript, if it has one. -/
def split (text : Bytes) : Bytes × Option Bytes :=
  let name := text.takeWhile (· != 91)
  match text.drop name.length with
  | _ :: subscript =>
    if subscript.getLast? = some 93 then (name, some subscript.dropLast) else (text, none)
  | [] => (text, none)

/-- What a shell knows of itself, as if it were the value of a variable. -/
def innate? (state : State) (name : Bytes) : Option Variable :=
  let one (value : Bytes) : Variable := { value? := some value }
  let list (values : List Bytes) : Variable :=
    { value? := values.head?, elements := .numbered (values.zipIdx.map fun (value, n) => (n, value)) }
  let frames := state.extras.frames
  let isScript := state.extras.commandLine.isNone
  let outer (value : Bytes) : List Bytes := if isScript then [value] else []
  let now := state.world.now
  if state.extras.dropped.contains name then none
  else match String.fromUTF8? ⟨name.toArray⟩ with
  | some "LINENO" => some (one (Bytes.decimal state.line))
  | some "BASHPID" => some (one (Bytes.decimal state.pid))
  | some "BASH_SUBSHELL" => some (one (Bytes.decimal (state.extras.depth)))
  | some "SECONDS" =>
    let (base, start) := state.extras.secondsFrom
    some (one (Number.text (base + (state.world.clock - start) / Host.ticksPerSecond)))
  | some "RANDOM" => some (one (Bytes.decimal state.extras.random.last))
  | some "SRANDOM" => some (one (Bytes.decimal (RandomNumbers.nextSeed (state.world.clock + state.pid))))
  | some "EPOCHSECONDS" => some (one (Number.text (now.fdiv Files.partsPerSecond)))
  | some "EPOCHREALTIME" =>
    let micros := Bytes.decimal ((now.fmod Files.partsPerSecond) / 1000).toNat
    some (one (Number.text (now.fdiv Files.partsPerSecond) ++
      46 :: List.replicate (6 - micros.length) 48 ++ micros))
  | some "_" => some (one state.extras.lastWord)
  | some "PIPESTATUS" => some (list (state.extras.stageStatuses.map Bytes.decimal))
  | some "FUNCNAME" =>
    if frames.isEmpty then none else some (list (frames.map (·.name) ++ outer (utf8 "main")))
  | some "BASH_SOURCE" => some (list (frames.map (·.origin) ++ outer state.name))
  | some "BASH_LINENO" =>
    some (list ((frames.map fun frame => Bytes.decimal frame.line) ++ outer [48]))
  | some "GROUPS" => some (list [[48]])
  | some "BASH_ARGV0" => some (one state.name)
  | some "DIRSTACK" => some (list (state.directoryPath :: state.extras.directories))
  | some "SHELLOPTS" => some (one (state.options.names))
  | some "BASHOPTS" =>
    let hidden := if state.options.isOn .strict
      then ["expand_aliases", "inherit_errexit", "shift_verbose"].map utf8 else []
    some (one (Bytes.joinWith [58] (state.extras.switches.filter (!hidden.contains ·))))
  | _ => none

/-- The variable under a name, or what a shell knows of itself under that name. -/
def find? (state : State) (name : Bytes) : Option Variable :=
  if state.dialect = .extended then (innate? state name).or (state.bindings.lookup name)
  else state.bindings.lookup name

/-- What a variable or element is worth. -/
def valueOf? (state : State) (text : Bytes) : Option Bytes :=
  let (name, subscript?) := split text
  (find? state name).bind fun entry =>
    match subscript? with
    | none => element? entry [48]
    | some subscript => (key? entry subscript).bind (element? entry)

/-- Lists in which the variables of one function or command are kept. -/
def ownBucketCount : Nat := 4

/-- Names that functions and commands keep for themselves, the innermost ones first. -/
def ownNames (state : State) : List Bytes :=
  let names := state.locals.flatMap fun own =>
    let names := own.filterMap fun entry => match entry with
      | .fresh name | .saved name _ => some name
      | .options _ => none
    names.eraseDups.mergeSort fun a b => bucket a % ownBucketCount ≤ bucket b % ownBucketCount
  names.eraseDups

/-- Lists that what stands under other names than those of variables is kept in. -/
def strangerBucketCount : Nat := 64

/-- Lists that functions are kept in. -/
def functionBucketCount : Nat := 512

/-- The environment of a command that a shell of the extended language starts: what is exported, list by
    list, and at the end the path of the command itself. -/
def environment (state : State) (path : Bytes) : List Bytes :=
  let own := ownNames state
  let isOwn (name : Bytes) : Bool := own.contains name
  let others := (state.bindings.map (·.1)).reverse.filter (!isOwn ·)
  let names := own ++ others.mergeSort fun a b => bucket a ≤ bucket b
  let entries := names.filterMap fun name =>
    (state.bindings.lookup name).bind fun entry =>
      if entry.exported && !isList entry && name ≠ [95] then
        entry.value?.map fun value => name ++ 61 :: value
      else none
  let strangers := state.extras.strangers.mergeSort fun a b =>
    bucket (a.takeWhile (· != 61)) % strangerBucketCount ≤ bucket (b.takeWhile (· != 61)) % strangerBucketCount
  let functions := (state.functions.filter (·.exported)).mergeSort fun a b =>
    bucket a.name % functionBucketCount ≤ bucket b.name % functionBucketCount
  let passed := functions.map fun function =>
    utf8 "BASH_FUNC_" ++ function.name ++ utf8 "%%=" ++
      Outline.passedFunction state.hereTexts function.written
  entries ++ strangers ++ passed ++ [utf8 "_=" ++ path]

/-- The variable under a name, or an empty one. -/
def variableOf (name : Bytes) : Action Variable :=
  return ((← get).bindings.lookup name).getD { value? := none }

/-- Takes note of a value that is given to what a shell knows of itself. Most of that stays as it is. -/
def absorb (name value : Bytes) : Action Unit :=
  modify fun state =>
    let read := (Number.read? (some 10) value).map (·.value)
    let number : Int := read.getD 0
    match String.fromUTF8? ⟨name.toArray⟩ with
    | some "RANDOM" =>
      let random : RandomNumbers := { seed := (number % 4294967296).toNat, owner? := some state.pid }
      { state with extras := { state.extras with random } }
    | some "SECONDS" =>
      { state with extras := { state.extras with secondsFrom := (number, state.world.clock) } }
    | some "BASH_ARGV0" => { state with name := value }
    | _ => state

/-- Draws a number if a name stands for that. A child begins a sequence of its own. -/
def drawFor (name : Bytes) : Action Unit := do
  let state ← get
  if name = utf8 "RANDOM" && state.dialect = .extended && !state.extras.dropped.contains name then
    let random := state.extras.random
    let isOwn := state.pid = state.shellPid || random.owner? = some state.pid
    let random := if isOwn then random
      else { random with seed := random.seed + state.pid, owner? := some state.pid }
    modify fun state => { state with extras := { state.extras with random := random.draw } }

/-- Puts a variable under a name. One that may not be changed is an error. -/
def store (name : Bytes) (entry : Variable) : Action Unit := do
  Variables.requireName name
  if (innate? (← get) name).isSome then absorb name (entry.value?.getD [])
  let state ← get
  let old? := state.bindings.lookup name
  if old?.any (·.readOnly) then failWith (.readOnly name)
  if old?.any (·.isFixed) then Variables.takeEffect name (entry.value?.getD [])
  let entry := { entry with exported := entry.exported || state.options.isOn .exportAll }
  modify fun state => { state with bindings := Variables.put state.bindings name entry }

/-- Gives a variable or an element a value. -/
def assign (text value : Bytes) : Action Unit := do
  let (name, subscript?) := split text
  let entry ← variableOf name
  match subscript? with
  | none =>
    if isList entry then store name (put entry [48] value)
    else store name { entry with value? := some value }
  | some subscript =>
    match key? entry subscript with
    | some key => store name (put entry key value)
    | none => fail (text ++ utf8 ": bad array subscript")

end Lists

end CleanLaunch.Shell
