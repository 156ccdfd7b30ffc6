import CleanLaunch.Shell.Number
import CleanLaunch.Shell.Parser
import CleanLaunch.Shell.State

/-! The variables of a shell.

    `Variables.change` sets or unsets a variable, with what else the shell does when that happens. The
    environment of a command is made of the exported variables: `Variables.environment`. -/

namespace CleanLaunch.Shell

namespace Action

/-- The largest number that builtins take. -/
def maxNumber : Int := 2147483647

/-- A text as a number that is not negative. -/
def number (text : Bytes) : Action Nat := do
  match Number.ofText? (some 10) text with
  | some value =>
    if 0 ≤ value && value ≤ maxNumber then return value.toNat
    else fail (utf8 "Illegal number: " ++ text)
  | none => fail (utf8 "Illegal number: " ++ text)

end Action

namespace Variables

open Shell.Action

/-- What a variable is marked as, besides what it is already. -/
structure Marks where
  exported : Bool := false
  readOnly : Bool := false
  isFixed : Bool := false

/-- The variables with one of them put; it keeps its place among the others. -/
def put (bindings : List (Bytes × Variable)) (name : Bytes) (value : Variable) :
    List (Bytes × Variable) :=
  if bindings.any (·.1 = name) then
    bindings.map fun entry => if entry.1 = name then (name, value) else entry
  else bindings ++ [(name, value)]

/-- The variables without one of them. -/
def erase (bindings : List (Bytes × Variable)) (name : Bytes) : List (Bytes × Variable) :=
  bindings.filter (·.1 ≠ name)

/-- What a variable's new value does to the shell: the search path changes where commands are found, and
    the number of the next option goes on from there. -/
def takeEffect (name value : Bytes) : Action Unit := do
  if name = utf8 "PATH" then
    modify fun state => { state with hashed := [], extras := { state.extras with found := [] } }
  else if name = utf8 "OPTIND" then
    let index ← match (← get).dialect with
      | .standard => number value
      | .extended =>
        match Number.read? (some 10) value with
        | some read => pure read.value.toNat
        | none => pure 0
    modify fun state => { state with optionProgress := { index := if index = 0 then 1 else index } }

/-- Sets a variable, or unsets it. An unset variable is forgotten unless it is marked. -/
def change (name : Bytes) (value? : Option Bytes) (marks : Marks) : Action Unit := do
  let state ← get
  let marks := { marks with exported := marks.exported || state.options.isOn .exportAll }
  let isMarked := marks.exported || marks.readOnly || marks.isFixed
  match state.bindings.lookup name with
  | some old =>
    if old.readOnly then failWith (.readOnly name)
    if old.isFixed then takeEffect name (value?.getD [])
    modify fun state => { state with
      bindings :=
        if value?.isNone && !isMarked && !old.isFixed then erase state.bindings name
        else put state.bindings name
          { old with
            value?
            exported := old.exported || marks.exported
            readOnly := marks.readOnly
            isFixed := old.isFixed || marks.isFixed } }
  | none =>
    if value?.isSome || isMarked then
      modify fun state => { state with
        bindings := state.bindings ++
          [(name, {
            value?, exported := marks.exported, readOnly := marks.readOnly
            isFixed := marks.isFixed })] }

/-- Requires a text to be a variable's name. -/
def requireName (name : Bytes) : Action Unit := do
  if !Parser.isName name then failWith (.badName name)

/-- Gives a variable a value. -/
def assign (name value : Bytes) : Action Unit := do
  requireName name
  change name (some value) {}

/-- Takes a variable its value. -/
def unset (name : Bytes) : Action Unit := do
  requireName name
  change name none {}

/-- A text like `name=value` in its two parts. -/
def declaration (text : Bytes) : Bytes × Option Bytes :=
  let name := text.takeWhile (· != 61)
  (name, if name.length < text.length then some (text.drop (name.length + 1)) else none)

/-- Remembers a variable so that it is restored when the function ends, and gives it a value if the
    text has one. -/
def makeLocal (text : Bytes) (marks : Marks) : Action Unit := do
  let remember (entry : Local) : Action Unit :=
    modify fun state => { state with
      locals := match state.locals with
        | [] => []
        | own :: others => (entry :: own) :: others }
  if text = [45] then remember (.options (← get).options)
  else
    let (name, value?) := declaration text
    match (← get).bindings.lookup name with
    | none =>
      if value?.isNone then requireName name
      change name value? { marks with isFixed := true }
      remember (.fresh name)
    | some before =>
      modify fun state => { state with
        bindings := put state.bindings name { before with isFixed := true } }
      if value?.isSome then change name value? marks
      remember (.saved name before)

/-- Restores what a function had remembered. -/
def restore : Local → Action Unit
  | .options before => modify fun state => { state with options := before }
  | .fresh name => modify fun state => { state with bindings := erase state.bindings name }
  | .saved name before => do
    if before.isFixed then takeEffect name (before.value?.getD [])
    modify fun state => { state with bindings := put state.bindings name before }

/-- Opens a new level of variables to be restored. -/
def pushLocals : Action Unit := modify fun state => { state with locals := [] :: state.locals }

/-- Restores variables down to a depth of levels. -/
def popLocals : (levels : Nat) → (depth : Nat) → Action Unit
  | 0, _ => pure ()
  | levels + 1, depth => do
    match (← get).locals with
    | [] => pure ()
    | own :: others =>
      if depth < others.length + 1 then
        modify fun state => { state with locals := others }
        own.forM restore
        popLocals levels depth

/-- Lists of variables that a shell keeps its variables in. -/
def bucketCount : Nat := 39

/-- The list a variable is kept in. -/
def bucket (name : Bytes) : Nat :=
  ((name.headD 0).toNat * 16 + sumOf (name.map (·.toNat))) % bucketCount

/-- The environment of the commands a shell starts: its exported variables, list by list. -/
def environment (bindings : List (Bytes × Variable)) : List Bytes :=
  let exported := bindings.filterMap fun (name, entry) =>
    if entry.exported then entry.value?.map fun value => (name, value) else none
  (exported.mergeSort fun a b => bucket a.1 ≤ bucket b.1).map fun (name, value) =>
    name ++ 61 :: value

/-- The rest of a value in quotes, from behind an opening one on. Single quotes themselves stand in
    double quotes, everything else in single ones. -/
def quotedFrom (inDouble : Bool) : Bytes → Bytes
  | [] => [if inDouble then 34 else 39]
  | byte :: rest =>
    if byte == 39 then (if inDouble then [39] else [39, 34, 39]) ++ quotedFrom true rest
    else (if inDouble then [34, 39, byte] else [byte]) ++ quotedFrom false rest

/-- A value in quotes that a shell reads back. -/
def quoted (value : Bytes) : Bytes := 39 :: quotedFrom false value

/-- The variables that pass a test in the order of their names, each as a command that sets it. -/
def listing (front : Bytes) (isListed : Variable → Bool) (bindings : List (Bytes × Variable)) :
    Bytes :=
  let front := if front.isEmpty then [] else front ++ [32]
  let listed := bindings.filter (isListed ·.2)
  (listed.mergeSort fun a b => !decide (b.1 < a.1)).flatMap fun (name, entry) =>
    front ++ name ++ (match entry.value? with
      | some value => 61 :: quoted value
      | none => []) ++ [10]

end Variables

end CleanLaunch.Shell
