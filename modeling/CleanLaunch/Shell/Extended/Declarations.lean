import CleanLaunch.Shell.Extended.Assigning
import CleanLaunch.Shell.Extended.Usage

/-! The builtins of the extended language that declare variables, and forget them.

    An argument may be an assignment that has been read as one, so that a list can be given. In a function,
    a declared variable is the function's own. -/

namespace CleanLaunch.Shell

namespace Declarations

open Shell.Action
open Assigning (Given)

/-- An argument of a builtin that declares variables. -/
inductive Argument
  | word (text : Bytes)
  | assignment (given : Given)

namespace Argument

/-- The argument as a text. -/
def text : Argument → Bytes
  | .word own => own
  | .assignment given => given.text

/-- The name of a variable, and what it is given. -/
def split : Argument → Bytes × Option Given
  | .assignment given => (given.name, some given)
  | .word own =>
    let head := own.takeWhile (· != 61)
    if head.length = own.length then (own, none)
    else
      let appends := head.getLast? = some 43
      let (name, subscript?) := Lists.split (if appends then head.dropLast else head)
      (name, some { name, subscript?, appends, content := .text (own.drop (head.length + 1)) })

/-- How messages name the argument if it cannot be read. -/
def refused (argument : Argument) : Bytes := argument.text

end Argument

/-- What a declaration asks for. -/
structure Wish where
  /-- The letters of attributes that are given, and of those that are taken away. -/
  given : Bytes := []
  taken : Bytes := []
  /-- Are declarations shown instead? -/
  shows : Bool := false

def Wish.has (wish : Wish) (letter : Char) : Bool := wish.given.any (·.toNat == letter.toNat)

/-- Reads the flags of a declaration. -/
def wish (known : String) : Wish → List Argument → Action (Wish × List Argument)
  | wish, [] => return (wish, [])
  | wish, argument :: rest => do
    match argument.text with
    | [45, 45] => return (wish, rest)
    | sign :: letter :: more =>
      if sign == 45 || sign == 43 then
        let letters := letter :: more
        match letters.find? (!(utf8 known).contains ·) with
        | some letter => Usage.refuseFlag sign letter
        | none =>
          let own := letters.filter (· != 112)
          let wish := { wish with shows := wish.shows || letters.contains 112 }
          Declarations.wish known
            (if sign == 45 then { wish with given := wish.given ++ own }
              else { wish with taken := wish.taken ++ own }) rest
      else return (wish, argument :: rest)
    | _ => return (wish, argument :: rest)

/-- A variable with the attributes that do not depend on its value. -/
def shaped (wish : Wish) (entry : Variable) : Variable :=
  let treatment : Treatment :=
    if wish.has 'i' then .evaluated
    else if wish.has 'l' then .lowered
    else if wish.has 'u' then .raised
    else if entry.treatment = .evaluated && wish.taken.contains 105 then .nothing
    else if entry.treatment = .lowered && wish.taken.contains 108 then .nothing
    else if entry.treatment = .raised && wish.taken.contains 117 then .nothing
    else entry.treatment
  let exported := (entry.exported || wish.has 'x') && !wish.taken.contains 120
  let elements : Elements :=
    if Lists.isList entry then entry.elements
    else if wish.has 'A' then
      .named (entry.value?.toList.map fun value => ([48], value))
    else if wish.has 'a' then .numbered (entry.value?.toList.map fun value => (0, value))
    else entry.elements
  { entry with treatment, exported, elements }

/-- Marks a variable as read-only. -/
def close (name : Bytes) : Action Unit :=
  modify fun state => { state with
    bindings := state.bindings.map fun (other, entry) =>
      (other, if other = name then { entry with readOnly := true } else entry) }

/-- Declares one variable. `isOwn` says that it is to be a function's own. -/
def declareOne (wish : Wish) (isOwn : Bool) (argument : Argument) : Action Nat := do
  let (name, given?) := argument.split
  if isOwn && argument.text = [45] then
    modify fun state => { state with
      locals := match state.locals with
        | [] => []
        | own :: others => (.options state.options :: own) :: others }
    return 0
  if !Parser.isName name then
    return ← Usage.failing (utf8 "\x60" ++ argument.refused ++ utf8 "': not a valid identifier")
  let state ← get
  let old := (state.bindings.lookup name).getD { value? := none }
  let isNew := isOwn && !Assigning.isKept state name
  if old.readOnly && (isNew || given?.isSome || wish.taken.contains 114) then
    return ← Usage.failing (name ++ utf8 ": readonly variable")
  if !isNew && Lists.isList old && wish.has 'A' && !Lists.isNamed old then
    return ← Usage.failing (name ++ utf8 ": cannot convert indexed to associative array")
  if !isNew && Lists.isNamed old && wish.has 'a' then
    return ← Usage.failing (name ++ utf8 ": cannot convert associative to indexed array")
  let start : Variable := if isNew then { value? := none, exported := old.exported } else old
  if isNew then Assigning.keep name
  Lists.store name (shaped wish start)
  match given? with
  | some given => Assigning.perform given (shaped wish)
  | none => pure ()
  if wish.has 'r' then close name
  return 0

/-- The variables that a shell knows of itself, as listings show them. -/
def ownVariables (state : State) : List (Bytes × Variable) :=
  let innate (readOnly : Bool) (name : String) : Option (Bytes × Variable) :=
    (Lists.innate? state (utf8 name)).map fun entry => (utf8 name, { entry with readOnly })
  let list (name : String) : Bytes × Variable :=
    (utf8 name, { value? := none, elements := .numbered [] })
  let table (name : String) : Bytes × Variable := (utf8 name, { value? := none, elements := .named [] })
  let lines := if state.extras.frames.isEmpty && state.extras.commandLine.isSome then []
    else ["FUNCNAME", "BASH_SOURCE", "BASH_LINENO"].filterMap (innate false)
  let stages := if state.extras.stageStatuses.isEmpty then none else innate false "PIPESTATUS"
  ["BASHOPTS", "SHELLOPTS"].filterMap (innate true) ++ stages.toList ++ lines ++
    (innate false "_").toList ++
    (if lines.isEmpty then [list "BASH_LINENO", list "BASH_SOURCE"] else []) ++
    [table "BASH_ALIASES", table "BASH_CMDS", list "BASH_ARGC", list "BASH_ARGV", list "DIRSTACK",
     list "GROUPS"]

/-- All variables with the ones a shell knows of itself, in the order of their names. -/
def allVariables (state : State) : List (Bytes × Variable) :=
  (ownVariables state ++ state.bindings).mergeSort fun a b => !decide (b.1 < a.1)

/-- Is a variable one that a listing by attributes asks for? -/
def isListed (wish : Wish) (entry : Variable) : Bool :=
  let letters := Expansion.attributes entry
  (wish.given.filter fun letter => letter != 103 && letter != 112).isEmpty ||
    wish.given.any letters.contains

/-- A variable as `set` shows it. -/
def assignmentText (wide : Bool) (name : Bytes) (entry : Variable) : Bytes :=
  let elements := (Lists.elements entry).map fun (key, value) =>
    91 :: Quoting.elementName wide key ++ utf8 "]=" ++ Quoting.declared wide value
  name ++ 61 :: (if Lists.isList entry then 40 :: Bytes.joinWith [32] elements ++ [41]
    else Quoting.shown (entry.value?.getD []))

/-- Lists variables, as commands that declare them or as `set` does. -/
def listing (wish : Wish) : Action Unit := do
  let wide := (← get).hasWideTexts
  let all := (allVariables (← get)).filter fun entry => isListed wish entry.2
  for (name, entry) in all do
    if wish.shows || !wish.given.isEmpty then print (Expansion.declarationText wide name entry ++ [10])
    else if entry.value?.isSome || Lists.isList entry then
      print (assignmentText wide name entry ++ [10])

/-- Shows the declarations of some names. -/
def showNames : (status : Nat) → List Argument → Action Nat
  | status, [] => return status
  | status, argument :: rest => do
    let name := argument.text
    let state ← get
    match (state.bindings.lookup name).or (Lists.innate? state name) with
    | some entry =>
      print (Expansion.declarationText state.hasWideTexts name entry ++ [10])
      showNames status rest
    | none =>
      warn (name ++ utf8 ": not found")
      showNames 1 rest

/-- How functions are shown. -/
structure FunctionView where
  /-- Are only their names shown? -/
  onlyNames : Bool
  /-- Is a name that stands for no function reported? -/
  reports : Bool

/-- All functions in the order of their names. -/
def allFunctions (state : State) : List Function :=
  state.functions.mergeSort fun a b => !decide (b.name < a.name)

/-- The command that gives a function its marks. -/
def functionMarks (function : Function) : Bytes :=
  utf8 "declare -f" ++ (if function.readOnly then [114] else []) ++ (if function.exported then [120] else []) ++
    32 :: function.name ++ [10]

/-- The text that lists a function. -/
def functionText (view : FunctionView) (state : State) (function : Function) : Bytes :=
  if view.onlyNames then functionMarks function
  else
    Outline.shownFunction state.hereTexts function.name function.written ++
      if function.exported || function.readOnly then functionMarks function else []

/-- Shows functions, all of them or some by name. -/
def showFunctions (view : FunctionView) (names : List Argument) : Action Nat := do
  let state ← get
  if names.isEmpty then
    print ((allFunctions state).flatMap (functionText view state))
    return 0
  let mut status := 0
  for argument in names do
    match state.functions.find? (·.name = argument.text) with
    | some function =>
      print (if view.onlyNames then argument.text ++ [10]
        else Outline.shownFunction state.hereTexts function.name function.written)
    | none =>
      if view.reports then warn (argument.text ++ utf8 ": not found")
      status := 1
  return status

/-- Marks functions by name. -/
def markFunctions (change : Function → Function) (names : List Argument) : Action Nat := do
  let mut status := 0
  for argument in names do
    if (← get).functions.any (·.name = argument.text) then
      modify fun state => { state with
        functions := state.functions.map fun function =>
          if function.name = argument.text then change function else function }
    else
      warn (argument.text ++ utf8 ": not a function")
      status := 1
  return status

/-- Does each of some declarations; the last failure counts. -/
def declareEach (wish : Wish) (isOwn : Bool) (arguments : List Argument) : Action Nat := do
  let mut status := 0
  for argument in arguments do
    let own ← declareOne wish isOwn argument
    if own ≠ 0 then status := own
  return status

/-- Runs `declare`. -/
def declare (arguments : List Argument) : Action Nat := do
  let (wish, names) ← wish "aAcfFgiIlnprtux" {} arguments
  let isMarking := wish.has 'f' && !wish.shows && !names.isEmpty
  if isMarking && (wish.given ++ wish.taken).any (utf8 "xr").contains then
    markFunctions (fun function => { function with
      exported := (function.exported || wish.given.contains 120) && !wish.taken.contains 120
      readOnly := function.readOnly || wish.given.contains 114 }) names
  else if wish.has 'f' || wish.has 'F' then
    showFunctions { onlyNames := wish.has 'F', reports := wish.shows } names
  else if names.isEmpty then
    listing wish
    return 0
  else if wish.shows then showNames 0 names
  else declareEach wish ((← get).inFunction && !wish.has 'g') names

/-- Runs `local`. -/
def makeLocal (arguments : List Argument) : Action Nat := do
  if !(← get).inFunction then
    return ← Usage.failing (utf8 "can only be used in a function")
  let (wish, names) ← wish "aAcfFgiIlnprtux" {} arguments
  if names.isEmpty then
    for entry in (← get).locals.headD [] do
      match entry with
      | .fresh name | .saved name _ =>
        match (← get).bindings.lookup name with
        | some entry => print (assignmentText (← get).hasWideTexts name entry ++ [10])
        | none => pure ()
      | .options _ => pure ()
    return 0
  else if wish.shows then showNames 0 names
  else declareEach wish true names

/-- A variable as `export` and `readonly` list it. -/
def markedText (title : Bytes) (isStrict wide : Bool) (name : Bytes) (entry : Variable) : Bytes :=
  let declaration := Expansion.declarationText wide name entry
  if isStrict then
    let flags := if Lists.isNamed entry then utf8 "-A " else if Lists.isList entry then utf8 "-a " else []
    let value := (declaration.drop 9).dropWhile (· != 32)
    title ++ 32 :: flags ++ value.drop 1
  else declaration

/-- Runs `export` or `readonly`. -/
def mark (title : Bytes) (letter : Char) (arguments : List Argument) : Action Nat := do
  let (wish, names) ← wish (if letter = 'x' then "fnp" else "aAfp") {} arguments
  let isStrict := (← get).options.isOn .strict
  let isMarked (entry : Variable) : Bool := if letter = 'x' then entry.exported else entry.readOnly
  if wish.has 'f' then
    let isMarked (function : Function) : Bool :=
      if letter = 'x' then function.exported else function.readOnly
    let change (function : Function) : Function :=
      if letter = 'x' then { function with exported := !wish.has 'n' } else { function with readOnly := true }
    if !names.isEmpty then return ← markFunctions change names
    let state ← get
    for function in (allFunctions state).filter isMarked do
      print (if isStrict then title ++ utf8 " -f " ++ function.name ++ [10]
        else functionText { onlyNames := false, reports := false } state function)
    return 0
  if names.isEmpty then
    for (name, entry) in (allVariables (← get)).filter fun entry => isMarked entry.2 do
      print (markedText title isStrict (← get).hasWideTexts name entry ++ [10])
    return 0
  let mut status := 0
  for argument in names do
    let (name, given?) := argument.split
    if wish.has 'f' then
      if !(← get).functions.any (·.name = name) then
        warn (name ++ utf8 ": not a function")
        status := 1
    else if !Parser.isName name then
      warn (utf8 "\x60" ++ argument.refused ++ utf8 "': not a valid identifier")
      status := 1
    else
      let own : Wish :=
        if letter = 'x' then
          (if wish.has 'n' then { taken := utf8 "x" } else { given := utf8 "x" })
        else { given := wish.given.filter (· != 102) }
      match given? with
      | some given =>
        if (← Lists.variableOf name).readOnly then
          modify fun state => { state with builtin := none, status := 1 }
          complain (.readOnly name)
          leave .failed
        Assigning.perform given (shaped own)
      | none =>
        let entry ← Lists.variableOf name
        let entry := shaped own entry
        modify fun state => { state with bindings := Variables.put state.bindings name entry }
      if letter = 'r' then close name
  return status

/-- Is a variable one of a function that has called the running one? -/
def isOuter (state : State) (name : Bytes) : Bool :=
  let isOwn (own : List Local) : Bool := own.any fun entry => match entry with
    | .fresh other | .saved other _ => other = name
    | .options _ => false
  !isOwn (state.locals.headD []) && state.locals.any isOwn && !Expansion.isOn state "localvar_unset"

/-- Forgets the variable of a calling function: the one that it has hidden is there again. -/
def uncover (name : Bytes) : Action Nat := do
  let rec go : List (List Local) → Option (List (List Local) × Option Variable)
    | [] => none
    | own :: others =>
      let isMeant (entry : Local) : Bool := match entry with
        | .fresh other | .saved other _ => other = name
        | .options _ => false
      match own.find? isMeant with
      | some (.saved _ before) => some (own.filter (!isMeant ·) :: others, some before)
      | some _ => some (own.filter (!isMeant ·) :: others, none)
      | none => (go others).map fun (others, before?) => (own :: others, before?)
  match go (← get).locals with
  | none => pure ()
  | some (locals, before?) =>
    modify fun state => { state with
      locals
      bindings := match before? with
        | some before => Variables.put state.bindings name before
        | none => Variables.erase state.bindings name }
  return 0

/-- Forgets a variable, or one of its elements. -/
def forget (name : Bytes) (subscript? : Option Bytes) : Action Nat := do
  if subscript?.isNone && (Lists.innate? (← get) name).isSome then
    modify fun state => { state with
      extras := { state.extras with dropped := name :: state.extras.dropped } }
  if subscript?.isNone && isOuter (← get) name then return ← uncover name
  let state ← get
  match state.bindings.lookup name with
  | none => return 0
  | some entry =>
    if entry.readOnly then
      return ← Usage.failing (name ++ utf8 ": cannot unset: readonly variable")
    match subscript? with
    | some [64] | some [42] | none =>
      if entry.isFixed then Variables.takeEffect name []
      modify fun state => { state with
        bindings :=
          if entry.isFixed then
            Variables.put state.bindings name { value? := none, isFixed := true }
          else Variables.erase state.bindings name }
    | some subscript =>
      let key ← Assigning.keyOf name entry subscript
      modify fun state => { state with
        bindings := Variables.put state.bindings name (Lists.remove entry key) }
    return 0

/-- Runs `unset`. -/
def unset (arguments : List Bytes) : Action Nat := do
  let read ← Usage.flags "fvn" arguments
  let mut status := 0
  for word in read.rest do
    let (name, subscript?) := Lists.split word
    let dropFunction : Action Nat := do
      if (← get).functions.any fun function => function.name = word && function.readOnly then
        return ← Usage.failing (word ++ utf8 ": cannot unset: readonly function")
      modify fun state => { state with functions := state.functions.filter (·.name ≠ word) }
      return 0
    if read.has 'f' then status := max status (← dropFunction)
    else if !Parser.isName name then
      if read.has 'v' then
        warn (utf8 "\x60" ++ word ++ utf8 "': not a valid identifier")
        status := 1
      else status := max status (← dropFunction)
    else if !read.has 'v' && (Lists.find? (← get) name).isNone then
      status := max status (← dropFunction)
    else status := max status (← forget name subscript?)
  return status

/-- Runs `let`: evaluates its arguments, of which the last one decides the status. -/
def evaluateAll (arguments : List Bytes) : Action Nat := do
  if arguments.isEmpty then return ← Usage.failing (utf8 "expression expected")
  try
    let mut last : Int := 0
    for text in arguments do
      last ← if text.all Number.isSpace then pure 0 else Expansion.evaluate text
    return if last = 0 then 1 else 0
  catch
    | .failed => return 1
    | escape => throw escape

end Declarations

end CleanLaunch.Shell
