import CleanLaunch.Shell.CommandLine
import CleanLaunch.Shell.Expansion

/-! Assignments of the extended language.

    The words of an assignment are expanded first, which gives a `Given`; performing that changes the
    variable. A variable may treat what it is given: it may evaluate it, or change its case. -/

namespace CleanLaunch.Shell

namespace Assigning

open Shell.Action
open CommandLine (Assignment)

/-- An element that is given to a list. -/
structure Element where
  subscript? : Option Bytes := none
  appends : Bool := false
  value : Bytes

/-- What a variable is given. -/
inductive Content
  | text (value : Bytes)
  | elements (elements : List Element)

/-- An assignment whose words have been expanded. -/
structure Given where
  name : Bytes
  subscript? : Option Bytes := none
  appends : Bool := false
  content : Content

/-- The elements that a word of a list stands for. -/
def elementsOf (substitute : Expansion.Substitute) (word : Word) : Action (List Element) := do
  let plain : Action (List Element) :=
    return (← Expansion.fields substitute word).map fun value => { value }
  match word with
  | .bare 91 :: rest =>
    match Assignment.subscriptFrom 0 [] rest with
    | some (subscript, rest) =>
      match Assignment.signed? .extended rest with
      | some (appends, value) =>
        return [{
          subscript? := some (← Expansion.text substitute .single subscript)
          appends, value := ← Expansion.assignedText substitute value }]
      | none => plain
    | none => plain
  | _ => plain

/-- Expands the words of an assignment. -/
def expand (substitute : Expansion.Substitute) (assignment : Assignment) : Action Given := do
  let subscript? ← assignment.subscript?.mapM (Expansion.text substitute .single)
  let content ← match assignment.value with
    | [.list elements] =>
      Content.elements <$> (·.flatten) <$> elements.mapM (elementsOf substitute)
    | value => Content.text <$> Expansion.assignedText substitute value
  return { name := assignment.name, subscript?, appends := assignment.appends, content }

namespace Given

/-- What stands before the value of an assignment. -/
def head (given : Given) : Bytes :=
  let subscript := match given.subscript? with
    | some subscript => 91 :: subscript ++ [93]
    | none => []
  given.name ++ subscript ++ utf8 (if given.appends then "+=" else "=")

/-- Elements in parentheses, each quoted in some way. -/
def listText (quote : Bytes → Bytes) (elements : List Element) : Bytes :=
  let one (element : Element) : Bytes :=
    (match element.subscript? with
      | some subscript => 91 :: subscript ++ utf8 "]="
      | none => []) ++ quote element.value
  40 :: Bytes.joinWith [32] (elements.map one) ++ [41]

/-- An assignment as it is shown. -/
def shown (wide : Bool) (given : Given) : Bytes :=
  given.head ++ match given.content with
    | .text value => if value.isEmpty then [] else Quoting.word wide value
    | .elements elements => listText (Quoting.word wide) elements

/-- An assignment as a text without quotations. -/
def text (given : Given) : Bytes :=
  given.head ++ match given.content with
    | .text value => value
    | .elements elements => listText (Quoting.word false) elements

/-- An assignment as an argument that is shown. A list is shown by its name alone. -/
def shownArgument (wide : Bool) (given : Given) : Bytes :=
  match given.content with
  | .text _ => Quoting.word wide given.text
  | .elements _ => given.name

end Given

/-- A value as a variable treats it, put behind an old one if there is one. -/
def treated (treatment : Treatment) (old? : Option Bytes) (value : Bytes) : Action Bytes := do
  let number (text : Bytes) : Action Int := do
    if text.all Number.isSpace then return 0 else Expansion.evaluate text
  let comparing : Alteration.Comparing := { wide := (← get).hasWideTexts }
  match treatment with
  | .nothing => return old?.getD [] ++ value
  | .lowered => return old?.getD [] ++ Alteration.recase comparing .lower true [] value
  | .raised => return old?.getD [] ++ Alteration.recase comparing .upper true [] value
  | .evaluated =>
    let old ← match old? with
      | some text => number text
      | none => pure 0
    return Number.text (old + (← number value))

/-- The key that a subscript stands for in a variable. -/
def keyOf (name : Bytes) (entry : Variable) (subscript : Bytes) : Action Bytes := do
  let subscript ←
    if Lists.isNamed entry then pure subscript
    else Number.text <$> (if subscript.all Number.isSpace then pure 0 else Expansion.evaluate subscript)
  match Lists.key? entry subscript with
  | some key => return key
  | none => fail (Lists.reference name subscript ++ utf8 ": bad array subscript")

/-- Puts elements into a list. What has no subscript goes behind the element before it; under names, it is
    a name and a value in turn. -/
def putAll (name : Bytes) : (next : Nat) → (entry : Variable) → List Element → Action Variable
  | _, entry, [] => return entry
  | next, entry, element :: rest => do
    match element.subscript? with
    | some subscript =>
      let key ← keyOf name entry subscript
      let old? := if element.appends then Lists.element? entry key else none
      let value ← treated entry.treatment old? element.value
      putAll name ((Number.digits 10 key).1 + 1) (Lists.put entry key value) rest
    | none =>
      if Lists.isNamed entry then
        match rest with
        | value :: rest =>
          let value ← treated entry.treatment none value.value
          putAll name next (Lists.put entry element.value value) rest
        | [] => return Lists.put entry element.value []
      else
        let value ← treated entry.treatment none element.value
        putAll name (next + 1) (Lists.put entry (Bytes.decimal next) value) rest

/-- A variable with what it is given. -/
def applied (entry : Variable) (given : Given) : Action Variable := do
  match given.content, given.subscript? with
  | .text value, none =>
    let old? := if given.appends then Lists.element? entry [48] else none
    let value ← treated entry.treatment old? value
    return if Lists.isList entry then Lists.put entry [48] value else { entry with value? := some value }
  | .text value, some subscript =>
    let key ← keyOf given.name entry subscript
    let old? := if given.appends then Lists.element? entry key else none
    return Lists.put entry key (← treated entry.treatment old? value)
  | .elements elements, _ =>
    let start := if given.appends then (if Lists.isList entry then entry else
        (entry.value?.map (Lists.put { entry with value? := none } [48])).getD (Lists.emptied entry))
      else Lists.emptied entry
    putAll given.name (Lists.nextNumber start) start elements

/-- Performs an assignment. `mark` is what else becomes of the variable. -/
def perform (given : Given) (mark : Variable → Variable) : Action Unit := do
  Variables.requireName given.name
  let entry ← Lists.variableOf given.name
  if entry.readOnly then failWith (.readOnly given.name)
  Lists.store given.name (mark (← applied (mark entry) given))

/-- Remembers a variable as it is, so that it is restored when a function or command ends. -/
def keep (name : Bytes) : Action Unit :=
  modify fun state =>
    let entry : Local := match state.bindings.lookup name with
      | some before => .saved name before
      | none => .fresh name
    { state with
      locals := match state.locals with
        | [] => []
        | own :: others => (entry :: own) :: others }

/-- Is a variable remembered for the innermost function or command? -/
def isKept (state : State) (name : Bytes) : Bool :=
  (state.locals.headD []).any fun entry => match entry with
    | .fresh other | .saved other _ => other = name
    | .options _ => false

end Assigning

end CleanLaunch.Shell
