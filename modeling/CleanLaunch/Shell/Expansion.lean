import CleanLaunch.Files.System
import CleanLaunch.Shell.Arithmetic
import CleanLaunch.Shell.CommandLine
import CleanLaunch.Shell.Extended.Alteration
import CleanLaunch.Shell.Extended.Braces
import CleanLaunch.Shell.Extended.Calculation
import CleanLaunch.Shell.Extended.Lists
import CleanLaunch.Shell.Extended.Pathnames
import CleanLaunch.Shell.Extended.Prompt
import CleanLaunch.Shell.Splitting

/-! Expanding words.

    A word becomes marks, which are then cut into fields and matched against the files, or taken as text
    or as a pattern. How a word is expanded depends on where it stands: that is its `Style`. Command
    substitutions are run by a given computation. -/

namespace CleanLaunch.Shell

open Files (Place)

/-- Where a word stands. -/
structure Style where
  /-- Will it be cut into fields? -/
  splits : Bool := false
  /-- Does it stand in quotes? -/
  quoted : Bool := false
  /-- Is it a word inside a parameter, where unquoted text may be divided like a value? -/
  inner : Bool := false
  /-- Does a `~` at its head stand for a home directory? -/
  tildeFirst : Bool := true
  /-- Does a `~` also do so behind the equals sign and behind colons? -/
  tildeInside : Bool := false

namespace Style

/-- A word of a command. -/
def field : Style := { splits := true }

/-- A text that is not cut. -/
def single : Style := {}

/-- An assignment. -/
def assignment : Style := { tildeFirst := false, tildeInside := true }

/-- A text in which nothing but expansions is special. -/
def here : Style := { quoted := true, tildeFirst := false }

end Style

namespace Expansion

open Shell.Action

/-- How commands inside of words are run. -/
structure Substitute where
  /-- The output of commands. -/
  output : Option Command → Action Bytes
  /-- The path of a file that leads to commands, which `reads` tells from one that leads away. -/
  process : (reads : Bool) → Option Command → Action Bytes

/-- The separators of fields, if they are set. -/
def separators? : Action (Option Bytes) := valueOf? (utf8 "IFS")

def separators : Action Bytes := return (← separators?).getD [32, 9, 10]

/-- Is a byte escaped in quotes, so that it stands for itself in a pattern? -/
def isEscapedInQuotes (byte : UInt8) : Bool := Parser.isPatternByte byte || byte == 92

/-- The marks of an expanded value. -/
def valueMarks (quoted : Bool) (value : Bytes) : List Mark :=
  value.map fun byte => .byte byte (quoted && isEscapedInQuotes byte)

/-- Marks that separators may divide. -/
def asRegion (atNuls : Bool) (marks : List Mark) : List Mark :=
  .begins atNuls :: marks ++ [.ends]

/-- The same unless the marks are in quotes. -/
def unlessQuoted (quoted : Bool) (marks : List Mark) : List Mark :=
  if quoted then marks else asRegion false marks

/-- Several values as one text. In quotes, or where fields do not matter, they are joined by the first
    separator; in the extended language, those that stand for themselves by a blank there. -/
def joined (style : Style) (isEach : Bool) (values : List Bytes) : Action Bytes := do
  let separators ← separators?
  let first := (separators.getD [32]).take 1
  let isExtended := (← get).dialect = .extended
  let separator :=
    if style.splits && isEach && style.quoted then [0]
    else if style.splits && !style.quoted then (if separators.isSome then [0] else [32])
    else if isEach && isExtended then [32]
    else first
  return Bytes.joinWith separator values

/-- The value of a parameter: a variable, a positional parameter, or a special one. -/
def parameter? (style : Style) (name : Bytes) : Action (Option Bytes) := do
  let state ← get
  match name with
  | [63] => return some (Bytes.decimal state.status)
  | [36] => return some (Bytes.decimal state.shellPid)
  | [35] => return some (Bytes.decimal state.positional.length)
  | [45] =>
    let isExtended := state.dialect = .extended
    return some (state.options.letters state.dialect ++
      (if isExtended && state.extras.commandLine.isSome then utf8 "c" else []) ++
      (if isExtended && state.options.isOn .fromInput then utf8 "s" else []))
  | [33] => return state.lastBackground.map Bytes.decimal
  | [64] => return some (← joined style true state.positional)
  | [42] => return some (← joined style false state.positional)
  | _ =>
    if name.all Bytes.isDigit && !name.isEmpty then
      let n := name.foldl (fun n byte => n * 10 + Bytes.digitValue byte) 0
      if n = 0 then return some state.name else return state.positional[n - 1]?
    else return Lists.valueOf? state name

/-- The home directory that a `~` with a name stands for. The extended language knows one without the
    variable that names it, and signs for the directories before and now. -/
def homeOf? (name : Bytes) : Action (Option Bytes) := do
  match (← get).dialect, name with
  | .standard, [] => valueOf? (utf8 "HOME")
  | .extended, [] =>
    return (← valueOf? (utf8 "HOME")).or (Files.Account.home? (utf8 "root"))
  | .extended, [43] => valueOf? (utf8 "PWD")
  | .extended, [45] => valueOf? (utf8 "OLDPWD")
  | _, _ => return Files.Account.home? name

/-- The bytes behind a `~` up to where its name ends, and whether they may be a name at all. -/
def tildeName (tildeInside : Bool) : Word → Bytes × Bool
  | [] => ([], true)
  | .bare byte :: rest =>
    if byte == 47 || (tildeInside && byte == 58) then ([], true)
    else
      let (name, isName) := tildeName tildeInside rest
      (byte :: name, isName)
  | _ => ([], false)

/-- A run of plain bytes at the head of a word, with whether a `~` may follow it because an equals sign
    or a colon ends it. -/
def plainRun (untilEquals untilColon : Bool) : Word → Bytes × Bool
  | .bare byte :: rest =>
    if (untilEquals && byte == 61) || (untilColon && byte == 58) then ([byte], true)
    else
      let (run, ends) := plainRun untilEquals untilColon rest
      (byte :: run, ends)
  | _ => ([], false)

/-- Does a value count as set? -/
def isUsable (colon : Bool) : Option Bytes → Bool
  | none => false
  | some text => !(colon && text.isEmpty)

/-- A value with parts of it removed. -/
def trimmed (dialect : Dialect) (wide : Bool) (trim : Trim) (pattern value : Bytes) : Bytes :=
  let (startLength?, endStart?) := match dialect with
    | .standard => (Pattern.startLength?, Pattern.endStart?)
    | .extended => (Globs.startLength? wide, Globs.endStart? wide)
  if trim.fromStart then
    match startLength? trim.longest pattern value with
    | some n => value.drop n
    | none => value
  else
    match endStart? trim.longest pattern value with
    | some n => value.take n
    | none => value

/-- Evaluates an arithmetic expression and performs its assignments. -/
def evaluate (expression : Bytes) : Action Int := do
  let state ← get
  match state.dialect with
  | .standard =>
    let lookup (name : Bytes) : Option Bytes := (state.bindings.lookup name).bind (·.value?)
    let (value, assigned) := Arithmetic.evaluate lookup expression
    for (name, value) in assigned do Variables.assign name (Number.text value)
    match value with
    | .error .overflow => leave (.killed 8)
    | .error fault => Action.fail (fault.message expression)
    | .ok value => return value
  | .extended =>
    let values : Calculation.Values := {
      value? := Lists.valueOf? state
      isNamed := fun name => (state.bindings.lookup name).any Lists.isNamed
      refusesUnset := state.options.isOn .refuseUnset
      drawsFor? := if state.extras.dropped.contains (utf8 "RANDOM") then none else some (utf8 "RANDOM") }
    let (value, progress) := Calculation.evaluate values state.extras.random expression
    modify fun state => { state with extras := { state.extras with random := progress.random } }
    for (reference, value) in progress.assigned.reverse do
      Lists.assign reference (Number.text value.toInt)
    match value with
    | .error fault =>
      match fault.unset? with
      | some name => failWith (.unset name)
      | none => Action.fail fault.message
    | .ok value => return value

/-- What kind of values a parameter stands for. -/
inductive Kind
  /-- One value, or none. -/
  | single
  /-- One text that is divided at its NULs where fields matter. -/
  | divided
  /-- Elements of a list, each for itself. -/
  | each
  /-- Elements of a list, joined. -/
  | together
  deriving DecidableEq

/-- Is an additional switch of the extended language on? -/
def isOn (state : State) (name : String) : Bool :=
  state.dialect = .extended && state.extras.switches.contains (utf8 name)

/-- The pattern that marks stand for. Groups in it have to be asked for. -/
def patternOf (marks : List Mark) : Action Bytes := do
  let pattern := Mark.pattern marks
  let state ← get
  return if state.dialect = .extended && !isOn state "extglob" then Globs.withoutGroups pattern
    else pattern

/-- How texts are compared with patterns. -/
def comparing : Action Alteration.Comparing := do
  let state ← get
  return { ignoresCase := isOn state "nocasematch", wide := state.hasWideTexts }

/-- Does a pattern match a text? -/
def isMatch (pattern text : Bytes) : Action Bool := do
  match (← get).dialect with
  | .standard => return Pattern.isMatch pattern text
  | .extended => return (← comparing).isMatch pattern text

/-- A parameter with what it stands for. -/
structure Held where
  /-- How messages name it. -/
  name : Bytes
  /-- The text that stands for it where it is given a value. -/
  reference : Bytes
  kind : Kind := .single
  values : List Bytes

namespace Held

def isList (held : Held) : Bool := held.kind = .each || held.kind = .together

/-- The value, if there is one; that of a list is all of its elements. -/
def value? (style : Style) (held : Held) : Action (Option Bytes) := do
  if !held.isList then return held.values.head?
  else if held.values.isEmpty then return none
  else return some (← joined style (held.kind = .each) held.values)

/-- The marks of a value of this kind. -/
def wrap (style : Style) (held : Held) (value : Bytes) : List Mark :=
  let marks := valueMarks style.quoted value
  if !style.quoted then asRegion false marks
  else if held.kind = .divided || held.kind = .each then asRegion true marks
  else marks

/-- Are the values fields of their own, because separators that stand for nothing else are between them? -/
def isDivided (style : Style) (held : Held) : Action Bool := do
  let first := (← separators).head?
  return held.isList && style.splits && !style.quoted && first.any (!Splitting.isBlank ·)

/-- The marks of the value, if there is one. -/
def marks (style : Style) (held : Held) : Action (List Mark) := do
  if ← held.isDivided style then
    let all := held.values.map fun value => asRegion false (valueMarks false value)
    return (all.intersperse [.divides]).flatten
  match ← held.value? style with
  | some value => return held.wrap style value
  | none => return []

/-- The same for other values. -/
def map (change : Bytes → Bytes) (held : Held) : Held := { held with values := held.values.map change }

/-- Requires a value where only set parameters may be used. -/
def require (held : Held) : Action Unit := do
  if held.values.isEmpty && !held.isList && (← get).options.isOn .refuseUnset then
    failWith (.unset held.name)

/-- Gives the parameter a value. -/
def assign (held : Held) (value : Bytes) : Action Unit := do
  match (← get).dialect with
  | .standard => Variables.assign held.reference value
  | .extended =>
    if held.isList || !Parser.isName (held.reference.takeWhile (· != 91)) then
      failSoftly (36 :: held.name ++ utf8 ": cannot assign in this way")
    else Lists.assign held.reference value

end Held

/-- What a parameter without a subscript stands for. -/
def hold (style : Style) (name : Bytes) : Action Held := do
  Lists.drawFor name
  let state ← get
  match state.dialect, name with
  | .extended, [64] => return ⟨name, name, .each, state.positional⟩
  | .extended, [42] => return ⟨name, name, .together, state.positional⟩
  | _, _ =>
    let isDivided := name = [64] && !state.positional.isEmpty
    let value? ← parameter? style name
    return ⟨name, name, if isDivided then .divided else .single, value?.toList⟩

/-- The elements of a variable. -/
def holdAll (kind : Kind) (name : Bytes) : Action Held := do
  let found? := Lists.find? (← get) name
  let values := (found?.map fun entry => (Lists.elements entry).map (·.2)).getD []
  return ⟨Lists.reference name (if kind = .each then [64] else [42]), name, kind, values⟩

/-- The element of a variable under the text of a subscript. -/
def holdElement (name subscript : Bytes) : Action Held := do
  let entry := (Lists.find? (← get) name).getD { value? := none }
  let shown := Lists.reference name subscript
  match Lists.key? entry subscript with
  | none =>
    complainOf (name ++ utf8 ": bad array subscript")
    return ⟨shown, shown, .single, []⟩
  | some key =>
    return ⟨shown, Lists.reference name key, .single, (Lists.element? entry key).toList⟩
where
  complainOf (text : Bytes) : Action Unit := warn text

/-- Does a part stand for elements of which each is a field of its own, even in quotes? -/
def isEach : Part → Bool
  | .parameter [64] .value [] => true
  | .rich _ [64] .whole _ => true
  | .rich _ _ .each (.use .length _) => false
  | .rich _ _ .each _ => true
  | _ => false

/-- May a part stand for no field at all, even in quotes? -/
def mayVanish : Part → Bool
  | .parameter [64] (.alternative _) _ => true
  | part => isEach part

/-- The parts of a word up to the end of a quotation, and those behind it, if it has an end. -/
def quotation (word : Word) : Word × Option Word :=
  let isInside : Part → Bool
    | .quote => false
    | _ => true
  let content := word.takeWhile isInside
  (content, match word.drop content.length with
    | _ :: rest => some rest
    | [] => none)

/-- The pieces of a replacement: an ampersand outside of quotations stands for what was matched, if it
    `refers` to that at all. -/
def pieces (refers : Bool) : (inQuotes : Bool) → List Mark → List Alteration.Piece
  | _, [] => []
  | inQuotes, .quote :: rest => pieces refers (!inQuotes) rest
  | inQuotes, .byte value isEscaped :: rest =>
    let piece : Alteration.Piece :=
      if refers && value == 38 && !isEscaped && !inQuotes then .matched else .text [value]
    piece :: pieces refers inQuotes rest
  | inQuotes, _ :: rest => pieces refers inQuotes rest

/-- The letters for what a variable is marked as. -/
def attributes (entry : Variable) : Bytes :=
  let letter (condition : Bool) (letter : String) : Bytes := if condition then utf8 letter else []
  let isNumbered := Lists.isList entry && !Lists.isNamed entry
  letter isNumbered "a" ++ letter (Lists.isNamed entry) "A" ++
    letter (entry.treatment = .evaluated) "i" ++ letter (entry.treatment = .lowered) "l" ++
    letter entry.readOnly "r" ++ letter (entry.treatment = .raised) "u" ++ letter entry.exported "x"

/-- A variable as a command that declares it. -/
def declarationText (wide : Bool) (name : Bytes) (entry : Variable) : Bytes :=
  let flags := attributes entry
  let element (key value : Bytes) : Bytes :=
    91 :: Quoting.elementName wide key ++ utf8 "]=" ++ Quoting.declared wide value
  let elements := (Lists.elements entry).map fun (key, value) => element key value
  let value : Bytes :=
    if Lists.isNamed entry then
      utf8 "=(" ++ elements.flatMap (· ++ [32]) ++ utf8 ")"
    else if Lists.isList entry then utf8 "=(" ++ Bytes.joinWith [32] elements ++ utf8 ")"
    else match entry.value? with
      | some value => 61 :: Quoting.declared wide value
      | none => []
  utf8 "declare -" ++ (if flags.isEmpty then utf8 "-" else flags) ++ 32 :: name ++ value

/-- A variable as an assignment of a value, or a command that declares it if it is marked. -/
def assignmentText (wide : Bool) (name : Bytes) (entry : Variable) (value? : Option Bytes) : Bytes :=
  let flags := attributes entry
  let front := if flags.isEmpty then name else utf8 "declare -" ++ flags ++ 32 :: name
  match value? with
  | some value => front ++ 61 :: Quoting.reusable wide value
  | none => if flags.isEmpty then [] else front

/-- The names or numbers of the elements of a variable with their values, as a list could be given them. -/
def pairsText (wide : Bool) (entry : Variable) : Bytes :=
  let pairs := (Lists.elements entry).map fun (key, value) =>
    Quoting.elementName wide key ++ 32 :: Quoting.declared wide value
  if Lists.isNamed entry then pairs.flatMap (· ++ [32]) else Bytes.joinWith [32] pairs

mutual

/-- Expands a word to marks. `tilde` says that a `~` may stand here, `inQuotes` that a quotation is
    open, `seenEquals` that the equals sign of an assignment has been passed. -/
def marks (substitute : Substitute) (style : Style) :
    (bound : Nat) → (tilde inQuotes seenEquals : Bool) → Word → Action (List Mark)
  | 0, _, _, _, _ => leave .abandoned
  | _, _, _, _, [] => return []
  | bound + 1, tilde, inQuotes, seenEquals, part :: rest => do
    let goOn (first : List Mark) (rest : Word) : Action (List Mark) :=
      return first ++ (← marks substitute style bound false inQuotes seenEquals rest)
    match part with
    | .bare byte =>
      let isExtended := (← get).dialect = .extended
      let (name, isName) := tildeName (style.tildeInside || isExtended) rest
      let home? ← if tilde && byte == 126 && isName then homeOf? name else pure none
      match home? with
      | some home =>
        let marks := valueMarks true home
        goOn (if isExtended then .quote :: marks ++ [.quote] else marks) (rest.drop name.length)
      | none =>
        let (run, ends) :=
          plainRun (style.tildeInside && !seenEquals) style.tildeInside (part :: rest)
        let run := if run.isEmpty then [byte] else run
        let divides := style.inner && !style.quoted && !inQuotes
        let first := if divides then asRegion false (Mark.plain run) else Mark.plain run
        let rest := (part :: rest).drop run.length
        let seenEquals := seenEquals || (style.tildeInside && run.getLast? == some 61)
        return first ++ (← marks substitute style bound ends inQuotes seenEquals rest)
    | .literal byte => goOn [.byte byte true] rest
    | .quote =>
      let (content, after) := quotation rest
      let inside : Action (List Mark) := marks substitute style bound false true seenEquals content
      match inQuotes, content, after with
      | false, [part], some after =>
        if isEach part then goOn (← inside) after
        else return .quote :: (← inside) ++ .quote ::
          (← marks substitute style bound false false seenEquals after)
      | false, _, some after =>
        let inner ← inside
        let rest ← marks substitute style bound false false seenEquals after
        let vanishes := (← get).dialect = .extended && content.any mayVanish
        return if vanishes && inner.isEmpty then rest else .quote :: inner ++ .quote :: rest
      | _, _, _ =>
        return .quote :: (← marks substitute style bound false (!inQuotes) seenEquals rest)
    | .parameter name how word =>
      let style := { style with quoted := style.quoted || inQuotes }
      let held ← if how = .malformed then pure ⟨name, name, .single, []⟩ else hold style name
      let isShort := (← get).dialect = .extended && how = .value && !Parser.isName name
      let held := if isShort then { held with name := 36 :: name } else held
      goOn (← use substitute style bound held how word) rest
    | .output body =>
      let quoted := style.quoted || inQuotes
      let output ← substitute.output body
      let output := (output.reverse.dropWhile (· == 10)).reverse
      goOn (unlessQuoted quoted (valueMarks quoted output)) rest
    | .arithmetic expression =>
      let quoted := style.quoted || inQuotes
      let text := Mark.text (← marks substitute { tildeFirst := false } bound false false false
        expression)
      goOn (unlessQuoted quoted (valueMarks quoted (Number.text (← evaluate text)))) rest
    | .rich indirect name subscript change =>
      let style := { style with quoted := style.quoted || inQuotes }
      goOn (← altered substitute style bound indirect name subscript change) rest
    | .list elements =>
      let texts ← elements.mapM fun word =>
        return Mark.text (← marks substitute .single bound true false false word)
      goOn (Mark.plain (40 :: Bytes.joinWith [32] texts ++ [41])) rest
    | .process reads body => goOn (valueMarks true (← substitute.process reads body)) rest

/-- What a use makes of a parameter. -/
def use (substitute : Substitute) (style : Style) :
    (bound : Nat) → Held → Use → Word → Action (List Mark)
  | 0, _, _, _ => leave .abandoned
  | bound + 1, held, use, word => do
    let value? ← held.value? style
    let wrap (value : Bytes) : Action (List Mark) := do
      if held.isList then held.marks style else return held.wrap style value
    let requireSet : Action Bytes := do
      held.require
      return value?.getD []
    let inner : Action (List Mark) :=
      marks substitute { style with inner := true, tildeFirst := true } bound true false false word
    match use with
    | .malformed => failWith (.badSubstitution held.name)
    | .value =>
      let value ← requireSet
      wrap value
    | .length =>
      let wide := (← get).hasWideTexts
      let length ← if held.isList then pure held.values.length else (Character.count wide ·) <$> requireSet
      return Held.wrap style { held with kind := .single } (Bytes.decimal length)
    | .default colon =>
      if isUsable colon value? then wrap (value?.getD []) else inner
    | .alternative colon => if isUsable colon value? then inner else return []
    | .assign colon =>
      if isUsable colon value? then wrap (value?.getD [])
      else
        let text := Mark.text (← marks substitute .single bound true false false word)
        held.assign text
        wrap ((← parameter? style held.name).getD text)
    | .require colon =>
      if isUsable colon value? then wrap (value?.getD [])
      else
        let text := Mark.text (← marks substitute .single bound true false false word)
        failWith (.required held.name colon (if word.isEmpty then none else some text))
    | .trim trim =>
      held.require
      if value?.isNone then return []
      let pattern ← patternOf (← marks substitute .single bound true false false word)
      (held.map (trimmed (← get).dialect (← get).hasWideTexts trim pattern)).marks style

/-- What the extended language makes of a parameter, or of the one that its value names. -/
def altered (substitute : Substitute) (style : Style) :
    (bound : Nat) → (indirect : Bool) → Bytes → Subscript → Change → Action (List Mark)
  | 0, _, _, _, _ => leave .abandoned
  | bound + 1, indirect, name, subscript, change => do
    let text (word : Word) : Action Bytes :=
      return Mark.text (← marks substitute .single bound true false false word)
    let number (word : Word) : Action Int := do
      let text := Mark.text (← marks substitute { tildeFirst := false } bound false false false word)
      if text.all Number.isSpace then return 0 else evaluate text
    let isNamed (name : Bytes) : Action Bool :=
      return ((← get).bindings.lookup name).any Lists.isNamed
    let held : Action Held := do
      match subscript with
      | .whole => hold style name
      | .each => holdAll .each name
      | .joined => holdAll .together name
      | .element index =>
        if ← isNamed name then holdElement name (← text index)
        else holdElement name (Number.text (← number index))
    let followed (held : Held) : Action Held := do
      match ← held.value? .single with
      | none => failSoftly (held.name ++ utf8 ": invalid indirect expansion")
      | some reference =>
        match Lists.split reference with
        | (name, some [64]) => holdAll .each name
        | (name, some [42]) => holdAll .together name
        | (name, some subscript) =>
          if ← isNamed name then holdElement name subscript
          else holdElement name (Number.text (← evaluate subscript))
        | (name, none) =>
          let isSpecial := name.length = 1 && name.all Parser.isSpecial
          if Parser.isName name || isSpecial || (!name.isEmpty && name.all Bytes.isDigit) then
            hold style name
          else failSoftly (name ++ utf8 ": invalid variable name")
    let kind : Kind := match subscript with
      | .joined => .together
      | _ => .each
    match change with
    | .keys =>
      let found? := Lists.find? (← get) name
      let keys := (found?.map fun entry => (Lists.elements entry).map (·.1)).getD []
      Held.marks style { name, reference := name, kind, values := keys }
    | .names =>
      let names := ((← get).bindings.map (·.1)).filter name.isPrefixOf
      let names := names.mergeSort fun a b => !decide (b < a)
      Held.marks style { name, reference := name, kind, values := names }
    | _ =>
      let held ← held
      let held ← if indirect then followed held else pure held
      match change with
      | .use how word => use substitute style bound held how word
      | .slice start length =>
        held.require
        let first ← number start
        let length? ← match length with
          | some word => some <$> number word
          | none => pure none
        let state ← get
        let refuse : Action (List Mark) := do
          failSoftly (Number.text (length?.getD 0) ++ utf8 ": substring expression < 0")
        if !held.isList then
          let part? (value : Bytes) : Option Bytes :=
            (Alteration.slice? first length? (Character.pieces state.hasWideTexts value)).map (·.flatten)
          match held.values.mapM part? with
          | some values => Held.marks style { held with values }
          | none => refuse
        else if length?.any (· < 0) then refuse
        else if held.reference = [64] || held.reference = [42] then
          let all := state.name :: held.values
          Held.marks style { held with values := (Alteration.slice? first length? all).getD [] }
        else
          let entry := (Lists.find? state held.reference).getD { value? := none }
          let isFrom (key : Bytes) : Bool :=
            (Lists.index? entry first).any (· ≤ (Number.digits 10 key).1)
          let values := ((Lists.elements entry).filter (isFrom ·.1)).map (·.2)
          Held.marks style { held with values := (Alteration.slice? 0 length? values).getD [] }
      | .replace anchor pattern replacement =>
        held.require
        let pattern ← patternOf (← marks substitute .single bound true false false pattern)
        let refers := isOn (← get) "patsub_replacement"
        let pieces := pieces refers false (← marks substitute .single bound true false false replacement)
        (held.map (Alteration.replace (← comparing) anchor pattern pieces)).marks style
      | .recase letterCase every pattern =>
        held.require
        let pattern ← patternOf (← marks substitute .single bound true false false pattern)
        (held.map (Alteration.recase (← comparing) letterCase every pattern)).marks style
      | .transform operator =>
        held.require
        let state ← get
        let wide := state.hasWideTexts
        let found? := Lists.find? state name
        let one (value : Bytes) : Action (List Mark) :=
          Held.marks style { held with kind := .single, values := [value] }
        match Char.ofNat operator.toNat, found? with
        | 'A', some entry =>
          if held.isList && Lists.isList entry then one (declarationText wide name entry)
          else one (assignmentText wide name entry held.values.head?)
        | 'A', none =>
          if (name = [64] || name = [42]) && !held.values.isEmpty then
            one (utf8 "set --" ++ held.values.flatMap fun value => 32 :: Quoting.reusable wide value)
          else return []
        | 'a', some entry => (held.map fun _ => attributes entry).marks style
        | 'a', none => return []
        | 'P', _ =>
          let values ← held.values.mapM fun value => do
            let text ← Prompt.decoded value
            if !isOn state "promptvars" && !state.options.isOn .strict then return text
            match CommandLine.quotedText? { rest := text, dialect := .extended, nextText := state.hereTexts.length } with
            | .error _ => return text
            | .ok (word, _) => return Mark.text (← marks substitute .here bound false false false word)
          Held.marks style { held with values }
        | 'K', some entry =>
          if held.isList then one (pairsText wide entry)
          else (held.map (Quoting.reusable wide)).marks style
        | 'k', some entry =>
          if held.isList then
            let values := (Lists.elements entry).flatMap fun (key, value) => [key, value]
            Held.marks style { held with values }
          else (held.map (Quoting.reusable wide)).marks style
        | _, _ =>
          match held.values.mapM (Alteration.transform? (← comparing) operator) with
          | some values => Held.marks style { held with values }
          | none => failWith (.badSubstitution (utf8 "$\x7b" ++ name ++ 64 :: operator :: utf8 "\x7d"))
      | _ => return []

end

/-- Deeper nesting and longer words than any command line has. -/
def maxDepth : Nat := 100000000

/-- Expands a word in a style. -/
def expand (substitute : Substitute) (style : Style) (word : Word) : Action (List Mark) :=
  marks substitute style maxDepth style.tildeFirst false false word

/-- Expands a word to its text, without cutting it. -/
def text (substitute : Substitute) (style : Style) (word : Word) : Action Bytes :=
  return Mark.text (← expand substitute style word)

/-- Expands the value of an assignment. -/
def assignedText (substitute : Substitute) (word : Word) : Action Bytes :=
  return Mark.text (← marks substitute .assignment maxDepth true false true word)

/-- Expands a word to a pattern. -/
def pattern (substitute : Substitute) (word : Word) : Action Bytes := do
  patternOf (← expand substitute .single word)

/-- The paths that match a pattern, in no particular order. `before` is the path up to here. -/
def matching (state : State) : (bound : Nat) → (before pattern : Bytes) → List Bytes
  | 0, _, _ => []
  | bound + 1, before, pattern =>
    match Pattern.firstPart (pattern.length + 1) [] [] false pattern with
    | (path, name, false, _) =>
      let whole := before ++ Pattern.unescaped (path ++ name)
      match if before.isEmpty then .error .ENOENT
        else state.tree.resolve state.directory false whole with
      | .ok ⟨_, some _⟩ => [whole]
      | _ => []
    | (path, name, true, rest?) =>
      let here := before ++ Pattern.unescaped path
      match state.tree.resolve state.directory true (if here.isEmpty then utf8 "." else here) with
      | .ok ⟨place, some (.directory _)⟩ =>
        let first := if name.head? == some 92 then name[1]? else name.head?
        let names := (utf8 "." :: utf8 ".." :: state.entries place).filter fun entry =>
          (entry.head? != some 46 || first == some 46) && Pattern.isMatch name entry
        names.flatMap fun entry =>
          match rest? with
          | none => [here ++ entry]
          | some rest => matching state bound (here ++ entry ++ [Path.slash]) rest
      | _ => []

/-- A field as text, or the paths it matches if it is a pattern of the extended language. Switches say what
    becomes of a pattern that matches none. -/
def extendedPathnames (field : List Mark) : Action (List Bytes) := do
  let state ← get
  let text := Mark.text field
  let pattern ← patternOf field
  if state.options.isOn .noPathnames || !Globs.isPattern false pattern then return [text]
  let ignored := (((← valueOf? (utf8 "GLOBIGNORE")).getD []).splitAt 58).filter (!·.isEmpty)
  let manner : Pathnames.Manner := {
    dots := isOn state "dotglob" || !ignored.isEmpty
    skipsDots := isOn state "globskipdots" || !ignored.isEmpty
    ignoresCase := isOn state "nocaseglob"
    descends := isOn state "globstar"
    wide := state.hasWideTexts }
  let mayOpen := Host.Descriptor.lowestFree state.descriptors 0 < state.limit
  let found := if mayOpen then Pathnames.ofPattern state manner pattern else []
  let found := found.filter fun path => !ignored.any (Globs.isMatch manner.wide · path)
  if !found.isEmpty then return found
  else if isOn state "failglob" then failSoftly (utf8 "no match: " ++ text)
  else return if isOn state "nullglob" then [] else [text]

/-- A field as text, or the files it matches if it is a pattern that matches any. Reading a directory
    takes a descriptor. -/
def pathnames (field : List Mark) : Action (List Bytes) := do
  let state ← get
  if state.dialect = .extended then return ← extendedPathnames field
  let text := Mark.text field
  let mayOpen := Host.Descriptor.lowestFree state.descriptors 0 < state.limit
  if state.options.isOn .noPathnames || !Pattern.hasSpecial text || !mayOpen then return [text]
  else
    let pattern := Mark.pattern field
    let found := (matching state (pattern.length + 1) [] pattern).mergeSort fun a b => !decide (b < a)
    return if found.isEmpty then [text] else found

/-- The words that a word with braces stands for. -/
def alternatives (word : Word) : Action (List Word) := do
  let state ← get
  if state.dialect = .extended && state.options.isOn .braces then return Braces.expand word
  else return [word]

/-- Expands a word to the fields it stands for. -/
def fields (substitute : Substitute) (word : Word) : Action (List Bytes) := do
  let fields ← (← alternatives word).mapM fun word => do
    let marks ← expand substitute .field word
    let divide := match (← get).dialect with
      | .standard => Splitting.splitFields
      | .extended => Splitting.dividedFields
    let fields := divide (← separators) marks
    return (← fields.mapM pathnames).flatten
  return fields.flatten

end Expansion

end CleanLaunch.Shell
