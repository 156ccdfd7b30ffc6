import CleanLaunch.Shell.Extended.Bracketing
import CleanLaunch.Shell.Extended.Escapes
import CleanLaunch.Shell.Extended.Quoting
import CleanLaunch.Shell.Grammar

/-! Reading the words and operators of command lines.

    Words, quotes and substitutions are read byte by byte from a `Source`; what a byte means depends
    on the quotation or expansion it stands in. What cannot be read is a `GrammarError` with its
    line and wording. Commands are made of these tokens elsewhere. -/

namespace CleanLaunch.Shell

/-- What is wrong with a command line. -/
inductive GrammarFault
  /-- A token that may not stand where it stands, with the one that is expected, if only one is. `text` is
      how a word was written. -/
  | unexpected (token : Token) (text : Bytes) (expected : Option Token)
  | openBackquote
  /-- An arithmetic expression without its end. -/
  | openExpression
  | openQuotation (mark : UInt8)
  /-- A parameter without its closing brace. -/
  | openParameter
  /-- Commands or elements in parentheses without their end. -/
  | openParentheses
  | badLoopVariable
  | badFunctionName
  /-- Something that the text before it shows. `said` is what is said of it first, with a line. -/
  | unsuited (said : List (Nat × Bytes)) (isEnd : Bool)
  /-- A loop that counts by another number of expressions than three. -/
  | badCounting (text : Bytes) (isMore : Bool)
  /-- A regular expression with a group that has no end, which began on a line. -/
  | openGroup (start : Nat)
  | tooDeep

namespace GrammarFault

/-- What is said of a fault in the standard language. -/
def text : GrammarFault → Bytes
  | .unexpected token _ expected =>
    token.name ++ utf8 " unexpected" ++ (match expected with
      | some expected => utf8 " (expecting " ++ expected.name ++ utf8 ")"
      | none => [])
  | .openBackquote => utf8 "EOF in backquote substitution"
  | .openExpression => utf8 "Missing '))'"
  | .openQuotation _ => utf8 "Unterminated quoted string"
  | .openParameter => utf8 "Missing '\x7d'"
  | .openParentheses => utf8 "end of file unexpected (expecting \")\")"
  | .badLoopVariable => utf8 "Bad for loop variable"
  | .badFunctionName => utf8 "Bad function name"
  | .unsuited .. | .openGroup _ | .badCounting .. => utf8 "syntax error"
  | .tooDeep => utf8 "nesting too deep"

/-- What is said of a fault in the extended language. -/
def extendedText : GrammarFault → Bytes
  | .unexpected .endOfFile _ _ => utf8 "syntax error: unexpected end of file"
  | .unexpected token text _ =>
    utf8 "syntax error near unexpected token \x60" ++ token.shown text ++ utf8 "'"
  | .openBackquote => unmatched 96
  | .openExpression | .openParentheses => unmatched 41
  | .openQuotation mark => unmatched mark
  | .openParameter => unmatched 125
  | .badLoopVariable | .badFunctionName | .unsuited .. => utf8 "syntax error"
  | .openGroup _ => utf8 "unexpected argument to conditional binary operator"
  | .badCounting _ isMore =>
    utf8 (if isMore then "syntax error: \x60;' unexpected"
      else "syntax error: arithmetic expression required")
  | .tooDeep => utf8 "memory exhausted"
where
  unmatched (mark : UInt8) : Bytes :=
    utf8 "unexpected EOF while looking for matching \x60" ++ [mark] ++ utf8 "'"

/-- Is the line shown where the fault is? -/
def showsLine : GrammarFault → Bool
  | .unexpected .endOfFile _ _ => false
  | .unexpected .. | .badLoopVariable | .badFunctionName => true
  | _ => false

end GrammarFault

/-- A remark on a here-document that the end of the text has cut off. -/
structure Remark where
  /-- Where the text ends, and where the here-document was asked for. -/
  line : Nat
  start : Nat
  delimiter : Bytes

/-- Why a command line cannot be read. -/
structure GrammarError where
  line : Nat
  fault : GrammarFault
  /-- Is it inside a substitution? -/
  isInner : Bool := false
  /-- The text that had not been read. -/
  rest : Bytes := []
  /-- What was remarked of the text before it. -/
  remarks : List Remark := []

/-- An alias whose value is being read. -/
structure AliasFrame where
  name : Bytes
  /-- Bytes of the text behind the value. -/
  remaining : Nat
  endsInBlank : Bool
  /-- Has the value been left? The alias rests until one more byte is read. -/
  isSpent : Bool := false

/-- A here-document whose lines have not been reached. -/
structure PendingText where
  number : Nat
  delimiter : Bytes
  stripTabs : Bool
  isLiteral : Bool
  /-- The line on which it was asked for. -/
  line : Nat := 0

/-- A part of a text that is shown in another way than it was written. -/
structure Splice where
  /-- How much of the source there was left to read where the part begins, and where it ends. -/
  first : Nat
  last : Nat
  shown : Bytes

/-- Where a bracket in a word begins a subscript. -/
inductive SubscriptPlace
  | nowhere
  /-- Behind a name, where a command may begin. -/
  | afterName
  /-- At the head of an element of a list. -/
  | atStart
  deriving DecidableEq

/-- Text that is being read. -/
structure Source where
  rest : Bytes
  dialect : Dialect := .standard
  line : Nat := 1
  aliases : List (Bytes × Bytes) := []
  frames : List AliasFrame := []
  /-- Did an alias end in a blank, so that the next word may be an alias too? -/
  aliasNext : Bool := false
  /-- The last token, and whether it is to be read once more. -/
  token : Token := .endOfFile
  isPushed : Bool := false
  /-- The last word that was read, and how it was written. -/
  word : Word := []
  wordText : Bytes := []
  /-- The same as it is shown again. -/
  wordShown : Bytes := []
  pending : List PendingText := []
  /-- Here-documents that have been read, by their numbers. -/
  texts : List (Nat × HereText) := []
  nextText : Nat := 0
  /-- May a pattern have groups in parentheses? -/
  hasGroups : Bool := false
  /-- May an assignment give a list here? -/
  takesLists : Bool := true
  /-- Does the shell keep to the standard? -/
  isStrict : Bool := false
  /-- Where a bracket begins a subscript that may have blanks in it. -/
  subscripts : SubscriptPlace := .nowhere
  /-- Remarks on the text that has been read, the last one first. -/
  remarks : List Remark := []
  /-- What has been read of the commands, as it was written, the last piece first. -/
  written : List Written := []
  /-- Parts of the word that is being read which are shown in another way, the last one first. -/
  splices : List Splice := []

namespace Parser

abbrev Reader := StateT Source (Except GrammarError)

def fail {α : Type} (fault : GrammarFault) : Reader α := fun source =>
  .error { line := source.line, fault, remarks := source.remarks, rest := source.rest }

/-- Stops because something is open that began on a line. The extended language names that line. -/
def failOpen {α : Type} (line : Nat) (fault : GrammarFault) : Reader α := fun source =>
  .error {
    line := if source.dialect = .extended then line else source.line, fault
    remarks := source.remarks, rest := source.rest }

/-- The language of the text. -/
def dialect : Reader Dialect := return (← get).dialect

/-- Leaves the aliases whose values are used up. -/
def leaveAliases (source : Source) : Source :=
  if source.frames.isEmpty then source
  else
    let length := source.rest.length
    let live := source.frames.filter (!·.isSpent)
    let ended := live.filter fun frame => length ≤ frame.remaining
    { source with
      frames := live.map fun frame =>
        if length ≤ frame.remaining then { frame with isSpent := true } else frame
      aliasNext := source.aliasNext || ended.any (·.endsInBlank) }

/-- The next byte, if there is one. -/
def next : Reader (Option UInt8) := fun source =>
  let source := leaveAliases source
  match source.rest with
  | [] => .ok (none, source)
  | byte :: rest => .ok (some byte, { source with rest })

/-- Puts a byte back. -/
def unread (byte : Option UInt8) : Reader Unit :=
  match byte with
  | some byte => modify fun source => { source with rest := byte :: source.rest }
  | none => pure ()

def nextLine : Reader Unit := modify fun source => { source with line := source.line + 1 }

/-- The next byte behind any escaped ends of lines. -/
def nextJoined : (bound : Nat) → Reader (Option UInt8)
  | 0 => next
  | bound + 1 => do
    match ← next with
    | some 92 =>
      match ← next with
      | some 10 =>
        nextLine
        modify fun source =>
          let left := source.rest.length
          { source with splices := ⟨left + 2, left, []⟩ :: source.splices }
        nextJoined bound
      | other => unread other; return some 92
    | other => return other

/-- Enough steps for any text that fits into memory. -/
def maxSteps : Nat := 1000000000

def advance : Reader (Option UInt8) := nextJoined maxSteps

/-- May the byte start a name? -/
def startsName (byte : UInt8) : Bool :=
  (65 ≤ byte && byte ≤ 90) || (97 ≤ byte && byte ≤ 122) || byte == 95

/-- May the byte stand in a name? -/
def inName (byte : UInt8) : Bool := startsName byte || Bytes.isDigit byte

/-- Is the text a name? -/
def isName (text : Bytes) : Bool := text.head?.any startsName && text.all inName

/-- Does the byte name a special parameter? -/
def isSpecial (byte : UInt8) : Bool := (utf8 "@*#?-$!").contains byte || Bytes.isDigit byte

/-- The quotation or expansion a byte stands in, which decides what it means. -/
inductive Context
  | base | double | single | arithmetic
  deriving DecidableEq

/-- What a byte does in a context. -/
inductive Role
  | ordinary | special | newline | backslash | single | double | closing | dollar | brace
  | openParen | closeParen | backquote | blank
  deriving DecidableEq

/-- Bytes that have a meaning in patterns and tildes. They are marked as literal in quotations. -/
def isPatternByte (byte : UInt8) : Bool := (utf8 "!*?[=~:/-]").contains byte

def Context.role (context : Context) (byte : UInt8) : Role :=
  if byte == 10 then .newline
  else match context with
    | .base =>
      if byte == 92 then .backslash else if byte == 39 then .single
      else if byte == 34 then .double else if byte == 96 then .backquote
      else if byte == 36 then .dollar else if byte == 125 then .brace
      else if (utf8 "<>();&| \t").contains byte then .blank else .ordinary
    | .double =>
      if byte == 92 then .backslash else if byte == 34 then .closing
      else if byte == 96 then .backquote else if byte == 36 then .dollar
      else if byte == 125 then .brace else if isPatternByte byte then .special else .ordinary
    | .single =>
      if byte == 39 then .closing
      else if isPatternByte byte || byte == 92 then .special else .ordinary
    | .arithmetic =>
      if byte == 92 then .backslash else if byte == 96 then .backquote
      else if byte == 36 then .dollar else if byte == 125 then .brace
      else if byte == 40 then .openParen else if byte == 41 then .closeParen else .ordinary

/-- A level of quotation. Expansions whose inside has other rules than their outside open a new one. -/
structure Level where
  context : Context
  /-- Do double quotes toggle inside an expansion of this level? -/
  innerDouble : Bool := false
  /-- Was the level opened by a parameter? -/
  opened : Bool := false
  /-- Are bytes here protected as in double quotes? -/
  inDouble : Bool := false
  /-- Parameters that are open on this level, and how many of them in double quotes. -/
  parameters : Nat := 0
  quotedParameters : Nat := 0
  /-- Parentheses that are open in an expression. -/
  parentheses : Nat := 0
  /-- The line on which what is open here began. -/
  line : Nat := 0

/-- What is to be made of a value in the extended language, with a word that is still being read. -/
inductive Purpose
  | use (use : Use)
  | slice
  | replace
  | recase (letterCase : LetterCase) (every : Bool)

/-- Where a word is first divided by a byte outside of parentheses; each question mark takes one such byte
    for itself. -/
def divide (separator : UInt8) : (depth : Nat) → (before : Word) → Word → Word × Option Word
  | _, before, [] => (before.reverse, none)
  | depth, before, .bare byte :: rest =>
    if byte == separator && depth = 0 then (before.reverse, some rest)
    else
      let depth :=
        if byte == 40 || (separator == 58 && byte == 63) then depth + 1
        else if byte == 41 || byte == separator then depth - 1 else depth
      divide separator depth (.bare byte :: before) rest
  | depth, before, part :: rest => divide separator depth (part :: before) rest

/-- What a purpose makes of a value with its word. -/
def Purpose.change (purpose : Purpose) (word : Word) : Change :=
  match purpose with
  | .use how => .use how word
  | .recase letterCase all => .recase letterCase all word
  | .slice =>
    let (start, length) := divide 58 0 [] word
    .slice start length
  | .replace =>
    let (anchor, word) : Anchor × Word := match word with
      | .bare 47 :: rest => (.every, rest)
      | .bare 35 :: rest => (.atStart, rest)
      | .bare 37 :: rest => (.atEnd, rest)
      | _ => (.first, word)
    let (pattern, replacement) := divide 47 0 [] word
    .replace anchor pattern (replacement.getD [])

/-- An expansion that has been opened, with what was read before it, in reverse order. -/
inductive Enclosure
  | parameter (name : Bytes) (use : Use) (before : Word)
  | expression (before : Word)
  /-- The subscript of a variable. `asksLength` says that the length of the element is asked for. -/
  | subscript (indirect asksLength : Bool) (name : Bytes) (before : Word)
  | rich (indirect : Bool) (name : Bytes) (subscript : Subscript) (purpose : Purpose) (before : Word)

/-- A word that is being read. -/
structure Unfinished where
  level : Level
  outer : List Level := []
  enclosures : List Enclosure := []
  /-- Parts of the innermost expansion, in reverse order. -/
  parts : Word := []
  hasQuotes : Bool := false
  /-- How many brackets of a subscript are open, and the line of the first one. -/
  brackets : Nat := 0
  bracketLine : Nat := 0

namespace Unfinished

def add (word : Unfinished) (part : Part) : Unfinished := { word with parts := part :: word.parts }

/-- Ends the innermost expansion. -/
def close (word : Unfinished) : Unfinished :=
  match word.enclosures with
  | .parameter name use before :: rest =>
    { word with enclosures := rest, parts := .parameter name use word.parts.reverse :: before }
  | .expression before :: rest =>
    { word with enclosures := rest, parts := .arithmetic word.parts.reverse :: before }
  | .rich indirect name subscript purpose before :: rest =>
    let change := purpose.change word.parts.reverse
    { word with enclosures := rest, parts := .rich indirect name subscript change :: before }
  | .subscript .. :: _ | [] => word

/-- Goes back to the level around this one. -/
def popLevel (word : Unfinished) : Unfinished :=
  match word.outer with
  | level :: outer => { word with level, outer }
  | [] => word

end Unfinished

/-- The readers of what is inside substitutions: commands in parentheses and in a text of their own, and
    words in parentheses. -/
structure Inner where
  parenthesised : Reader (Option Command)
  quoted : Bytes → Reader (Option Command)
  elements : Reader (List Word)
  /-- The expression that a text is. -/
  expression : Bytes → Reader Word

/-- How a word ends: as a word of a command, or as a here-document with its delimiter. -/
abbrev Ending := Option PendingText

/-- The text of a backquote substitution up to its end, escapes taken out. -/
def backquoted (inDouble : Bool) : (bound : Nat) → (read : Bytes) → Reader Bytes
  | 0, read => return read.reverse
  | bound + 1, read => do
    match ← advance with
    | none => fail .openBackquote
    | some 96 => return read.reverse
    | some 92 =>
      match ← next with
      | none => backquoted inDouble bound (92 :: read)
      | some byte =>
        if (utf8 "\\`$").contains byte || (inDouble && byte == 34) then
          backquoted inDouble bound (byte :: read)
        else backquoted inDouble bound (byte :: 92 :: read)
    | some 10 => nextLine; backquoted inDouble bound (10 :: read)
    | some byte => backquoted inDouble bound (byte :: read)

/-- The bytes from one on that pass a test, with the first that does not. -/
def span (test : UInt8 → Bool) : (bound : Nat) → Option UInt8 → (read : Bytes) →
    Reader (Bytes × Option UInt8)
  | 0, byte, read => return (read.reverse, byte)
  | bound + 1, byte, read => do
    match byte with
    | some value =>
      if test value then span test bound (← advance) (value :: read)
      else return (read.reverse, byte)
    | none => return (read.reverse, none)

/-- The operator behind the name of a parameter in braces, from its first byte on. -/
def parameterUse (byte : Option UInt8) : Reader Use := do
  let plain (colon : Bool) : Option UInt8 → Option Use
    | some 45 => some (.default colon)
    | some 43 => some (.alternative colon)
    | some 63 => some (.require colon)
    | some 61 => some (.assign colon)
    | some 125 => if colon then none else some .value
    | _ => none
  match byte with
  | some 58 =>
    let byte ← advance
    return (plain true byte).getD .malformed
  | some 37 | some 35 =>
    let again ← advance
    if again != byte then unread again
    return .trim ⟨byte == some 35, again == byte⟩
  | other => return (plain false other).getD .malformed

/-- The name of a parameter in braces, from its first byte on, and what is made of it. -/
def bracedParameter (byte : Option UInt8) : Reader (Bytes × Use) := do
  let malformed (name : Bytes) (byte : Option UInt8) : Reader (Bytes × Use) := do
    unread byte
    return (name, .malformed)
  let isLengthOf : Option UInt8 → Bool := fun byte => byte.any inName
  let named (byte : UInt8) : Reader (Bytes × Option UInt8) :=
    span (if startsName byte then inName else Bytes.isDigit) maxSteps (some byte) []
  let ending (name : Bytes) (byte : Option UInt8) : Reader (Bytes × Use) := do
    return (name, ← parameterUse byte)
  let lengthEnding (name : Bytes) (byte : Option UInt8) : Reader (Bytes × Use) := do
    if byte == some 125 then return (name, .length) else malformed name byte
  match byte with
  | none => malformed [] none
  | some 125 => malformed [] byte
  | some first =>
    if startsName first || Bytes.isDigit first then
      let (name, after) ← named first
      ending name after
    else if first == 35 then
      let second ← advance
      if isLengthOf second then
        let (name, after) ← named (second.getD 0)
        lengthEnding name after
      else
        let third ← advance
        if second == some 125 || third != some 125 then
          unread third
          ending [35] second
        else if second.any isSpecial then lengthEnding (second.toList) third
        else malformed [] third
    else
      let second ← advance
      if isSpecial first then ending [first] second else malformed [] second

/-- Opens an enclosure for the word behind a parameter that is used in some way. -/
def openUse (word : Unfinished) (use : Use) (enclosure : Word → Enclosure) : Unfinished :=
  let level := word.level
  let context := match use, level.context with
    | .trim _, _ => Context.base
    | _, .arithmetic => .double
    | _, same => same
  let count (level : Level) : Level :=
    { level with
      parameters := level.parameters + 1
      quotedParameters := level.quotedParameters + if level.inDouble then 1 else 0 }
  let opens := (context ≠ level.context || level.innerDouble) && use ≠ .value
  let word := { word with
    enclosures := enclosure word.parts :: word.enclosures, parts := [] }
  if opens then
    { word with
      level := count { context, opened := true, inDouble := context ≠ .base }
      outer := level :: word.outer }
  else { word with level := count level }

/-- Opens a parameter in braces. -/
def openParameter (word : Unfinished) (name : Bytes) (use : Use) : Unfinished :=
  openUse word use (.parameter name use)

/-- Opens an enclosure in which quotations are as outside of all quotations. -/
def openBare (word : Unfinished) (enclosure : Word → Enclosure) : Unfinished :=
  { word with
    enclosures := enclosure word.parts :: word.enclosures, parts := []
    level := { context := .base, opened := true, parameters := 1 }
    outer := word.level :: word.outer }

/-- The text of a parameter in braces from behind the opening one on, as messages show it. -/
def bracedText (text : Bytes) : Bytes :=
  utf8 "$\x7b" ++ text.takeWhile (· != 125) ++ [125]

/-- Reads what is made of a variable in braces, from the first byte behind its name and subscript on.
    `text` is what stands in the braces. -/
def changeOf (word : Unfinished) (text : Bytes) (indirect asksLength : Bool) (name : Bytes)
    (subscript : Subscript) (byte : Option UInt8) : Reader Unfinished := do
  let isPlain : Bool := match indirect, subscript with
    | false, .whole => true
    | _, _ => false
  let done (change : Change) : Reader Unfinished :=
    return word.add (.rich indirect name subscript change)
  let asUse (use : Use) : Reader Unfinished := do
    if use = .value || use = .length then
      let isShort := isPlain && (use = .length || isName name)
      return word.add (if isShort then .parameter name use [] else
        .rich indirect name subscript (.use use []))
    else if use = .malformed then return openParameter word (bracedText text) .malformed
    else if isPlain then return openParameter word name use
    else return openUse word use (.rich indirect name subscript (.use use))
  let malformed (byte : Option UInt8) : Reader Unfinished := do
    unread byte
    return openParameter word (bracedText text) .malformed
  let opened (purpose : Purpose) : Reader Unfinished :=
    return openBare word (.rich indirect name subscript purpose)
  if asksLength then
    if byte == some 125 then asUse .length else malformed byte
  else match byte with
    | some 58 =>
      let second ← advance
      match second with
      | some 45 | some 43 | some 63 | some 61 =>
        unread second
        asUse (← parameterUse byte)
      | some 125 => malformed second
      | _ =>
        unread second
        opened .slice
    | some 47 => opened .replace
    | some 94 | some 44 | some 126 =>
      let second ← advance
      if second != byte then unread second
      opened (.recase (if byte == some 94 then .upper else if byte == some 44 then .lower else .other)
        (second == byte))
    | some 64 =>
      let operator ← advance
      if indirect && operator == some 125 then
        return word.add (.rich indirect name .each .names)
      else
        match operator, ← advance with
        | some operator, some 125 => done (.transform operator)
        | _, other => malformed other
    | some 42 =>
      let second ← advance
      if indirect && second == some 125 then
        return word.add (.rich indirect name .joined .names)
      else malformed second
    | _ =>
      match indirect, subscript, byte with
      | true, .each, some 125 | true, .joined, some 125 => done .keys
      | _, _, _ => asUse (← parameterUse byte)

/-- Reads a parameter in braces in the extended language, from behind the opening one on. -/
def richParameter (word : Unfinished) : Reader Unfinished := do
  let text := (← get).rest
  let first ← advance
  let second := (← get).rest.head?
  let isNameHead (byte : Option UInt8) : Bool := byte.any fun byte => inName byte
  let isHead (byte : Option UInt8) : Bool := isNameHead byte || byte.any isSpecial
  let asksLength := first == some 35 && isNameHead second
  let indirect := first == some 33 && isHead second
  let first ← if asksLength || indirect then advance else pure first
  match first with
  | some byte =>
    if inName byte then
      let (name, after) ←
        span (if startsName byte then inName else Bytes.isDigit) maxSteps (some byte) []
      let hasSubscript := after == some 91 && startsName byte
      if hasSubscript && !Bracketing.closesInBraces (← get).rest then
        return openParameter word (bracedText text) .malformed
      else if hasSubscript then
        return openBare word (.subscript indirect asksLength name)
      else changeOf word text indirect asksLength name .whole after
    else if isSpecial byte && (first != some 35 || second != some 125) && byte != 35 then
      changeOf word text indirect asksLength [byte] .whole (← advance)
    else
      let (name, use) ← bracedParameter first
      if use = .value then return word.add (.rich false name .whole (.use use []))
      else if use = .length then return word.add (.parameter name use [])
      else if use = .malformed then return openParameter word (bracedText text) use
      else return openParameter word name use
  | none => return openParameter word (bracedText text) .malformed

/-- Ends a subscript at its closing bracket. -/
def closeSubscript (word : Unfinished) : Reader Unfinished := do
  match word.enclosures with
  | .subscript indirect asksLength name before :: enclosures =>
    let subscript : Subscript := match word.parts with
      | [.bare 64] => .each
      | [.bare 42] => .joined
      | parts => .element parts.reverse
    let line := word.level.line
    let word := { word with enclosures, parts := before }.popLevel
    let text := name ++ utf8 "[...]\x7d"
    let word ← changeOf word text indirect asksLength name subscript (← advance)
    return { word with level := { word.level with line } }
  | _ => return word.add (.bare 93)

/-- The line that is being read. -/
def currentLine : Reader Nat := return (← get).line

/-- Reads something that began on a line, which the extended language names if it has no end. -/
def openedAt {α : Type} (line : Nat) (reader : Reader α) : Reader α := fun source =>
  match reader.run source with
  | .ok result => .ok result
  | .error error => .error (if source.dialect = .extended then { error with line } else error)

/-- A quotation with escapes, from behind its opening mark on. -/
def escapedQuotation : (bound : Nat) → (read : Bytes) → Reader Bytes
  | 0, read => return read.reverse
  | bound + 1, read => do
    match ← next with
    | none => fail (.openQuotation 39)
    | some 39 => return read.reverse
    | some 92 =>
      match ← next with
      | none => escapedQuotation bound (92 :: read)
      | some byte => escapedQuotation bound (byte :: 92 :: read)
    | some 10 => nextLine; escapedQuotation bound (10 :: read)
    | some byte => escapedQuotation bound (byte :: read)

/-- Reads what follows a dollar sign. -/
def dollar (inner : Inner) (isDelimiter : Bool) (word : Unfinished) :
    Reader Unfinished := do
  let sign : Part := .bare 36
  let byte ← advance
  if isDelimiter then
    unread byte
    return word.add sign
  let isBare := (← dialect) = .extended && word.level.context = .base
  match byte with
  | some 91 =>
    let line := (← get).line
    if (← dialect) = .standard then
      unread byte
      return word.add sign
    else match Bracketing.inSquare? (← get).rest with
      | none => failOpen line (.openQuotation 93)
      | some (text, rest) =>
        modify fun source => { source with rest, line := source.line + text.count 10 }
        return word.add (.arithmetic (← inner.expression text))
  | some 40 =>
    let isCommand := (← dialect) = .extended && match (← get).rest with
      | 40 :: rest => !Bracketing.isDouble rest
      | _ => true
    if isCommand then return word.add (.output (← inner.parenthesised))
    else match ← advance with
    | some 40 =>
      return { word with
        level := { context := .arithmetic, inDouble := true }
        outer := word.level :: word.outer
        enclosures := .expression word.parts :: word.enclosures, parts := [] }
    | other =>
      unread other
      return word.add (.output (← inner.parenthesised))
  | some 123 =>
    if (← dialect) = .extended then richParameter word
    else
      let (name, use) ← bracedParameter (← advance)
      if use = .value || use = .length then return word.add (.parameter name use [])
      else return openParameter word name use
  | some 39 =>
    if isBare then
      let left := (← get).rest.length + 2
      let text ← openedAt (← currentLine) (escapedQuotation maxSteps [])
      let text := (Escapes.replaced .quotation text).1.beforeNul
      let quoted := text.map Part.literal
      modify fun source => { source with
        splices := ⟨left, source.rest.length, Quoting.single text⟩ :: source.splices }
      return { word with
        parts := .quote :: quoted.reverse ++ .quote :: word.parts, hasQuotes := true }
    else
      unread byte
      return word.add sign
  | some 34 =>
    unread byte
    if isBare then
      modify fun source =>
        let left := source.rest.length
        { source with splices := ⟨left + 1, left, []⟩ :: source.splices }
    return if isBare then word else word.add sign
  | some value =>
    if startsName value then
      let (name, after) ← span inName maxSteps byte []
      unread after
      return word.add (.parameter name .value [])
    else if isSpecial value then return word.add (.parameter [value] .value [])
    else
      unread byte
      return word.add sign
  | none => return word.add sign

/-- What a backslash makes of the byte behind it. -/
def escape (ending : Ending) (word : Unfinished) (byte : UInt8) : Unfinished :=
  let inParameter := word.level.parameters ≠ 0
  let keeps := word.level.inDouble && byte != 92 && byte != 96 && byte != 36 &&
    (byte != 34 || (ending.isSome && !inParameter)) && (byte != 125 || !inParameter)
  let word := if keeps then word.add (.literal 92) else word
  { word.add (.literal byte) with hasQuotes := true }

/-- A quotation mark that begins or ends a quotation. -/
def quoteMark (ending : Ending) (word : Unfinished) : Unfinished :=
  if ending.isNone then word.add .quote else word

/-- The same for a double one, which toggles inside parameters. -/
def doubleMark (ending : Ending) (word : Unfinished) : Unfinished :=
  let level := word.level
  let level := if level.parameters ≠ 0 then { level with innerDouble := !level.innerDouble }
    else level
  quoteMark ending { word with level }

/-- A mark that may close a quotation. -/
def closingMark (ending : Ending) (word : Unfinished) (byte : UInt8) : Unfinished :=
  let level := word.level
  if ending.isSome && level.parameters = 0 then word.add (.bare byte)
  else
    let level := if level.quotedParameters = 0 then
        { level with context := .base, inDouble := false }
      else level
    let word := { word with level, hasQuotes := true }
    if byte == 34 then doubleMark ending word else quoteMark ending word

/-- A closing brace. -/
def closingBrace (word : Unfinished) : Unfinished :=
  let level := word.level
  if level.innerDouble || level.parameters = 0 then word.add (.bare 125)
  else
    let word := word.close
    let level := { level with parameters := level.parameters - 1 }
    if level.parameters = 0 && level.opened then word.popLevel
    else
      { word with level := { level with quotedParameters := level.quotedParameters - 1 } }

/-- Does a line of a here-document end it? Gives the bytes behind the delimiter's line. -/
def afterDelimiter? (mark : PendingText) (text : Bytes) : Option Bytes :=
  if mark.delimiter.isPrefixOf text then
    match text.drop mark.delimiter.length with
    | [] => some []
    | 10 :: rest => some rest
    | _ => none
  else none

/-- At the head of a line of a here-document, passes over tabs, and over the delimiter if it is there.
    The result is the first byte of the line, or nothing at the end. -/
def lineHead (mark : PendingText) (byte : Option UInt8) : Reader (Option UInt8) := do
  unread byte
  if mark.stripTabs then
    modify fun source => { source with rest := source.rest.dropWhile (· == 9) }
  match afterDelimiter? mark (← get).rest with
  | some rest =>
    modify fun source => { source with rest, line := source.line + 1 }
    return none
  | none =>
    let source ← get
    if source.rest.isEmpty then
      set { source with remarks := ⟨source.line - 1, mark.line, mark.delimiter⟩ :: source.remarks }
    next

/-- Is the last part of a word a sign that a group of a pattern may follow? -/
def followsSign (word : Unfinished) : Bool :=
  match word.parts with
  | .bare byte :: _ => (utf8 "?*+@!").contains byte
  | _ => false

/-- The text of a word of bare bytes. -/
def bareText : Word → Option Bytes
  | [] => some []
  | .bare byte :: rest => (bareText rest).map (byte :: ·)
  | _ => none

/-- Does a bracket behind the parts of a word begin a subscript? -/
def beginsSubscript (source : Source) (word : Unfinished) : Bool :=
  match source.subscripts with
  | .nowhere => false
  | .atStart => word.parts.isEmpty
  | .afterName => !word.hasQuotes && (bareText word.parts.reverse).any isName

/-- Reads parts from a byte on to the end of a word, with the byte that ends it. -/
def partsFrom (inner : Inner) (ending : Ending) (isDelimiter : Bool) :
    (bound : Nat) → Option UInt8 → Unfinished → Reader (Unfinished × Option UInt8)
  | 0, byte, word => return (word, byte)
  | bound + 1, byte, word => do
    let level := word.level
    match byte with
    | none => return (word, none)
    | some value =>
      let goOn (word : Unfinished) : Reader (Unfinished × Option UInt8) := do
        let byte ← if word.level.context = .single then next else advance
        partsFrom inner ending isDelimiter bound byte word
      let inSubscript : Bool := match word.enclosures with
        | .subscript .. :: _ => level.context = .base
        | _ => false
      let isBare := level.context = .base && word.enclosures.isEmpty
      let inBrackets := isBare && 0 < word.brackets
      if isBare && value == 91 && (inBrackets || beginsSubscript (← get) word) then
        let current ← currentLine
        let line := if inBrackets then word.bracketLine else current
        goOn { word.add (.bare 91) with brackets := word.brackets + 1, bracketLine := line }
      else if inBrackets && value == 93 then
        goOn { word.add (.bare 93) with brackets := word.brackets - 1 }
      else if inBrackets && (level.context.role value = .blank || value == 10) then
        if value == 10 then nextLine
        goOn (word.add (.bare value))
      else
      if inSubscript && value == 93 && level.parentheses = 0 then goOn (← closeSubscript word)
      else if inSubscript && (value == 91 || value == 93) then
        let count := if value == 91 then level.parentheses + 1 else level.parentheses - 1
        goOn { word.add (.bare value) with level := { level with parentheses := count } }
      else if !inSubscript && level.context = .base && (value == 40 || value == 41) &&
          (level.parentheses ≠ 0 || (value == 40 && (← get).hasGroups && followsSign word)) then
        let count := if value == 40 then level.parentheses + 1 else level.parentheses - 1
        let current ← currentLine
        let line := if level.parentheses = 0 then current else level.line
        goOn { word.add (.bare value) with level := { level with parentheses := count, line } }
      else match level.context.role value with
      | .newline =>
        if level.context = .base && level.parameters = 0 && level.parentheses = 0 then
          return (word, byte)
        else
          nextLine
          let byte ← next
          let byte ← match ending with
            | some mark => lineHead mark byte
            | none => pure byte
          partsFrom inner ending isDelimiter bound byte (word.add (.bare 10))
      | .ordinary =>
        let isDropped := level.context = .arithmetic && value == 34 && (← dialect) = .extended
        goOn (if isDropped then word else word.add (.bare value))
      | .special =>
        goOn (word.add (if ending.isNone || level.inDouble || level.parameters ≠ 0 then
          .literal value else .bare value))
      | .backslash =>
        match ← next with
        | none => goOn (word.add (.literal 92))
        | some escaped => goOn (escape ending word escaped)
      | .single =>
        let level := { level with context := .single, line := ← currentLine }
        goOn (quoteMark ending { word with level })
      | .double =>
        let level := { level with context := .double, inDouble := true, line := ← currentLine }
        goOn (doubleMark ending { word with level })
      | .closing => goOn (closingMark ending word value)
      | .dollar =>
        let line ← currentLine
        let after ← dollar inner isDelimiter word
        if word.enclosures.length < after.enclosures.length then
          goOn { after with level := { after.level with line } }
        else goOn after
      | .brace => goOn (closingBrace word)
      | .openParen =>
        goOn { word.add (.bare 40) with
          level := { level with parentheses := level.parentheses + 1 } }
      | .closeParen =>
        if level.parentheses ≠ 0 then
          goOn { word.add (.bare 41) with
            level := { level with parentheses := level.parentheses - 1 } }
        else
          match ← advance with
          | some 41 => goOn word.close.popLevel
          | other =>
            unread other
            goOn (word.add (.bare 41))
      | .backquote =>
        if isDelimiter then goOn { word.add (.bare 96) with hasQuotes := false }
        else
          let text ← openedAt (← currentLine) (backquoted level.inDouble maxSteps [])
          goOn (word.add (.output (← inner.quoted text)))
      | .blank =>
        let source ← get
        let isProcess := source.dialect = .extended && (value == 60 || value == 62) &&
          source.rest.head? == some 40
        if level.parameters ≠ 0 || level.parentheses ≠ 0 then goOn (word.add (.bare value))
        else if isProcess then
          let _ ← next
          goOn (word.add (.process (value == 60) (← inner.parenthesised)))
        else return (word, byte)

/-- Checks that nothing is open at the end of a word. -/
def requireClosed (ending : Ending) (word : Unfinished) : Reader Unit := do
  let line := word.level.line
  if word.brackets ≠ 0 then failOpen word.bracketLine (.openQuotation 93)
  if word.level.context = .arithmetic then failOpen line .openExpression
  if word.level.context ≠ .base && ending.isNone then
    failOpen line (.openQuotation (if word.level.context = .single then 39 else 34))
  if word.level.parameters ≠ 0 then failOpen line .openParameter
  if word.level.context = .base && word.level.parentheses ≠ 0 then failOpen line .openParentheses

/-- A redirection operator from its first byte on; `number` is what stood before it. -/
def redirection (number : Option Nat) (byte : UInt8) : Reader Operator := do
  let descriptor (usual : Nat) : Nat := number.getD usual
  let extended := (← dialect) = .extended
  let file (kind : RedirectKind) : Reader Operator :=
    return .file (descriptor (if byte == 62 then 1 else 0)) kind
  let second ← advance
  if byte == 62 then
    match second with
    | some 62 => file .append
    | some 124 => file .clobber
    | some 38 => return .copy (descriptor 1) false
    | other => unread other; file .output
  else
    match second with
    | some 60 =>
      match ← advance with
      | some 45 => return .here (descriptor 0) true
      | some 60 =>
        if extended then return .word (descriptor 0)
        else
          unread (some 60)
          return .here (descriptor 0) false
      | other => unread other; return .here (descriptor 0) false
    | some 38 => return .copy (descriptor 0) true
    | some 62 => file .both
    | other => unread other; file .input

/-- Is a word, given in reverse order, the head of an assignment of a list: a name with an equals sign? -/
def isListHead (parts : Word) : Bool :=
  match parts with
  | .bare 61 :: rest =>
    let name := match rest with
      | .bare 43 :: name => name
      | name => name
    (bareText name.reverse).any isName
  | _ => false

/-- Number of the descriptor that a word before a redirection stands for, if it is one. -/
def descriptorOf? (dialect : Dialect) (parts : Word) : Option Nat :=
  (bareText parts).bind fun digits =>
    let fits := match dialect with
      | .standard => digits.length = 1
      | .extended => !digits.isEmpty
    if fits && digits.all Bytes.isDigit then some (Number.digits 10 digits).1 else none

/-- The name of the variable for a new descriptor, if a word before a redirection gives one in braces. -/
def descriptorName? (dialect : Dialect) (parts : Word) : Option Bytes :=
  (bareText parts).bind fun text =>
    match text with
    | 123 :: rest =>
      let name := rest.dropLast
      let (base, subscript) := (name.takeWhile (· != 91), name.dropWhile (· != 91))
      let isElement := 2 < subscript.length && subscript.getLast? = some 93
      if dialect = .extended && rest.getLast? = some 125 && isName base && (subscript.isEmpty || isElement)
      then some name else none
    | _ => none

/-- A text of the source as it is shown, given how much was left to read where it begins. -/
def spliced (left : Nat) (text : Bytes) : List Splice → Bytes
  | [] => text
  | splice :: rest =>
    if left < splice.first || splice.first < splice.last then spliced left text rest
    else
      let before := left - splice.first
      let length := splice.first - splice.last
      text.take before ++ splice.shown ++
        spliced splice.last (text.drop (before + length)) rest

/-- The text that has been read since the source was as given, as it is shown. -/
def shownSince (before after : Source) : Bytes :=
  let left := before.rest.length
  spliced left (before.rest.take (left - after.rest.length)) after.splices.reverse

/-- A word, or a redirection, from its first byte on. -/
def wordToken (inner : Inner) (isDelimiter : Bool) (byte : Option UInt8) : Reader Token := do
  let source ← get
  let (word, last) ← partsFrom inner none isDelimiter maxSteps byte { level := { context := .base } }
  requireClosed none word
  let parts := word.parts.reverse
  let start := { source with rest := byte.toList ++ source.rest }
  let asWord : Reader Token := do
    unread last
    modify fun after => { after with
      wordText := byte.toList ++ source.rest.take (source.rest.length - after.rest.length)
      wordShown := shownSince start after }
    return .word parts word.hasQuotes
  match last with
  | some byte =>
    if (byte == 60 || byte == 62) && !word.hasQuotes then
      if parts.isEmpty then return .redirect (← redirection none byte)
      else match descriptorOf? source.dialect parts, descriptorName? source.dialect parts with
        | some number, _ => return .redirect (← redirection (some number) byte)
        | none, some name => return .redirect (.named name (← redirection none byte))
        | none, none => asWord
    else if byte == 40 && source.dialect = .extended && source.takesLists && isListHead word.parts then
      unread last
      let head := shownSince start (← get)
      let _ ← next
      modify fun after => { after with written := [] }
      let elements ← inner.elements
      modify fun after =>
        let shown := after.written.reverse.filterMap fun piece => match piece with
          | .word text => some text
          | _ => none
        { after with wordShown := head ++ 40 :: Bytes.joinWith [32] shown ++ [41] }
      return .word (parts ++ [.list elements]) word.hasQuotes
    else asWord
  | none => asWord

/-- A regular expression as a word: operators of the command language that stand in it belong to it, and so
    do blanks in parentheses. -/
def regularWord (inner : Inner) (start : Nat) :
    (bound depth : Nat) → Option UInt8 → Unfinished → Reader Word
  | 0, _, _, word => return word.parts.reverse
  | bound + 1, depth, byte, word => do
    let (word, last) ← partsFrom inner none false maxSteps byte word
    requireClosed none word
    let goOn (depth : Nat) (byte : UInt8) : Reader Word := do
      regularWord inner start bound depth (← advance) (word.add (.bare byte))
    match last with
    | some 40 => goOn (depth + 1) 40
    | some 41 => if depth = 0 then stop last word else goOn (depth - 1) 41
    | some 124 => goOn depth 124
    | some byte =>
      if depth ≠ 0 && byte != 10 then goOn depth byte
      else if word.parts.isEmpty && (byte == 32 || byte == 9) then
        regularWord inner start bound depth (← advance) word
      else stop last word
    | none => if depth ≠ 0 then fail (.openGroup start) else stop last word
where
  stop (last : Option UInt8) (word : Unfinished) : Reader Word := do
    unread last
    return word.parts.reverse

/-- The lines of a here-document as they are shown, up to the one that ends it. -/
def hereLines (mark : PendingText) : (bound : Nat) → Bytes → Bytes
  | 0, text => text
  | bound + 1, text =>
    let text := if mark.stripTabs then text.dropWhile (· == 9) else text
    if text.isEmpty || (afterDelimiter? mark text).isSome then []
    else
      let (line, rest) := logical bound text
      line ++ hereLines mark bound rest
where
  /-- A line, with those that an escaped end joins to it. -/
  logical : (bound : Nat) → Bytes → Bytes × Bytes
    | 0, text => (text, [])
    | _, [] => ([], [])
    | _, 10 :: rest => ([10], rest)
    | bound + 1, 92 :: byte :: rest =>
      if mark.isLiteral then
        let (line, after) := logical bound (byte :: rest)
        (92 :: line, after)
      else
        let (line, after) := logical bound rest
        (if byte == 10 then line else 92 :: byte :: line, after)
    | bound + 1, byte :: rest =>
      let (line, after) := logical bound rest
      (byte :: line, after)

/-- The text of a here-document, from the line it begins at. -/
def hereText (inner : Inner) (mark : PendingText) : Reader HereText := do
  let first ← if mark.isLiteral then next else advance
  let first ← lineHead mark first
  let context := if mark.isLiteral then Context.single else .double
  let (word, _) ← partsFrom inner (some mark) false maxSteps first
    { level := { context, inDouble := !mark.isLiteral } }
  requireClosed (some mark) word
  return { content := word.parts.reverse, isLiteral := mark.isLiteral }

/-- Reads the here-documents that are waiting for their lines. -/
def hereTexts (inner : Inner) : Reader Unit := do
  let pending := (← get).pending
  modify fun source => { source with pending := [] }
  for mark in pending do
    let before ← get
    let text ← hereText inner mark
    let lines := hereLines mark before.rest.length before.rest
    modify fun source => { source with
      texts := (mark.number, { text with lines }) :: source.texts, written := before.written }

/-- Passes over a comment. -/
def skipComment : (bound : Nat) → Reader Unit
  | 0 => pure ()
  | bound + 1 => do
    match ← next with
    | some 10 => unread (some 10)
    | some _ => skipComment bound
    | none => pure ()

/-- The next token, keywords not yet told from words. -/
def rawToken (inner : Inner) (isDelimiter : Bool) : (bound : Nat) → Reader Token
  | 0 => return .endOfFile
  | bound + 1 => do
    let extended := (← dialect) = .extended
    let twice (byte : UInt8) (both one : Token) : Reader Token := do
      let second ← advance
      if second == some byte then return both
      else
        unread second
        return one
    let ifNext (byte : UInt8) (yes no : Reader Token) : Reader Token := do
      if extended && (← get).rest.head? == some byte then
        let _ ← next
        yes
      else no
    match ← advance with
    | none => return .endOfFile
    | some 32 | some 9 => rawToken inner isDelimiter bound
    | some 35 =>
      skipComment maxSteps
      rawToken inner isDelimiter bound
    | some 10 => nextLine; return .newline
    | some 38 =>
      ifNext 62 (ifNext 62 (pure (.redirect (.outputs true))) (pure (.redirect (.outputs false))))
        (twice 38 .andIf .ampersand)
    | some 124 => ifNext 38 (pure .pipeBoth) (twice 124 .orIf .pipe)
    | some 59 =>
      ifNext 38 (pure .semicolonAmpersand) do
        match ← twice 59 .doubleSemicolon .semicolon with
        | .doubleSemicolon => ifNext 38 (pure .doubleSemicolonAmpersand) (pure .doubleSemicolon)
        | other => return other
    | some 40 => return .openParen
    | some 41 => return .closeParen
    | byte => wordToken inner isDelimiter byte

/-- The text of a word of bytes, quotations taken away. -/
def plainText (word : Word) : Bytes :=
  word.filterMap fun part => match part with
    | .bare byte | .literal byte => some byte
    | _ => none

/-- The keyword a word without quotes is. -/
def keyword? (dialect : Dialect) (parts : Word) : Option Keyword :=
  (bareText parts).bind fun text =>
    (Keyword.all dialect).find? fun keyword => utf8 keyword.text = text

/-- Starts to read the value of an alias in place of its name. -/
def enterAlias (name value : Bytes) : Reader Unit :=
  modify fun source => { source with
    rest := value ++ source.rest
    frames :=
      ⟨name, source.rest.length, value.getLast?.any fun byte => byte == 32 || byte == 9, false⟩ ::
        source.frames }

/-- The alias of a name that is not being read already. -/
def alias? (source : Source) (name : Bytes) : Option Bytes :=
  if source.frames.any (·.name = name) then none else source.aliases.lookup name

/-- Leaves the last token to be read again. -/
def pushBack : Reader Unit := modify fun source => { source with isPushed := true }

/-- Leaves a token to be read. -/
def push (token : Token) : Reader Unit :=
  modify fun source => { source with token, isPushed := true }

/-- Stops at a token that may not stand here, naming the one that is expected, if only one is. -/
def unexpected {α : Type} (token : Token) (expected : Option Token) : Reader α :=
  do fail (.unexpected token (← get).wordText expected)

end Parser

end CleanLaunch.Shell
