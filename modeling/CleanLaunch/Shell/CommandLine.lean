import CleanLaunch.Shell.Extended.OutlineText
import CleanLaunch.Shell.Parser

/-! Reading commands from tokens.

    `CommandLine.next?` reads one line of commands from a source text, or nothing at its end. The line
    may go on over several lines of text, where a command is not complete or a here-document is. -/

namespace CleanLaunch.Shell

namespace CommandLine

open Shell.Parser

/-- Puts two commands in sequence. -/
def andThen : Option Command → Command → Command
  | none, second => second
  | some first, second => .sequence first second

/-- A word that gives a variable a value. -/
structure Assignment where
  name : Bytes
  /-- The element of a list that is meant. -/
  subscript? : Option Word := none
  /-- Is the value put behind the old one? -/
  appends : Bool := false
  value : Word

namespace Assignment

/-- The parts of a word up to the bracket that closes a subscript, and those behind it. -/
def subscriptFrom : (depth : Nat) → (before : Word) → Word → Option (Word × Word)
  | _, _, [] => none
  | depth, before, .bare 93 :: rest =>
    if depth = 0 then some (before.reverse, rest)
    else subscriptFrom (depth - 1) (.bare 93 :: before) rest
  | depth, before, .bare 91 :: rest => subscriptFrom (depth + 1) (.bare 91 :: before) rest
  | depth, before, part :: rest => subscriptFrom depth (part :: before) rest

/-- What stands behind the name and subscript of an assignment: whether it appends, and its value. -/
def signed? (dialect : Dialect) : Word → Option (Bool × Word)
  | .bare 61 :: value => some (false, value)
  | .bare 43 :: .bare 61 :: value => if dialect = .extended then some (true, value) else none
  | _ => none

/-- The assignment a word is, if it begins with a name and an equals sign. The extended language also has
    subscripts behind the name, and a plus sign before the equals sign. -/
def ofWord? (dialect : Dialect) (word : Word) : Option Assignment :=
  let nameByte? : Part → Option UInt8
    | .bare byte => if inName byte then some byte else none
    | _ => none
  let name := (word.map nameByte?).takeWhile (·.isSome) |>.filterMap fun byte? => byte?
  if !isName name then none
  else match word.drop name.length with
    | .bare 91 :: rest =>
      if dialect = .extended then
        match subscriptFrom 0 [] rest with
        | some (subscript, rest) =>
          (signed? dialect rest).map fun (appends, value) =>
            { name, subscript? := some subscript, appends, value }
        | none => none
      else none
    | rest => (signed? dialect rest).map fun (appends, value) => { name, appends, value }

end Assignment

/-- Does a word begin with a name and an equals sign? -/
def isAssignment (dialect : Dialect) (word : Word) : Bool :=
  (Assignment.ofWord? dialect word).isSome

/-- The special builtins. No function may have one of their names, and their errors end the
    shell. -/
def specialBuiltins : List Bytes :=
  ["break", ":", "continue", ".", "eval", "exec", "exit", "export", "local", "readonly", "return",
   "set", "shift", "times", "trap", "unset"].map utf8

/-- How a list of commands ends. -/
inductive Extent
  /-- At the end of a line. -/
  | line
  /-- Where a word or operator ends lists; there must be a command before it. -/
  | block
  /-- The same, but the list may be empty. -/
  | possiblyEmpty
  deriving DecidableEq

/-- What a token is taken for, where several readings are possible. -/
structure Reading where
  /-- Are newlines passed over? -/
  newlines : Bool := false
  keywords : Bool := false
  aliases : Bool := false
  /-- Does the word end a here-document? Then nothing in it is expanded. -/
  delimiter : Bool := false
  /-- Is the word an element of a list? -/
  element : Bool := false

/-- Reading at the head of a command that may begin on a later line. -/
def Reading.command : Reading := { newlines := true, keywords := true, aliases := true }

/-- Reading at the head of a command on this line. -/
def Reading.sameLine : Reading := { keywords := true, aliases := true }

/-- Operators of conditions in double brackets with operands on both sides. -/
def isBinary (operator : Bytes) : Bool :=
  (["=", "==", "!=", "-eq", "-ne", "-lt", "-le", "-gt", "-ge", "-nt", "-ot", "-ef"].map
    utf8).contains operator

/-- Is a text an operator of conditions with one operand behind it? -/
def isUnary (text? : Option Bytes) : Bool :=
  match text? with
  | some [45, letter] => (utf8 "abcdefghknoprstuvwxzGLNORS").contains letter
  | _ => false

/-- What has been read of a simple command, all in reverse order. -/
structure Simple where
  line : Nat
  assignments : List Word := []
  words : List Word := []
  redirects : List Redirect := []

namespace Simple

def command (simple : Simple) : Command :=
  .simple simple.line simple.assignments.reverse simple.words.reverse simple.redirects.reverse

/-- The builtins that take assignments as such. -/
def assigningBuiltins : List Bytes := ["alias", "declare", "export", "local", "readonly", "typeset"].map utf8

/-- May the next word give a list to a variable? -/
def takesLists (simple : Simple) : Bool :=
  match simple.words.getLast? with
  | none => true
  | some word => (bareText word).any assigningBuiltins.contains

/-- The line of the command, given the token behind its first part: in the extended language, it is the one
    where that token ends. -/
def located (dialect : Dialect) (simple : Simple) (next : Token) (line : Nat) : Simple :=
  let parts := simple.assignments.length + simple.words.length + simple.redirects.length
  if dialect = .extended && parts = 1 then
    { simple with line := if next.isNewline then line - 1 else line }
  else simple

end Simple

/-- The copy a word asks for, if it can be told before the word is expanded. -/
def copy? (descriptor : Nat) (word : Word) : Option Redirect :=
  match bareText word with
  | some [45] => some (.copy descriptor none)
  | some [digit] =>
    if Bytes.isDigit digit then some (.copy descriptor (some (Bytes.digitValue digit))) else none
  | _ => none

def tooDeep {α : Type} : Reader α := fail .tooDeep

/-- Reads the elements of a list. Whatever they leave open, they are said to be open themselves since they
    began. -/
def insideList {α : Type} (reader : Reader α) : Reader α := fun source =>
  match reader.run source with
  | .ok result => .ok result
  | .error error =>
    match error.fault with
    | .unexpected .endOfFile _ _ =>
      .error { error with line := source.line, fault := .openParentheses, isInner := true }
    | _ => .error { error with isInner := true }

/-- Reads something in two pairs of parentheses as if they were one in the other. The end of the text is said
    of what is before it. -/
def insidePair {α : Type} (reader : Reader α) : Reader α := fun source =>
  match reader.run source with
  | .ok result => .ok result
  | .error error =>
    match error.fault with
    | .unexpected .endOfFile _ _ => .error { error with fault := .unsuited [] false }
    | _ => .error error

/-- Reads something in parentheses. Errors in it are told from others; the end of the text is one that the
    extended language puts down to the parentheses. -/
def inside {α : Type} (reader : Reader α) : Reader α := fun source =>
  match reader.run source with
  | .ok result => .ok result
  | .error error =>
    match source.dialect, error.fault with
    | .extended, .unexpected .endOfFile _ _ =>
      .error { error with fault := .openParentheses }
    | .extended, .unexpected .. => .error { error with isInner := true }
    | _, _ => .error error

/-- Text between two double parentheses, which is taken for an expression. -/
def expressionText (word : Word) : Word :=
  match word with
  | [.arithmetic expression] => expression
  | other => other

/-- A command whose errors go where its output goes. -/
def withErrors (stage : Command) : Command :=
  let redirect : Redirect := .copy 2 (some 1)
  match stage with
  | .simple line assignments words redirects => .simple line assignments words (redirects ++ [redirect])
  | .redirected line body redirects => .redirected line body (redirects ++ [redirect])
  | .subshell line body redirects => .subshell line body (redirects ++ [redirect])
  | other => .redirected 0 (some other) [redirect]

/-- Is a token the word that ends a condition? -/
def isConditionEnd : Token → Bool
  | .word [.bare 93, .bare 93] false => true
  | _ => false

/-- Stops at a token that does not suit a condition. What is said of it depends on how the token is shown; other
    words are not shown at all. -/
def unsuited {α : Type} (token : Token) (said : Option Bytes → Bytes) : Reader α := do
  let line := (← get).line
  let (line, isEnd, shown?) : Nat × Bool × Option Bytes := match token with
    | .endOfFile => (line, true, some (utf8 "EOF"))
    | .newline => (line - 1, false, some (utf8 "newline"))
    | .word .. => (line, false, if isConditionEnd token then some (utf8 "]]") else none)
    | other => (line, false, some (other.shown []))
  fail (.unsuited [(line, said shown?)] isEnd)

/-- Requires a token to be a word in the extended language. -/
def requirePattern (token : Token) : Reader Unit := do
  match (← dialect), token with
  | .standard, _ | _, .word .. => pure ()
  | .extended, other => unexpected other none

/-- Stops at a token that is no operand of a condition. -/
def badArgument {α : Type} (kind : String) (token : Token) : Reader α :=
  unsuited token fun shown? => utf8 "unexpected argument " ++ (match shown? with
    | some shown => utf8 "\x60" ++ shown ++ utf8 "' "
    | none => []) ++ utf8 ("to conditional " ++ kind ++ " operator")

/-- All positional parameters, each a word of its own. -/
def allPositional : Word := [.quote, .parameter (utf8 "@") .value [], .quote]

mutual

/-- The commands inside a parenthesised substitution, with its closing parenthesis. The
    here-documents around it wait until it is over; its own have to be complete by then. -/
def substitution : (bound : Nat) → Reader (Option Command)
  | 0 => tooDeep
  | bound + 1 => do
    let before ← get
    set { before with pending := [], written := [], splices := [] }
    let body ← inside do
      let body ← list bound .possiblyEmpty none
      expect bound .closeParen
      return body
    modify fun source =>
      let shown := Outline.shownList true source.texts (source.written.drop 1).reverse
      let shown := if shown.head? = some 40 then 32 :: shown else shown
      { source with
        pending := before.pending, written := before.written
        splices := ⟨before.rest.length, source.rest.length + 1, shown⟩ :: before.splices }
    return body

/-- The words of a list in parentheses, with its closing parenthesis. -/
def elements : (bound : Nat) → Reader (List Word)
  | 0 => tooDeep
  | bound + 1 => insideList (elementsFrom bound [])

def elementsFrom : (bound : Nat) → (before : List Word) → Reader (List Word)
  | 0, _ => tooDeep
  | bound + 1, before => do
    match ← token bound { newlines := true, element := true } with
    | .word parts _ => elementsFrom bound (parts :: before)
    | .closeParen => return before.reverse
    | other => unexpected other none

/-- The expression that a text is, which is a source of its own. -/
def expression : (bound : Nat) → Bytes → Reader Word
  | 0, _ => tooDeep
  | bound + 1, text => do
    let inner : Inner := ⟨substitution bound, backquotedCommands bound, elements bound, expression bound⟩
    let outer ← get
    set { outer with rest := text }
    let start : Unfinished := { level := { context := .arithmetic, inDouble := true } }
    let (word, _) ← partsFrom inner none false maxSteps (← advance) start
    modify fun source => { outer with
      texts := source.texts, nextText := source.nextText, remarks := source.remarks }
    return word.parts.reverse

/-- The commands of a backquoted text, which is a source of its own. What is left of it behind the
    first list is not looked at. The extended language only reads it when it runs. -/
def backquotedCommands : (bound : Nat) → Bytes → Reader (Option Command)
  | 0, _ => tooDeep
  | bound + 1, text => do
    let outer ← get
    if outer.dialect = .extended then
      return if text.all Number.isSpace then none else some (.text text)
    set { outer with rest := text, line := 1, frames := [], aliasNext := false, pending := [] }
    let body ← list bound .possiblyEmpty none
    modify fun source => { outer with
      aliases := source.aliases, texts := source.texts, nextText := source.nextText
      isPushed := false, remarks := source.remarks }
    return body

/-- The next token, with newlines passed over, keywords told from words and aliases replaced by their
    values as asked. -/
def token : (bound : Nat) → Reading → Reader Token
  | 0, _ => tooDeep
  | bound + 1, reading => do
    let inner : Inner := ⟨substitution bound, backquotedCommands bound, elements bound, expression bound⟩
    let source ← get
    let before := if source.isPushed then source.written.drop 1 else source.written
    let read ←
      if source.isPushed then do
        set { source with isPushed := false }
        pure source.token
      else do
        let subscripts : SubscriptPlace := if source.dialect = .standard then .nowhere
          else if reading.element then .atStart
          else if reading.aliases then .afterName else .nowhere
        set { source with splices := [], subscripts }
        rawToken inner reading.delimiter maxSteps
    let note (piece : Bytes → Written) : Reader Unit :=
      modify fun source => { source with written := piece source.wordShown :: before }
    modify fun source => { source with token := read }
    match read with
    | .word .. => note .word
    | .redirect operator => note fun _ => .redirect operator
    | .keyword keyword => note fun _ => .keyword keyword
    | other => note fun _ => .sign (other.shown [])
    if reading.newlines && read.isNewline then
      hereTexts inner
      modify fun source => { source with aliasNext := false }
      token bound reading
    else
      let source ← get
      set { source with aliasNext := false }
      let reading := { reading with aliases := reading.aliases || source.aliasNext }
      match read with
      | .word parts hasQuotes =>
        modify fun source => { source with word := parts }
        let keyword := if reading.keywords && !hasQuotes then keyword? source.dialect parts else none
        let keyword := keyword.filter fun keyword => keyword ≠ .timeWord || !source.isStrict ||
          (source.rest.dropWhile fun byte => byte == 32 || byte == 9).head? != some 45
        let name := if reading.aliases && !hasQuotes then bareText parts else none
        match keyword, name.bind fun name => (alias? source name).map fun value => (name, value) with
        | some keyword, _ =>
          modify fun source => { source with token := .keyword keyword }
          note fun _ => .keyword keyword
          return .keyword keyword
        | none, some (name, value) =>
          modify fun source => { source with written := before }
          if !value.isEmpty then enterAlias name value
          token bound reading
        | none, none => return read
      | _ => return read

/-- Passes over the one token that may stand here. -/
def expect : (bound : Nat) → Token → Reader Unit
  | 0, _ => tooDeep
  | bound + 1, expected => do
    let next ← token bound {}
    if next.name = expected.name then return else unexpected next (some expected)

/-- A list of commands. -/
def list : (bound : Nat) → Extent → (before : Option Command) → Reader (Option Command)
  | 0, _, _ => tooDeep
  | bound + 1, extent, before => do
    let inner : Inner := ⟨substitution bound, backquotedCommands bound, elements bound, expression bound⟩
    let next ← token bound (if extent = .line then .sameLine else .command)
    match next with
    | .newline =>
      hereTexts inner
      return before
    | .endOfFile =>
      hereTexts inner
      push next
      return before
    | _ =>
      pushBack
      if extent = .possiblyEmpty && next.endsList then return before
      let start := (← get).written.length - 1
      let command ← andOr bound
      let following ← token bound {}
      let written := (← get).written.drop 1
      let own := (written.take (written.length - start)).reverse
      let after := andThen before (match following, command with
        | .ampersand, .pipeline stages _ => .pipeline stages (some own)
        | .ampersand, .redirected line body redirects => .background line body redirects own
        | .ampersand, other => .background 0 (some other) [] own
        | _, other => other)
      let extent := if extent = .line then .line else .possiblyEmpty
      match following with
      | .ampersand | .semicolon => list bound extent (some after)
      | .newline | .endOfFile =>
        pushBack
        list bound extent (some after)
      | _ =>
        if extent = .line then unexpected following none
        else
          pushBack
          return some after

/-- Commands joined by `&&` and `||`, from left to right. -/
def andOr : (bound : Nat) → Reader Command
  | 0 => tooDeep
  | bound + 1 => do andOrFrom bound (← pipeline bound {})

def andOrFrom : (bound : Nat) → Command → Reader Command
  | 0, _ => tooDeep
  | bound + 1, first => do
    let next ← token bound {}
    match next with
    | .andIf => andOrFrom bound (.both first (← pipeline bound .command))
    | .orIf => andOrFrom bound (.either first (← pipeline bound .command))
    | _ => pushBack; return first

/-- Commands joined by pipes, perhaps negated. -/
def pipeline : (bound : Nat) → Reading → Reader Command
  | 0, _ => tooDeep
  | bound + 1, reading => do
    let next ← token bound reading
    let extended := (← dialect) = .extended
    if next.isKeyword .bang then
      if extended then return .negated (← negatable bound)
      else return .negated (← stages bound .sameLine [])
    else if next.isKeyword .timeWord then
      let isPortable := match ← token bound .sameLine with
        | .word [.bare 45, .bare 112] false => true
        | _ => false
      if !isPortable then pushBack
      if ← endsHere bound then return .timed isPortable none
      else return .timed isPortable (some (← pipeline bound .sameLine))
    else
      pushBack
      stages bound {} []

/-- Is there no command here, but the end of a list? -/
def endsHere : (bound : Nat) → Reader Bool
  | 0 => tooDeep
  | bound + 1 => do
    let next ← token bound {}
    pushBack
    return match next with
      | .newline | .semicolon | .ampersand | .endOfFile => true
      | _ => false

/-- What follows an exclamation mark in the extended language, perhaps nothing. -/
def negatable : (bound : Nat) → Reader Command
  | 0 => tooDeep
  | bound + 1 => do
    if ← endsHere bound then return .simple (← get).line [] [] []
    else pipeline bound .sameLine

/-- The stages of a pipeline; those before are in reverse order. -/
def stages : (bound : Nat) → Reading → (before : List Command) → Reader Command
  | 0, _, _ => tooDeep
  | bound + 1, reading, before => do
    let stage ← command bound reading
    let next ← token bound {}
    match next with
    | .pipe => stages bound .command (stage :: before)
    | .pipeBoth => stages bound .command (withErrors stage :: before)
    | _ =>
      pushBack
      return if before.isEmpty then stage else .pipeline (stage :: before).reverse none

/-- A command, compound or simple. -/
def command : (bound : Nat) → Reading → Reader Command
  | 0, _ => tooDeep
  | bound + 1, reading => do
    let before := (← get).line
    let next ← token bound reading
    let source ← get
    let line := if source.dialect = .extended then source.line else before
    match next with
    | .keyword .ifWord =>
      let body ← conditional bound
      redirects bound line (some body)
    | .keyword .whileWord =>
      let body ← loop bound false
      redirects bound line (some body)
    | .keyword .untilWord =>
      let body ← loop bound true
      redirects bound line (some body)
    | .keyword .forWord =>
      let body ← forLoop bound line
      redirects bound line (some body)
    | .keyword .caseWord =>
      let body ← choice bound line
      redirects bound line (some body)
    | .keyword .openBrace =>
      let body ← list bound .block none
      expect bound (.keyword .closeBrace)
      redirects bound line body
    | .keyword .selectWord =>
      let body ← menu bound line
      redirects bound line (some body)
    | .keyword .functionWord => namedFunction bound
    | .keyword .openBrackets =>
      let (test, last) ← disjunction bound
      if isConditionEnd last then redirects bound line (some (.condition line test))
      else if last.name = Token.endOfFile.name then
        fail (.unsuited [(line, utf8 "unexpected EOF while looking for \x60]]'")] true)
      else
        unsuited last fun shown? => utf8 "syntax error in conditional expression" ++ (match shown? with
          | some shown => utf8 ": unexpected token \x60" ++ shown ++ utf8 "'"
          | none => [])
    | .openParen =>
      let isPair := source.dialect = .extended && source.rest.head? == some 40
      match ← expression? bound with
      | some expression => redirects bound line (some (.expression line expression))
      | none =>
        let content : Reader (Option Command) := do
          let body ← list bound .block none
          expect bound .closeParen
          return body
        let body ← if isPair then insidePair content else content
        return .subshell line body (← redirectsFrom bound .sameLine [])
    | .word .. | .redirect _ =>
      pushBack
      simple bound { line := (← get).line }
    | _ => unexpected next none

/-- An expression in double parentheses, from behind the first one on, if there is one. In the extended
    language only. -/
def expression? : (bound : Nat) → Reader (Option Word)
  | 0 => tooDeep
  | bound + 1 => do
    let source ← get
    let inner : Inner := ⟨substitution bound, backquotedCommands bound, elements bound, expression bound⟩
    if source.dialect = .standard || source.rest.head? != some 40 then return none
    else
      let start : Unfinished := {
        level := { context := .arithmetic, inDouble := true }
        outer := [{ context := .base }], enclosures := [.expression []] }
      let reader : Reader (Option Word) := do
        let _ ← next
        let (word, last) ← partsFrom inner none false maxSteps (← advance) start
        unread last
        match word.parts with
        | [.arithmetic expression] =>
          modify fun after =>
            let shown := (shownSince { source with rest := source.rest.drop 1 } after).dropLast.dropLast
            { after with written := .expression shown :: source.written.drop 1 }
          return some expression
        | _ => return none
      match reader.run source with
      | .ok (some expression, after) =>
        set after
        return some expression
      | _ => return none

/-- Conditions in double brackets that are joined by `||`, with the token behind them. -/
def disjunction : (bound : Nat) → Reader (Test × Token)
  | 0 => tooDeep
  | bound + 1 => do
    match ← conjunction bound with
    | (first, .orIf) =>
      let (second, last) ← disjunction bound
      return (.either first second, last)
    | other => return other

/-- Conditions that are joined by `&&`, with the token behind them. -/
def conjunction : (bound : Nat) → Reader (Test × Token)
  | 0 => tooDeep
  | bound + 1 => do
    match ← test bound with
    | (first, .andIf) =>
      let (second, last) ← conjunction bound
      return (.both first second, last)
    | other => return other

/-- One condition, with the token behind it. -/
def test : (bound : Nat) → Reader (Test × Token)
  | 0 => tooDeep
  | bound + 1 => do
    let first ← token bound { newlines := true }
    if isConditionEnd first then fail (.unsuited [] false)
    match first with
    | .openParen =>
      let (test, last) ← disjunction bound
      match last with
      | .closeParen => return (test, ← token bound { newlines := true })
      | other => unsuited other fun shown? => (match shown? with
        | some shown => utf8 "unexpected token \x60" ++ shown ++ utf8 "', expected \x60)'"
        | none => utf8 "expected \x60)'")
    | .word [.bare 33] false =>
      let (test, last) ← test bound
      return (.negated test, last)
    | .word parts hasQuotes =>
      let text? := if hasQuotes then none else bareText parts
      if isUnary text? then
        let operand ← token bound {}
        match operand with
        | .word word _ =>
          if isConditionEnd operand then badArgument "unary" operand
          else return (.unary (text?.getD []) word, ← token bound { newlines := true })
        | other => badArgument "unary" other
      else comparison bound parts
    | other =>
      unsuited other fun shown? =>
        utf8 "unexpected token \x60" ++ shown?.getD [] ++ utf8 "' in conditional command"

/-- A condition that begins with a word, with the token behind it. -/
def comparison : (bound : Nat) → (first : Word) → Reader (Test × Token)
  | 0, _ => tooDeep
  | bound + 1, first => do
    let second ← token bound {}
    let binary (operator : Bytes) (isPattern : Bool) : Reader (Test × Token) := do
      let groups := (← get).hasGroups
      modify fun source => { source with hasGroups := groups || isPattern }
      let operand ← token bound {}
      modify fun source => { source with hasGroups := groups }
      match operand with
      | .word word _ =>
        if isConditionEnd operand then badArgument "binary" operand
        else return (.binary first operator word, ← token bound { newlines := true })
      | other => badArgument "binary" other
    let refuse : Reader (Test × Token) := unsuited second fun shown? =>
      (match shown? with
        | some shown => utf8 "unexpected token \x60" ++ shown ++ utf8 "', "
        | none => []) ++ utf8 "conditional binary operator expected"
    if isConditionEnd second then return (.word first, second)
    match second with
    | .redirect (.file 0 .input) => binary (utf8 "<") false
    | .redirect (.file 1 .output) => binary (utf8 ">") false
    | .andIf | .orIf | .closeParen => return (.word first, second)
    | .word operator false =>
      match bareText operator with
      | some operator =>
        if operator = utf8 "=~" then regular bound first
        else if isBinary operator then
          binary operator (["=", "==", "!="].any fun sign => utf8 sign = operator)
        else refuse
      | none => refuse
    | _ => refuse

/-- A search for a regular expression, with the token behind it. -/
def regular : (bound : Nat) → (first : Word) → Reader (Test × Token)
  | 0, _ => tooDeep
  | bound + 1, first => do
    let inner : Inner := ⟨substitution bound, backquotedCommands bound, elements bound, expression bound⟩
    let start := (← get).line
    let before ← get
    let pattern ← regularWord inner start maxSteps 0 (← advance) { level := { context := .base } }
    let shown := (shownSince before (← get)).dropWhile fun byte => byte == 32 || byte == 9
    modify fun source => { source with written := .word shown :: before.written }
    let read : Token := .word pattern false
    if pattern.isEmpty then badArgument "binary" (← token bound {})
    else if isConditionEnd read then badArgument "binary" read
    else return (.binary first (utf8 "=~") pattern, ← token bound { newlines := true })

/-- A function that is defined by name, with or without parentheses. -/
def namedFunction : (bound : Nat) → Reader Command
  | 0 => tooDeep
  | bound + 1 => do
    match ← token bound {} with
    | .word parts _ =>
      let line := (← get).line
      match ← token bound {} with
      | .openParen => expect bound .closeParen
      | _ => pushBack
      let (body, written) ← noted bound
      return .define line (plainText parts) body written
    | other => unexpected other none

/-- The body of a function in the extended language, and how it was written. -/
def noted : (bound : Nat) → Reader (Command × List Written)
  | 0 => tooDeep
  | bound + 1 => do
    let source ← get
    let start := source.written.length - if source.isPushed then 1 else 0
    let body ← compound bound
    let after ← get
    let written := if after.isPushed then after.written.drop 1 else after.written
    return (body, (written.take (written.length - start)).reverse)

/-- The body of a function in the extended language, which is no simple command. -/
def compound : (bound : Nat) → Reader Command
  | 0 => tooDeep
  | bound + 1 => do
    let next ← token bound .command
    match next with
    | .word .. | .redirect _ => unexpected next none
    | _ =>
      pushBack
      command bound .command

/-- A loop over the words that are chosen from a menu. -/
def menu : (bound : Nat) → (line : Nat) → Reader Command
  | 0, _ => tooDeep
  | bound + 1, line => do
    match ← forLoop bound line with
    | .each line name words body => return .menu line name words body
    | other => return other

def conditional : (bound : Nat) → Reader Command
  | 0 => tooDeep
  | bound + 1 => do
    let test ← list bound .block none
    expect bound (.keyword .thenWord)
    let yes ← list bound .block none
    match ← token bound {} with
    | .keyword .elifWord => return .conditional test yes (some (← conditional bound))
    | .keyword .elseWord =>
      let no ← list bound .block none
      expect bound (.keyword .fiWord)
      return .conditional test yes no
    | .keyword .fiWord => return .conditional test yes none
    | other => unexpected other (some (.keyword .fiWord))

def loop : (bound : Nat) → (whileFails : Bool) → Reader Command
  | 0, _ => tooDeep
  | bound + 1, whileFails => do
    let test ← list bound .block none
    expect bound (.keyword .doWord)
    let body ← list bound .block none
    expect bound (.keyword .doneWord)
    return .loop whileFails test body

def forLoop : (bound : Nat) → (line : Nat) → Reader Command
  | 0, _ => tooDeep
  | bound + 1, line => do
    let extended := (← dialect) = .extended
    let badVariable : Reader Bytes := fail .badLoopVariable
    let first ← token bound {}
    let expression ← match first with
      | .openParen => expression? bound
      | _ => pure none
    if let some expression := expression then
      return ← countedLoop bound line expression
    if extended && first.name = Token.openParen.name && (← get).rest.head? == some 40 then
      modify fun source => { source with rest := source.rest.dropWhile (· != 10) }
      fail (.unsuited [] false)
    let name ← match first with
      | .word parts hasQuotes =>
        if extended then pure (plainText parts)
        else if hasQuotes then badVariable
        else match bareText parts with
          | some name => if isName name then pure name else badVariable
          | none => badVariable
      | other => if extended then unexpected other none else badVariable
    let words ← match ← token bound .command with
      | .keyword .inWord =>
        let (words, last) ← wordsUntil bound []
        match last with
        | .newline | .semicolon => pure words
        | _ => unexpected last none
      | .semicolon => pure [allPositional]
      | _ => pushBack; pure [allPositional]
    return .each line name words (← loopBody bound)

/-- The body of a loop over values, between `do` and `done`; in the extended language also in braces. -/
def loopBody : (bound : Nat) → Reader (Option Command)
  | 0 => tooDeep
  | bound + 1 => do
    let next ← token bound .command
    if next.isKeyword .doWord then
      let body ← list bound .block none
      expect bound (.keyword .doneWord)
      return body
    else if next.isKeyword .openBrace && (← dialect) = .extended then
      let body ← list bound .block none
      expect bound (.keyword .closeBrace)
      return body
    else unexpected next (some (.keyword .doWord))

/-- A loop that counts, from behind its three expressions on. -/
def countedLoop : (bound : Nat) → (line : Nat) → (expression : Word) → Reader Command
  | 0, _, _ => tooDeep
  | bound + 1, line, expression => do
    let signs := expression.filter fun part => match part with
      | .bare 59 => true
      | _ => false
    if signs.length ≠ 2 then fail (.badCounting (plainText expression) (2 < signs.length))
    let (start, rest) := divide 59 0 [] expression
    let (test, rest) := divide 59 0 [] (rest.getD [])
    match ← token bound .sameLine with
    | .semicolon => pure ()
    | _ => pushBack
    return .counted line start test (rest.getD []) (← loopBody bound)

def wordsUntil : (bound : Nat) → (before : List Word) → Reader (List Word × Token)
  | 0, _ => tooDeep
  | bound + 1, before => do
    match ← token bound {} with
    | .word parts _ => wordsUntil bound (parts :: before)
    | last => return (before.reverse, last)

def choice : (bound : Nat) → (line : Nat) → Reader Command
  | 0, _ => tooDeep
  | bound + 1, line => do
    match ← token bound {} with
    | .word subject _ =>
      let next ← token bound .command
      if next.isKeyword .inWord then return .choose line subject (← arms bound [])
      else unexpected next (some (.keyword .inWord))
    | other => unexpected other (some (.word [] false))

/-- The arms of a choice, with the word that ends it. -/
def arms : (bound : Nat) → (before : List (List Word × Option Command × ArmEnd)) →
    Reader (List (List Word × Option Command × ArmEnd))
  | 0, _ => tooDeep
  | bound + 1, before => do
    let next ← token bound { newlines := true, keywords := true }
    if next.isKeyword .esacWord then return before.reverse
    else
      match next with
      | .openParen => requirePattern (← token bound {})
      | _ => requirePattern next
      let patterns ← patterns bound []
      let body ← list bound .possiblyEmpty none
      let next ← token bound { newlines := true, keywords := true }
      if next.isKeyword .esacWord then return ((patterns, body, .leave) :: before).reverse
      else match next with
        | .doubleSemicolon => arms bound ((patterns, body, .leave) :: before)
        | .semicolonAmpersand => arms bound ((patterns, body, .enterNext) :: before)
        | .doubleSemicolonAmpersand => arms bound ((patterns, body, .testNext) :: before)
        | _ => unexpected next (some .doubleSemicolon)

/-- The patterns of an arm, from the word that was read last on. -/
def patterns : (bound : Nat) → (before : List Word) → Reader (List Word)
  | 0, _ => tooDeep
  | bound + 1, before => do
    let pattern := (← get).word
    match ← token bound {} with
    | .pipe =>
      requirePattern (← token bound {})
      patterns bound (pattern :: before)
    | .closeParen => return (pattern :: before).reverse
    | other => unexpected other (some .closeParen)

/-- A compound command with the redirections behind it. -/
def redirects : (bound : Nat) → (line : Nat) → Option Command → Reader Command
  | 0, _, _ => tooDeep
  | bound + 1, line, body => do
    match body, ← redirectsFrom bound .sameLine [] with
    | some command, [] => return command
    | body, all => return .redirected line body all

def redirectsFrom : (bound : Nat) → Reading → (before : List Redirect) → Reader (List Redirect)
  | 0, _, _ => tooDeep
  | bound + 1, reading, before => do
    match ← token bound reading with
    | .redirect operator => redirectsFrom bound {} ((← target bound operator).reverse ++ before)
    | _ => pushBack; return before.reverse

/-- What a redirection operator asks for, with its target. -/
def target : (bound : Nat) → Operator → Reader (List Redirect)
  | 0, _ => tooDeep
  | bound + 1, operator => do
    let isHere := match operator with
      | .here .. | .named _ (.here ..) => true
      | _ => false
    match ← token bound { delimiter := isHere } with
    | .word word hasQuotes =>
      match operator with
      | .file descriptor kind => return [.file descriptor kind word]
      | .copy descriptor _ => return [(copy? descriptor word).getD (.copyOf descriptor word)]
      | .word descriptor => return [.word descriptor word]
      | .outputs appends =>
        return [.file 1 (if appends then .append else .output) word, .copy 2 (some 1)]
      | .named name operator =>
        pushBack
        return (← target bound operator).map (.named name)
      | .here descriptor stripTabs =>
        let number := (← get).nextText
        modify fun source => { source with
          nextText := number + 1
          pending := source.pending ++
            [⟨number, plainText word, stripTabs, hasQuotes, source.line⟩]
          written := .document number :: source.written }
        return [.here descriptor number]
    | other => unexpected other none

/-- A simple command or the definition of a function. -/
def simple : (bound : Nat) → Simple → Reader Command
  | 0, _ => tooDeep
  | bound + 1, read => do
    modify fun source => { source with takesLists := read.takesLists }
    let next ← token bound { aliases := read.words.isEmpty }
    modify fun source => { source with takesLists := true }
    let read := read.located (← dialect) next (← get).line
    match next with
    | .word parts _ =>
      if read.words.isEmpty && isAssignment (← dialect) parts then
        simple bound { read with assignments := parts :: read.assignments }
      else simple bound { read with words := parts :: read.words }
    | .redirect operator =>
      let redirects ← target bound operator
      simple bound { read with redirects := redirects.reverse ++ read.redirects }
    | .openParen =>
      match read.words, read.assignments, read.redirects with
      | [word], [], [] => definition bound word
      | _, _, _ => pushBack; return read.command
    | _ => pushBack; return read.command

/-- The definition of a function, from behind its opening parenthesis on. -/
def definition : (bound : Nat) → Word → Reader Command
  | 0, _ => tooDeep
  | bound + 1, word => do
    match ← token bound {} with
    | .closeParen =>
      let badName : Reader Command := fail .badFunctionName
      let line := (← get).line
      if (← dialect) = .extended then
        let (body, written) ← noted bound
        return .define line (plainText word) body written
      else match bareText word with
      | some name =>
        if isName name && !specialBuiltins.contains name then
          return .define line name (← command bound .command) []
        else badName
      | none => badName
    | other => unexpected other (some .closeParen)

end

/-- A text in which nothing but expansions is special, as the words of a shell's own messages are. The
    last token counts as unread if it was the end of the text around it; the result also says whether it
    still does. -/
def quotedText? (source : Source) : Except GrammarError (Word × Bool) :=
  let inner : Inner := ⟨substitution maxSteps, backquotedCommands maxSteps, elements maxSteps, expression maxSteps⟩
  let endless : PendingText := {
    number := 0, delimiter := [0], stripTabs := false, isLiteral := false }
  let reader : Reader Word := do
    let (word, _) ← partsFrom inner (some endless) false maxSteps (← advance)
      { level := { context := .double, inDouble := true } }
    requireClosed (some endless) word
    return word.parts.reverse
  match reader.run source with
  | .ok (word, after) => .ok (word, after.isPushed)
  | .error error => .error error

/-- One line of commands, perhaps empty. -/
structure Line where
  command : Option Command
  /-- Did the text end with this line, without a newline? -/
  isLast : Bool
  /-- The text below. -/
  after : Source

/-- The next line of commands; nothing at the end of the text. -/
def next? (source : Source) : Except GrammarError (Option Line) :=
  let start := { source with isPushed := false, pending := [], aliasNext := false }
  match (list maxSteps .line none).run start with
  | .error error => .error error
  | .ok (none, after) => .ok (if after.isPushed then none else some ⟨none, false, after⟩)
  | .ok (some command, after) => .ok (some ⟨some command, after.isPushed, after⟩)

end CommandLine

end CleanLaunch.Shell
