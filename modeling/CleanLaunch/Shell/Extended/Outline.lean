import CleanLaunch.Shell.Grammar

/-! The outline of commands: how they are built from words as they were written.

    What a reader of command lines has accepted is read once more from its pieces, so that it can be
    shown again. Words stay as they are; here-documents come to the redirections that ask for them. -/

namespace CleanLaunch.Shell

namespace Outline

/-- A redirection as it is shown: its text, and the lines of a here-document with what ends them. -/
structure Redirection where
  text : Bytes
  lines? : Option Bytes := none

/-- How one command follows another. -/
inductive Joint
  | both | either | pipe | background | next
  /-- On the next line of a substitution. -/
  | newline
  deriving DecidableEq

/-- How a list of commands is repeated. -/
inductive Repeating
  | whileSucceeds | untilSucceeds

mutual

/-- A command. -/
inductive Item
  | nothing
  | simple (words : List Bytes) (redirects : List Redirection)
  /-- An expression or condition with the brackets around it. -/
  | bracketed (text : Bytes)
  /-- A command that is timed, perhaps in the portable form, or turned to its contrary. -/
  | marked (time : Option Bool) (negated : Bool) (item : Item)
  | joined (first : Item) (joint : Joint) (second : Item)
  | group (body : Item)
  | subshell (body : Item)
  | conditional (test yes no : Item)
  | loop (kind : Repeating) (test body : Item)
  /-- A loop with a head of its own, which is shown as it is. -/
  | counted (head : Bytes) (body : Item)
  | choice (subject : Bytes) (arms : Arms)
  | function (name : Bytes) (body : Item)
  | redirected (body : Item) (redirects : List Redirection)

/-- The arms of a choice. -/
inductive Arms
  | done
  | arm (patterns : List Bytes) (body : Item) (ending : ArmEnd) (rest : Arms)

end

def Item.isNothing : Item → Bool
  | .nothing => true
  | _ => false

/-- Marks a command. Two contraries are none. -/
def Item.mark (time : Option Bool) (negates : Bool) : Item → Item
  | .marked ownTime negated item => .marked (time.or ownTime) (negated != negates) item
  | item => .marked time negates item

/-- The pieces that are still to be read, and the here-documents by their numbers. -/
structure Pieces where
  rest : List Written
  documents : List (Nat × HereText)
  /-- Do commands on several lines stay on them? -/
  keepsLines : Bool := false

abbrev Reader := StateT Pieces Option

/-- The next piece, which stays to be read. -/
def peek : Reader (Option Written) := return (← get).rest.head?

def skip : Reader Unit := modify fun pieces => { pieces with rest := pieces.rest.tail }

def next : Reader Written := do
  match (← get).rest with
  | piece :: rest =>
    modify fun pieces => { pieces with rest }
    return piece
  | [] => failure

/-- Is a piece the sign with a text? -/
def isSign (text : String) : Option Written → Bool
  | some (.sign own) => own = utf8 text
  | _ => false

def isKeyword (keyword : Keyword) : Option Written → Bool
  | some (.keyword own) => own = keyword
  | _ => false

def endOfLine : String := "newline"

def skipLines : Reader Unit :=
  modify fun pieces => { pieces with rest := pieces.rest.dropWhile fun piece => isSign endOfLine (some piece) }

/-- Passes over a piece if it passes a test, and says whether it does. -/
def accept (test : Option Written → Bool) : Reader Bool := do
  if test (← peek) then
    skip
    return true
  else return false

def require (test : Option Written → Bool) : Reader Unit := do
  if !(← accept test) then failure

/-- Is there nothing more in a list of commands? -/
def endsList : Option Written → Bool
  | none => true
  | some (.keyword keyword) => keyword.endsList
  | some (.sign text) => ([")", ";;", ";&", ";;&"].map utf8).contains text
  | some _ => false

/-- The word that comes next. -/
def word : Reader Bytes := do
  match ← next with
  | .word text => return text
  | .keyword keyword => return utf8 keyword.text
  | _ => failure

/-- The words up to one that is none. -/
def words : Reader (List Bytes) := do
  let word? : Written → Option Bytes
    | .word text => some text
    | .keyword keyword => some (utf8 keyword.text)
    | _ => none
  let pieces ← get
  let found := pieces.rest.map word? |>.takeWhile (·.isSome)
  set { pieces with rest := pieces.rest.drop found.length }
  return found.filterMap fun word? => word?

/-- A descriptor before a redirection, which is left out where it is the usual one. -/
def number (usual descriptor : Nat) : Bytes :=
  if descriptor = usual then [] else Bytes.decimal descriptor

/-- Is a word the number of a descriptor? -/
def isNumber (word : Bytes) : Bool := !word.isEmpty && word.all Bytes.isDigit

/-- A redirection without a here-document as it is shown, with what stands for its descriptor if that is no
    number. -/
def redirection (front? : Option Bytes) (target : Bytes) : Operator → Bytes
  | .file descriptor kind =>
    let (usual, sign) : Nat × String := match kind with
      | .input => (0, "< ")
      | .output => (1, "> ")
      | .clobber => (1, ">| ")
      | .append => (1, ">> ")
      | .both => (1, "<> ")
    front?.getD (number usual descriptor) ++ utf8 sign ++ target
  | .copy descriptor isInput =>
    let closes := target = [45]
    let isPlain := closes || isNumber target || (target.getLast? = some 45 && isNumber target.dropLast)
    let usual := if isInput then 0 else 1
    let front := if isPlain || target.getLast? = some 45 then Bytes.decimal descriptor
      else number usual descriptor
    let sign := if isInput && !closes then "<&" else ">&"
    front?.getD front ++ utf8 sign ++ target
  | .word descriptor => front?.getD (number 0 descriptor) ++ utf8 "<<< " ++ target
  | .outputs appends => utf8 (if appends then "&>> " else "&> ") ++ target
  | .here .. | .named .. => []

/-- What ends a here-document, from the word that names it: the word without its quotations, and whether it has
    any. -/
def delimiter (word : Bytes) : Bytes × Bool :=
  let bare := word.filter fun byte => byte != 39 && byte != 34 && byte != 92
  (bare, bare.length < word.length)

/-- A redirection from its operator on. -/
def redirectionOf (operator : Operator) : Reader Redirection := do
  let target ← word
  let (front?, operator) : Option Bytes × Operator := match operator with
    | .named name operator => (some (123 :: name ++ [125]), operator)
    | operator => (none, operator)
  match operator with
  | .here descriptor stripTabs =>
    let (end_, isQuoted) := delimiter target
    let shown := if isQuoted then 39 :: end_ ++ [39] else end_
    let lines ← match ← peek with
      | some (.document number) =>
        skip
        pure (((← get).documents.lookup number).map (·.lines))
      | _ => pure none
    return {
      text := front?.getD (number 0 descriptor) ++ utf8 (if stripTabs then "<<-" else "<<") ++ shown
      lines? := some (lines.getD [] ++ end_) }
  | operator => return { text := redirection front? target operator }

/-- All redirections that follow. -/
def redirections : (bound : Nat) → Reader (List Redirection)
  | 0 => return []
  | bound + 1 => do
    match ← peek with
    | some (.redirect operator) =>
      skip
      let first ← redirectionOf operator
      return first :: (← redirections bound)
    | _ => return []

/-- The words and redirections of a simple command. -/
def simple : (bound : Nat) → Reader (List Bytes × List Redirection)
  | 0 => return ([], [])
  | bound + 1 => do
    match ← peek with
    | some (.redirect operator) =>
      skip
      let first ← redirectionOf operator
      let (words, redirects) ← simple bound
      return (words, first :: redirects)
    | some (.word text) =>
      skip
      let (words, redirects) ← simple bound
      return (text :: words, redirects)
    | _ => return ([], [])

/-- Is a word an operator of conditions with one operand behind it? -/
def isUnary (word : Bytes) : Bool :=
  match word with
  | [45, letter] => (utf8 "abcdefghknoprstuvwxzGLNORS").contains letter
  | _ => false

mutual

/-- Conditions joined by `||`, as they are shown. -/
def disjunction : (bound : Nat) → Reader Bytes
  | 0 => failure
  | bound + 1 => do
    let first ← conjunction bound
    skipLines
    if ← accept (isSign "||") then return first ++ utf8 " || " ++ (← disjunction bound)
    else return first

/-- Conditions joined by `&&`. -/
def conjunction : (bound : Nat) → Reader Bytes
  | 0 => failure
  | bound + 1 => do
    let first ← condition bound false
    skipLines
    if ← accept (isSign "&&") then return first ++ utf8 " && " ++ (← conjunction bound)
    else return first

/-- One condition, turned to its contrary or not. -/
def condition : (bound : Nat) → (negated : Bool) → Reader Bytes
  | 0, _ => failure
  | bound + 1, negated => do
    skipLines
    let front := if negated then utf8 "! " else []
    if ← accept (isSign "(") then
      let inner ← disjunction bound
      require (isSign ")")
      return front ++ utf8 "( " ++ inner ++ utf8 " )"
    let first ← word
    if first = utf8 "!" then condition bound !negated
    else if isUnary first then return front ++ first ++ 32 :: (← word)
    else
      let binary (operator : Bytes) : Reader Bytes := do
        skip
        return front ++ first ++ 32 :: operator ++ 32 :: (← word)
      match ← peek with
      | some (.redirect (.file 0 .input)) => binary (utf8 "<")
      | some (.redirect (.file 1 .output)) => binary (utf8 ">")
      | some (.word operator) =>
        if operator = utf8 "]]" then return front ++ utf8 "-n " ++ first else binary operator
      | _ => return front ++ utf8 "-n " ++ first

end

/-- Joins the commands of a list, the ones that run in the background with what follows them first. -/
def joinAll : List (Item × Option Joint) → Item
  | [] => .nothing
  | (first, joint?) :: rest => go first joint? rest
where
  /-- The commands so far, and how the next one follows them. -/
  go (before : Item) (joint? : Option Joint) : List (Item × Option Joint) → Item
    | [] => if joint? = some .background then .joined before .background .nothing else before
    | (item, nextJoint?) :: rest =>
      match joint? with
      | some joint =>
        if joint ≠ .background && nextJoint? = some .background then
          .joined before joint (go item nextJoint? rest)
        else go (.joined before joint item) nextJoint? rest
      | none => before

/-- The expressions of a counting loop: without the blanks before them, and one where one is missing. -/
def countingHead (text : Bytes) : Bytes :=
  let part (own : Bytes) : Bytes :=
    let own := own.dropWhile fun byte => byte == 32 || byte == 9 || byte == 10
    if own.isEmpty then utf8 "1" else own
  utf8 "for ((" ++ Bytes.joinWith (utf8 "; ") ((text.splitAt 59).map part) ++ utf8 "))"

/-- The head of a loop over words. -/
def eachHead (front : String) (name : Bytes) (words : List Bytes) : Bytes :=
  utf8 front ++ name ++ utf8 " in " ++ Bytes.joinWith [32] words ++ utf8 ";"

mutual

/-- A list of commands up to its end. -/
def list : (bound : Nat) → Reader Item
  | 0 => failure
  | bound + 1 => do
    skipLines
    return joinAll (← commands bound)

/-- The commands of a list, each with how the next one follows it. -/
def commands : (bound : Nat) → Reader (List (Item × Option Joint))
  | 0 => failure
  | bound + 1 => do
    if endsList (← peek) then return []
    let first ← andOr bound
    let joint? : Option Joint ← do
      if ← accept (isSign "&") then pure (some Joint.background)
      else if ← accept (isSign ";") then pure (some Joint.next)
      else if isSign endOfLine (← peek) then
        pure (some (if (← get).keepsLines then Joint.newline else .next))
      else pure none
    skipLines
    if joint?.isNone then return [(first, none)]
    let rest ← commands bound
    if rest.isEmpty then return [(first, joint?.filter (· = .background))]
    return (first, joint?) :: rest

/-- Commands joined by `&&` and `||`. -/
def andOr : (bound : Nat) → Reader Item
  | 0 => failure
  | bound + 1 => do andOrFrom bound (← pipeline bound)

def andOrFrom : (bound : Nat) → Item → Reader Item
  | 0, _ => failure
  | bound + 1, first => do
    if ← accept (isSign "&&") then
      skipLines
      andOrFrom bound (.joined first .both (← pipeline bound))
    else if ← accept (isSign "||") then
      skipLines
      andOrFrom bound (.joined first .either (← pipeline bound))
    else return first

/-- Commands joined by pipes, with the marks before them. -/
def pipeline : (bound : Nat) → Reader Item
  | 0 => failure
  | bound + 1 => do
    if ← accept (isKeyword .bang) then return (← pipeline bound).mark none true
    else if ← accept (isKeyword .timeWord) then
      let portable ← accept fun piece => match piece with
        | some (.word text) => text = utf8 "-p"
        | _ => false
      return (← pipeline bound).mark (some portable) false
    else
      let first ← command bound
      if ← accept (isSign "|") then
        skipLines
        return .joined first .pipe (← pipeline bound)
      else if ← accept (isSign "|&") then
        skipLines
        let errors : Redirection := { text := utf8 "2>&1" }
        let first : Item := match first with
          | .simple words redirects => .simple words (redirects ++ [errors])
          | .redirected body redirects => .redirected body (redirects ++ [errors])
          | other => .redirected other [errors]
        return .joined first .pipe (← pipeline bound)
      else return first

/-- A command with the redirections behind it. -/
def command : (bound : Nat) → Reader Item
  | 0 => failure
  | bound + 1 => do
    let body ← bare bound
    match body with
    | .simple .. | .function .. => return body
    | _ =>
      let redirects ← redirections bound
      return if redirects.isEmpty then body else .redirected body redirects

/-- A command without the redirections behind it. -/
def bare : (bound : Nat) → Reader Item
  | 0 => failure
  | bound + 1 => do
    match ← peek with
    | some (.keyword keyword) =>
      skip
      match keyword with
      | .openBrace =>
        let body ← list bound
        require (isKeyword .closeBrace)
        return .group body
      | .ifWord => conditional bound
      | .whileWord => loop bound .whileSucceeds
      | .untilWord => loop bound .untilSucceeds
      | .forWord => each bound "for "
      | .selectWord => each bound "select "
      | .caseWord =>
        let subject ← word
        skipLines
        require (isKeyword .inWord)
        return .choice subject (← arms bound)
      | .functionWord =>
        let name ← word
        if ← accept (isSign "(") then require (isSign ")")
        skipLines
        return .function name (← command bound)
      | .openBrackets =>
        let text ← disjunction bound
        require fun piece => match piece with
          | some (.word word) => word = utf8 "]]"
          | some (.keyword keyword) => keyword = .closeBrackets
          | _ => false
        return .bracketed (utf8 "[[ " ++ text ++ utf8 " ]]")
      | _ => failure
    | some (.expression text) =>
      skip
      return .bracketed (utf8 "((" ++ text ++ utf8 "))")
    | some (.sign _) =>
      if ← accept (isSign "(") then
        let body ← list bound
        require (isSign ")")
        return .subshell body
      else return .simple [] []
    | _ =>
      let (words, redirects) ← simple bound
      match words, redirects with
      | [name], [] =>
        if ← accept (isSign "(") then
          require (isSign ")")
          skipLines
          return .function name (← command bound)
        else return .simple words redirects
      | _, _ => return .simple words redirects

/-- A choice between two lists, from behind its first word on. -/
def conditional : (bound : Nat) → Reader Item
  | 0 => failure
  | bound + 1 => do
    let test ← list bound
    require (isKeyword .thenWord)
    let yes ← list bound
    match ← next with
    | .keyword .elifWord => return .conditional test yes (← conditional bound)
    | .keyword .elseWord =>
      let no ← list bound
      require (isKeyword .fiWord)
      return .conditional test yes no
    | .keyword .fiWord => return .conditional test yes .nothing
    | _ => failure

def loop : (bound : Nat) → Repeating → Reader Item
  | 0, _ => failure
  | bound + 1, kind => do
    let test ← list bound
    return .loop kind test (← body bound)

/-- The body of a loop. -/
def body : (bound : Nat) → Reader Item
  | 0 => failure
  | bound + 1 => do
    skipLines
    if ← accept (isKeyword .doWord) then
      let body ← list bound
      require (isKeyword .doneWord)
      return body
    else
      require (isKeyword .openBrace)
      let body ← list bound
      require (isKeyword .closeBrace)
      return body

/-- A loop over words or numbers. -/
def each : (bound : Nat) → (front : String) → Reader Item
  | 0, _ => failure
  | bound + 1, front => do
    match ← peek with
    | some (.expression text) =>
      skip
      let _ ← accept (isSign ";")
      return .counted (countingHead text) (← body bound)
    | _ =>
      let name ← word
      skipLines
      let own ←
        if ← accept (isKeyword .inWord) then words
        else pure [utf8 "\"$@\""]
      let _ ← accept (isSign ";")
      return .counted (eachHead front name own) (← body bound)

def arms : (bound : Nat) → Reader Arms
  | 0 => failure
  | bound + 1 => do
    skipLines
    if ← accept (isKeyword .esacWord) then return .done
    let _ ← accept (isSign "(")
    let patterns ← patterns bound
    let body ← list bound
    let ending : ArmEnd ← do
      if ← accept (isSign ";&") then pure ArmEnd.enterNext
      else if ← accept (isSign ";;&") then pure ArmEnd.testNext
      else
        let _ ← accept (isSign ";;")
        pure ArmEnd.leave
    return .arm patterns body ending (← arms bound)

def patterns : (bound : Nat) → Reader (List Bytes)
  | 0 => failure
  | bound + 1 => do
    let first ← word
    if ← accept (isSign "|") then return first :: (← patterns bound)
    else
      require (isSign ")")
      return [first]

end

/-- The outline of what was written. -/
def ofWritten? (keepsLines : Bool) (documents : List (Nat × HereText)) (written : List Written) :
    Option Item :=
  (list (10 * written.length + 10)).run { rest := written, documents, keepsLines } |>.map (·.1)

/-- The outline of the body of a function. -/
def bodyOf? (documents : List (Nat × HereText)) (written : List Written) : Option Item :=
  let reader : Reader Item := do
    skipLines
    command (10 * written.length + 10)
  reader.run { rest := written, documents } |>.map (·.1)

end Outline

end CleanLaunch.Shell
