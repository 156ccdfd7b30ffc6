import CleanLaunch.Shell.Dialect

/-! The shell's command language.

    A command line is read into a `Command`. A word in it is text whose bytes know whether they stand
    for themselves, with marks where quotations begin and end and with the expansions it contains;
    expansion turns it into text when the command runs. The text of a here-document is read later
    than the command that has it, so the command only holds its number. -/

namespace CleanLaunch.Shell

/-- Which end of a value a pattern is removed from, and whether the longest match goes. -/
structure Trim where
  fromStart : Bool
  longest : Bool
  deriving DecidableEq

/-- What is made of a parameter. `colon` says that a null value counts as unset. -/
inductive Use
  | value
  | length
  | default (colon : Bool)
  | assign (colon : Bool)
  | require (colon : Bool)
  | alternative (colon : Bool)
  | trim (trim : Trim)
  /-- A use that is not part of the language; it fails when it is expanded. -/
  | malformed
  deriving DecidableEq

/-- Where a pattern is replaced in a value. -/
inductive Anchor
  | first | every | atStart | atEnd
  deriving DecidableEq

/-- Which letters a change of case makes of those it is asked for. -/
inductive LetterCase
  | upper | lower | other
  deriving DecidableEq

/-- How the arms of a choice end: with the choice, in the body of the next arm, or at the patterns of the
    next one. -/
inductive ArmEnd
  | leave | enterNext | testNext
  deriving DecidableEq

/-- How a redirection treats its descriptor. -/
inductive RedirectKind
  | input | output | clobber | append | both
  deriving DecidableEq

/-- A reserved word or operator, with the name that messages use. -/
inductive Keyword
  | bang | caseWord | doWord | doneWord | elifWord | elseWord | esacWord | fiWord | forWord | ifWord
  | inWord | thenWord | untilWord | whileWord | openBrace | closeBrace
  | functionWord | selectWord | timeWord | openBrackets | closeBrackets
  deriving DecidableEq

namespace Keyword

def standard : List Keyword :=
  [.bang, .caseWord, .doWord, .doneWord, .elifWord, .elseWord, .esacWord, .fiWord, .forWord,
   .ifWord, .inWord, .thenWord, .untilWord, .whileWord, .openBrace, .closeBrace]

def all : Dialect → List Keyword
  | .standard => standard
  | .extended =>
    standard ++ [.functionWord, .selectWord, .timeWord, .openBrackets, .closeBrackets]

def text : Keyword → String
  | .bang => "!" | .caseWord => "case" | .doWord => "do" | .doneWord => "done"
  | .elifWord => "elif" | .elseWord => "else" | .esacWord => "esac" | .fiWord => "fi"
  | .forWord => "for" | .ifWord => "if" | .inWord => "in" | .thenWord => "then"
  | .untilWord => "until" | .whileWord => "while" | .openBrace => "\x7b" | .closeBrace => "\x7d"
  | .functionWord => "function" | .selectWord => "select" | .timeWord => "time"
  | .openBrackets => "[[" | .closeBrackets => "]]"

/-- Does the word end a list of commands? -/
def endsList : Keyword → Bool
  | .doWord | .doneWord | .elifWord | .elseWord | .esacWord | .fiWord | .thenWord
  | .closeBrace => true
  | _ => false

end Keyword

/-- A redirection whose target is still to be read. -/
inductive Operator
  | file (descriptor : Nat) (kind : RedirectKind)
  /-- Makes the descriptor a copy of another one. `isInput` says how the operator was written. -/
  | copy (descriptor : Nat) (isInput : Bool)
  /-- Asks for text from the lines below, with leading tabs removed or not. -/
  | here (descriptor : Nat) (stripTabs : Bool)
  /-- Takes a word as input. -/
  | word (descriptor : Nat)
  /-- Redirects both outputs to a file. -/
  | outputs (appends : Bool)
  /-- The same for a new descriptor whose number a variable gets, or has if the descriptor is closed. -/
  | named (name : Bytes) (operator : Operator)

/-- The operator as the extended language shows it. -/
def Operator.shown : Operator → Bytes
  | .file _ .input => utf8 "<"
  | .file _ .output => utf8 ">"
  | .file _ .clobber => utf8 ">|"
  | .file _ .append => utf8 ">>"
  | .file _ .both => utf8 "<>"
  | .copy _ isInput => utf8 (if isInput then "<&" else ">&")
  | .here _ stripTabs => utf8 (if stripTabs then "<<-" else "<<")
  | .word _ => utf8 "<<<"
  | .outputs appends => utf8 (if appends then "&>>" else "&>")
  | .named _ operator => operator.shown

/-- A piece of a command line as it was written, from which commands are shown again. -/
inductive Written
  | word (text : Bytes)
  | keyword (keyword : Keyword)
  /-- An operator between commands or around them, or the end of a line. -/
  | sign (text : Bytes)
  | redirect (operator : Operator)
  /-- An expression in double parentheses. -/
  | expression (text : Bytes)
  /-- The number of the here-document that is asked for. -/
  | document (number : Nat)

mutual

/-- A part of a word. -/
inductive Part
  /-- A byte that may be special: in patterns, at the head of a word, or to split the word at. -/
  | bare (value : UInt8)
  /-- A byte that stands for itself. -/
  | literal (value : UInt8)
  /-- A quotation begins or ends. -/
  | quote
  | parameter (name : Bytes) (use : Use) (word : List Part)
  /-- The output of commands. -/
  | output (body : Option Command)
  /-- The value of an arithmetic expression. -/
  | arithmetic (expression : List Part)
  /-- What the extended language makes of a variable, or of the one that it names. -/
  | rich (indirect : Bool) (name : Bytes) (subscript : Subscript) (change : Change)
  /-- The elements of a list, in an assignment. -/
  | list (elements : List (List Part))
  /-- A file that leads to the output of commands, or to their input. -/
  | process (reads : Bool) (body : Option Command)

/-- Which elements of a variable are meant: all of it, its elements one by one or joined, or one. -/
inductive Subscript
  | whole
  | each
  | joined
  | element (index : List Part)

/-- What is made of a value in the extended language. -/
inductive Change
  | use (use : Use) (word : List Part)
  | slice (start : List Part) (length : Option (List Part))
  | replace (anchor : Anchor) (pattern replacement : List Part)
  /-- Changes the case of the first letter that a pattern matches, or of every one. -/
  | recase (letterCase : LetterCase) (every : Bool) (pattern : List Part)
  | transform (operator : UInt8)
  /-- The numbers or names of elements. -/
  | keys
  /-- The names of the variables whose names begin so. -/
  | names

/-- A condition in double brackets. -/
inductive Test
  | word (word : List Part)
  | unary (operator : Bytes) (operand : List Part)
  | binary (first : List Part) (operator : Bytes) (second : List Part)
  | negated (test : Test)
  | both (first second : Test)
  | either (first second : Test)

inductive Redirect
  | file (descriptor : Nat) (kind : RedirectKind) (target : List Part)
  /-- Makes the descriptor a copy of another one, or closes it. -/
  | copy (descriptor : Nat) (source : Option Nat)
  /-- The same, with a source that is still to be expanded. -/
  | copyOf (descriptor : Nat) (source : List Part)
  /-- Input from text in the command line itself, by its number. -/
  | here (descriptor : Nat) (text : Nat)
  /-- Input from a word. -/
  | word (descriptor : Nat) (content : List Part)
  /-- The same for a new descriptor whose number a variable gets, or for the one it has. -/
  | named (name : Bytes) (redirect : Redirect)

inductive Command
  | simple (line : Nat) (assignments : List (List Part)) (words : List (List Part))
      (redirects : List Redirect)
  /-- Commands that run side by side. `background` is how they were written, if nobody waits for them. -/
  | pipeline (stages : List Command) (background : Option (List Written))
  | negated (command : Command)
  | both (first second : Command)
  | either (first second : Command)
  | sequence (first second : Command)
  | background (line : Nat) (command : Option Command) (redirects : List Redirect)
      (written : List Written)
  | subshell (line : Nat) (body : Option Command) (redirects : List Redirect)
  | redirected (line : Nat) (body : Option Command) (redirects : List Redirect)
  | conditional (test : Option Command) (yes : Option Command) (no : Option Command)
  /-- Runs the body as long as the test succeeds, or as long as it fails. -/
  | loop (whileFails : Bool) (test : Option Command) (body : Option Command)
  /-- Runs the body for every word. -/
  | each (line : Nat) (name : Bytes) (words : List (List Part)) (body : Option Command)
  | choose (line : Nat) (subject : List Part)
      (arms : List (List (List Part) × Option Command × ArmEnd))
  | define (line : Nat) (name : Bytes) (body : Command) (written : List Written)
  /-- Succeeds if an expression has another value than zero. -/
  | expression (line : Nat) (expression : List Part)
  | condition (line : Nat) (test : Test)
  /-- Runs the body as long as a test is not zero, with an expression before all and one after each
      run. -/
  | counted (line : Nat) (start test step : List Part) (body : Option Command)
  /-- Runs the body for every word that is chosen from a menu. -/
  | menu (line : Nat) (name : Bytes) (words : List (List Part)) (body : Option Command)
  /-- Runs a command and tells how long it took. -/
  | timed (portable : Bool) (command : Option Command)
  /-- Commands that are read when they run. -/
  | text (content : Bytes)

end

/-- A word of a command line. -/
abbrev Word := List Part

/-- The text of a here-document. `isLiteral` says that nothing in it is expanded. -/
structure HereText where
  content : Word
  isLiteral : Bool
  /-- Its lines as they are shown. -/
  lines : Bytes := []

/-- A token of the command line. -/
inductive Token
  | endOfFile | newline | semicolon | ampersand | andIf | orIf | pipe | openParen | closeParen
  | doubleSemicolon
  /-- A pipe for both outputs. -/
  | pipeBoth
  /-- Ends an arm of a choice so that the body of the next one runs, or so that its patterns are tried. -/
  | semicolonAmpersand | doubleSemicolonAmpersand
  | redirect (operator : Operator)
  | keyword (keyword : Keyword)
  /-- A word. `hasQuotes` says that some of it was quoted. -/
  | word (parts : Word) (hasQuotes : Bool)

namespace Token

/-- The token's name in messages. -/
def name : Token → Bytes
  | .endOfFile => utf8 "end of file"
  | .newline => utf8 "newline"
  | .semicolon => utf8 "\";\""
  | .ampersand => utf8 "\"&\""
  | .andIf => utf8 "\"&&\""
  | .orIf => utf8 "\"||\""
  | .pipe => utf8 "\"|\""
  | .openParen => utf8 "\"(\""
  | .closeParen => utf8 "\")\""
  | .doubleSemicolon => utf8 "\";;\""
  | .pipeBoth => utf8 "\"|&\""
  | .semicolonAmpersand => utf8 "\";&\""
  | .doubleSemicolonAmpersand => utf8 "\";;&\""
  | .redirect _ => utf8 "redirection"
  | .keyword reserved => utf8 "\"" ++ utf8 reserved.text ++ utf8 "\""
  | .word .. => utf8 "word"

/-- The token as the extended language shows it. `text` is how a word was written. -/
def shown (text : Bytes) : Token → Bytes
  | .endOfFile => utf8 "end of file"
  | .newline => utf8 "newline"
  | .semicolon => utf8 ";"
  | .ampersand => utf8 "&"
  | .andIf => utf8 "&&"
  | .orIf => utf8 "||"
  | .pipe => utf8 "|"
  | .openParen => utf8 "("
  | .closeParen => utf8 ")"
  | .doubleSemicolon => utf8 ";;"
  | .pipeBoth => utf8 "|&"
  | .semicolonAmpersand => utf8 ";&"
  | .doubleSemicolonAmpersand => utf8 ";;&"
  | .redirect operator => operator.shown
  | .keyword reserved => utf8 reserved.text
  | .word .. => text

def isNewline : Token → Bool
  | .newline => true
  | _ => false

def isKeyword (keyword : Keyword) : Token → Bool
  | .keyword other => keyword = other
  | _ => false

/-- Does the token end a list of commands? -/
def endsList : Token → Bool
  | .endOfFile | .closeParen | .doubleSemicolon | .semicolonAmpersand
  | .doubleSemicolonAmpersand => true
  | .keyword reserved => reserved.endsList
  | _ => false

end Token

end CleanLaunch.Shell
