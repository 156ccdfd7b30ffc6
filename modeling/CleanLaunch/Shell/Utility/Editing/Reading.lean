import CleanLaunch.Shell.Utility.Editing.Script
import CleanLaunch.Shell.Utility.Version

/-! How editing scripts are written.

    A script comes in pieces: arguments of the command line or files. The text of a command can go on in
    the next piece. A reader that comes to an error tells how far it has read. -/

namespace CleanLaunch.Shell.Utility.Editing

/-- How the pieces of a script are read. -/
structure Manner where
  extended : Bool := false
  /-- May characters have several bytes? -/
  wide : Bool := false
  isStrict : Bool := false
  /-- Are commands refused that reach files or other programs? -/
  isConfined : Bool := false

/-- Where a piece of a script comes from. -/
inductive Origin
  | argument (number : Nat)
  | file (name : Bytes)

/-- A script that is being read. -/
structure Reading where
  manner : Manner
  rest : Bytes := []
  /-- How much of the piece has been read, and which line of it. -/
  used : Nat := 0
  line : Nat := 1
  origin : Origin := .argument 0
  script : Script := {}
  /-- Groups that have not ended: their steps and where they are. -/
  groups : List (Nat × Origin × Nat) := []
  /-- The step whose text has not ended, and the text. -/
  pending : Option (Nat × Bytes) := none

/-- Why a script is refused: the status to end with, and a message. -/
structure Refusal where
  status : Nat
  message : Bytes

abbrev Reader := ExceptT Refusal (StateM Reading)

/-- The place that has been reached, for messages. -/
def placeOf (origin : Origin) (line used : Nat) : Bytes :=
  match origin with
  | .argument number =>
    utf8 "-e expression #" ++ Bytes.decimal number ++ utf8 ", char " ++ Bytes.decimal used
  | .file name => utf8 "file " ++ name ++ utf8 " line " ++ Bytes.decimal line

def refuseWith {α : Type} (problem : Bytes) : Reader α := do
  let reading ← get
  throw ⟨1, placeOf reading.origin reading.line reading.used ++ utf8 ": " ++ problem⟩

def refuseIt {α : Type} (problem : String) : Reader α := refuseWith (utf8 problem)

/-- Goes on to a rest of the piece. -/
def advanceTo (rest : Bytes) : Reader Unit :=
  modify fun reading =>
    let count := reading.rest.length - rest.length
    let ends := (reading.rest.take count).count 10
    { reading with rest, used := reading.used + count, line := reading.line + ends }

/-- Takes a byte. -/
def next? : Reader (Option UInt8) := do
  match (← get).rest with
  | [] => return none
  | byte :: rest =>
    advanceTo rest
    return some byte

def isBlank (byte : UInt8) : Bool := byte == 32 || byte == 9

def isSpace (byte : UInt8) : Bool := byte == 32 || (9 ≤ byte && byte ≤ 13)

def skipBlanks : Reader Unit := do advanceTo ((← get).rest.dropWhile isBlank)

/-- Skips blanks and takes the byte behind them. -/
def nextVisible? : Reader (Option UInt8) := do
  skipBlanks
  next?

/-- The number at the head of the rest; there may be none, which counts as 0. -/
def number : Reader Nat := do
  let digits := (← get).rest.takeWhile Bytes.isDigit
  advanceTo ((← get).rest.drop digits.length)
  return digits.foldl (fun n byte => n * 10 + Bytes.digitValue byte) 0

/-- Reads what may stand behind a command. -/
def endCommand : Reader Unit := do
  skipBlanks
  match (← get).rest with
  | [] | 125 :: _ | 35 :: _ => pure ()
  | byte :: rest =>
    advanceTo rest
    if byte != 10 && byte != 59 then refuseIt "extra characters after command"

/-- What escapes are read for. -/
inductive Purpose
  | pattern | replacement | text
  deriving DecidableEq

/-- The byte that digits behind a letter stand for, and what is behind them. Without digits that is the
    letter itself. -/
def coded (letter : UInt8) (base most : Nat) (text : Bytes) : UInt8 × Bytes :=
  let value? (byte : UInt8) : Option Nat :=
    let n := if Bytes.isDigit byte then Bytes.digitValue byte
      else if 97 ≤ byte && byte ≤ 102 then byte.toNat - 87
      else if 65 ≤ byte && byte ≤ 70 then byte.toNat - 55
      else 16
    if n < base then some n else none
  let digits := (text.take most).takeWhile fun byte => (value? byte).isSome
  if digits.isEmpty then (letter, text)
  else
    ((digits.foldl (fun n byte => n * base + (value? byte).getD 0) 0).toUInt8, text.drop digits.length)

/-- A text without the escapes that stand for other bytes; none if one of them is refused. Other bytes
    behind a backslash keep it, except in plain texts. -/
def unescaped? (purpose : Purpose) : (bound : Nat) → Bytes → Option Bytes
  | 0, _ | _, [] => some []
  | bound + 1, 92 :: letter :: rest =>
    let goOn (bytes rest : Bytes) : Option Bytes := (bytes ++ ·) <$> unescaped? purpose bound rest
    let ofCode (base most : Nat) : Option Bytes :=
      let (byte, rest) := coded letter base most rest
      let isSpecial := purpose = .replacement && (byte == 38 || byte == 92)
      goOn (if isSpecial then [92, byte] else [byte]) rest
    match Char.ofNat letter.toNat with
    | 'a' => goOn [7] rest
    | 'f' => goOn [12] rest
    | 'n' => goOn [10] rest
    | 'r' => goOn [13] rest
    | 't' => goOn [9] rest
    | 'v' => goOn [11] rest
    | 'd' => ofCode 10 3
    | 'x' => ofCode 16 2
    | 'o' => ofCode 8 3
    | 'c' =>
      match rest with
      | [] => goOn [92, 92] []
      | 92 :: 92 :: rest => goOn [28] rest
      | 92 :: _ => none
      | byte :: rest =>
        let raised := if 97 ≤ byte && byte ≤ 122 then byte - 32 else byte
        goOn [raised ^^^ 64] rest
    | _ => goOn (if purpose = .text then [letter] else [92, letter]) rest
  | bound + 1, byte :: rest => (byte :: ·) <$> unescaped? purpose bound rest

def unescaped (purpose : Purpose) (text : Bytes) : Reader Bytes := do
  match unescaped? purpose (text.length + 1) text with
  | some text => return text
  | none => refuseIt "recursive escaping after \\c not allowed"

/-- Where a pattern stands with its brackets: a delimiter inside them is none. -/
inductive Bracket
  | outside
  /-- Only the opening bracket was read, or a circumflex behind it: a closing one stands for itself. -/
  | opened
  | inside
  /-- A bracket inside was read, which may begin a name. -/
  | maybeNamed
  /-- A name behind a sign, which ends it together with a bracket. -/
  | named (sign : UInt8) (hasSign : Bool)
  deriving DecidableEq

/-- The state behind one more byte. -/
def Bracket.next (byte : UInt8) : Bracket → Bracket
  | .outside => if byte == 91 then .opened else .outside
  | .opened => if byte == 94 then .opened else if byte == 91 then .maybeNamed else .inside
  | .inside => if byte == 93 then .outside else if byte == 91 then .maybeNamed else .inside
  | .maybeNamed =>
    if byte == 58 || byte == 46 || byte == 61 then .named byte false
    else if byte == 93 then .outside
    else if byte == 91 then .maybeNamed
    else .inside
  | .named sign hasSign => if hasSign && byte == 93 then .inside else .named sign (byte == sign)

/-- What stands before a delimiter, and the text behind that. Otherwise the text from where the search
    ended. -/
def delimited (delimiter : UInt8) (isPattern : Bool) :
    (bound : Nat) → Bracket → (before : List UInt8) → Bytes → Except Bytes (Bytes × Bytes)
  | 0, _, _, rest | _, _, _, rest@([]) => .error rest
  | bound + 1, bracket, before, byte :: rest =>
    if byte == 10 then .error (byte :: rest)
    else if byte == delimiter && bracket = .outside then .ok (before.reverse, rest)
    else if byte == 92 then
      match rest with
      | [] => .error []
      | other :: rest =>
        let keepsBackslash := other != 10 && (other != delimiter || (!isPattern && other == 38))
        let before := if isPattern && other == 110 && other != delimiter then 10 :: before
          else if keepsBackslash then other :: 92 :: before
          else other :: before
        let bracket := if bracket = .outside then bracket else (bracket.next 92).next other
        delimited delimiter isPattern bound bracket before rest
    else
      delimited delimiter isPattern bound (if isPattern then bracket.next byte else bracket) (byte :: before)
        rest

/-- Takes what stands before a delimiter, or complains that there is none. -/
def takeDelimited (delimiter : UInt8) (isPattern : Bool) (problem : String) : Reader Bytes := do
  let rest := (← get).rest
  match delimited delimiter isPattern (rest.length + 1) .outside [] rest with
  | .ok (text, rest) =>
    advanceTo rest
    return text
  | .error rest =>
    advanceTo rest
    refuseIt problem

/-- The pattern that a text means; none is the last one. -/
def pattern (text : Bytes) (folds multiline : Bool) : Reader (Option Pattern) := do
  if text.isEmpty then
    if folds || multiline then refuseIt "cannot specify modifiers on empty regexp"
    return none
  let manner := (← get).manner
  let text ← unescaped .pattern text
  let syntax_ : Expression.Syntax := {
    extended := manner.extended, wide := manner.wide, isStrict := true, refusesNames := true }
  match Expression.parse syntax_ text with
  | .error problem => refuseIt problem
  | .ok parsed =>
    return some ⟨parsed.expression, { parsed.look manner.wide folds with multiline }, parsed.groups⟩

/-- Reads the letters behind the pattern of an address: whether it ignores case, and whether it looks at
    lines within the text. -/
def addressFlags : (bound : Nat) → Bool → Bool → Reader (Bool × Bool)
  | 0, folds, multiline => return (folds, multiline)
  | bound + 1, folds, multiline => do
    skipBlanks
    match (← get).rest with
    | 73 :: rest =>
      advanceTo rest
      addressFlags bound true multiline
    | 77 :: rest =>
      advanceTo rest
      addressFlags bound folds true
    | _ => return (folds, multiline)

/-- Reads an address, if there is one. -/
def address? : Reader (Option Finish) := do
  let reading ← get
  let matching (delimiter : UInt8) (rest : Bytes) : Reader (Option Finish) := do
    advanceTo rest
    let text ← takeDelimited delimiter true "unterminated address regex"
    let (folds, multiline) ← addressFlags (text.length + reading.rest.length + 1) false false
    return some (.address (.matching (← pattern text folds multiline)))
  match reading.rest with
  | 47 :: rest => matching 47 rest
  | [92] =>
    advanceTo []
    refuseIt "unterminated address regex"
  | 92 :: delimiter :: rest => matching delimiter rest
  | 36 :: rest =>
    advanceTo rest
    return some (.address .last)
  | 43 :: rest =>
    advanceTo rest
    skipBlanks
    return some (.after (← number))
  | 126 :: rest =>
    advanceTo rest
    skipBlanks
    return some (.multiple (← number))
  | byte :: _ =>
    if !Bytes.isDigit byte then return none
    let first ← number
    skipBlanks
    match (← get).rest with
    | 126 :: rest =>
      advanceTo rest
      skipBlanks
      let distance ← number
      return some (.address (if distance = 0 then .line first else .step first distance))
    | _ => return some (.address (.line first))
  | [] => return none

/-- Reads which lines a command is for. -/
def selection : Reader Selection := do
  let (first, finish) ← do
    match ← address? with
    | none => pure (none, none)
    | some (.address address) =>
      skipBlanks
      let finish ← do
        match (← get).rest with
        | 44 :: rest =>
          advanceTo rest
          skipBlanks
          match ← address? with
          | some finish => pure (some finish)
          | none =>
            -- the byte that begins no address counts as read
            let _ ← next?
            refuseIt "unexpected \x60,'"
        | _ => pure none
      pure (some address, finish)
    | some _ => refuseIt "invalid usage of +N or ~N as first address"
  skipBlanks
  let isForPattern := match finish with
    | some (.address (.matching _)) => true
    | _ => false
  match first with
  | some (.line 0) =>
    if !isForPattern then
      let _ ← next?
      refuseIt "invalid usage of line address 0"
  | _ => pure ()
  match (← get).rest with
  | 33 :: rest =>
    advanceTo rest
    skipBlanks
    match (← get).rest with
    | 33 :: rest =>
      advanceTo rest
      refuseIt "multiple \x60!'s"
    | _ => pure ()
    return { first, finish, isNegated := true }
  | _ => return { first, finish }

/-- The pieces of a replacement: `before` has been read of the next one, the last byte first. -/
def piecesOf : Bytes → (before : Bytes) → (casing first : Casing) → List Piece
  | [], before, casing, first =>
    if before.isEmpty then [] else [{ text := before.reverse, casing, first }]
  | 38 :: rest, before, casing, first =>
    { text := before.reverse, group := some 0, casing, first } :: piecesOf rest [] casing .kept
  | [92], before, casing, first => [{ text := (92 :: before).reverse, casing, first }]
  | 92 :: letter :: rest, before, casing, first =>
    let piece : Piece := { text := before.reverse, casing, first }
    match Char.ofNat letter.toNat with
    | 'L' => piece :: piecesOf rest [] .lowered .kept
    | 'U' => piece :: piecesOf rest [] .raised .kept
    | 'E' => piece :: piecesOf rest [] .kept .kept
    | 'l' => piece :: piecesOf rest [] casing .lowered
    | 'u' => piece :: piecesOf rest [] casing .raised
    | _ =>
      if Bytes.isDigit letter then
        { piece with group := some (Bytes.digitValue letter) } :: piecesOf rest [] casing .kept
      else
        -- such a byte stands for itself at the end of its piece
        { piece with text := piece.text ++ [letter] } :: piecesOf rest [] casing .kept
  | byte :: rest, before, casing, first => piecesOf rest (byte :: before) casing first

/-- Takes the rest of a line as the name of a file. -/
def fileName : Reader Bytes := do
  skipBlanks
  let name := (← get).rest.takeWhile (· != 10)
  advanceTo ((← get).rest.drop (name.length + 1))
  if name.isEmpty then refuseIt "missing filename in r/R/w/W commands"
  return name

/-- Takes the name of a file that is written. -/
def sink : Reader Sink := do
  let name ← fileName
  if name = utf8 "/dev/stdout" then return .standard
  if name = utf8 "/dev/stderr" then return .problems
  let files := (← get).script.files
  match files.findIdx? (· = name) with
  | some index => return .file index
  | none =>
    modify fun reading => { reading with script := { reading.script with files := files ++ [name] } }
    return .file files.length

/-- What the letters behind a substitution say. -/
structure Letters where
  folds : Bool := false
  multiline : Bool := false
  substitution : Substitution
  hasNumber : Bool := false

/-- Reads the letters behind a substitution. -/
def substitutionFlags : (bound : Nat) → Letters → Reader Letters
  | 0, flags => return flags
  | bound + 1, flags => do
    let substitution := flags.substitution
    match (← get).rest with
    | [] | 125 :: _ | 35 :: _ => return flags
    | byte :: rest =>
      advanceTo rest
      match Char.ofNat byte.toNat with
      | 'i' | 'I' => substitutionFlags bound { flags with folds := true }
      | 'm' | 'M' => substitutionFlags bound { flags with multiline := true }
      | 'e' => substitutionFlags bound { flags with substitution := { substitution with isRun := true } }
      | 'p' =>
        if substitution.prints || substitution.printsBefore then
          refuseIt "multiple \x60p' options to \x60s' command"
        let substitution := if substitution.isRun then { substitution with prints := true }
          else { substitution with printsBefore := true }
        substitutionFlags bound { flags with substitution }
      | 'g' =>
        if substitution.isGlobal then refuseIt "multiple \x60g' options to \x60s' command"
        substitutionFlags bound { flags with substitution := { substitution with isGlobal := true } }
      | 'w' => return { flags with substitution := { substitution with sink := some (← sink) } }
      | '\n' | ';' => return flags
      | ' ' | '\t' => substitutionFlags bound flags
      | '\r' =>
        match (← get).rest with
        | 10 :: rest =>
          advanceTo rest
          return flags
        | _ =>
          let _ ← next?
          refuseIt "unknown option to \x60s'"
      | letter =>
        if !letter.isDigit then refuseIt "unknown option to \x60s'"
        if flags.hasNumber then refuseIt "multiple number options to \x60s' command"
        modify fun reading => { reading with rest := byte :: rest, used := reading.used - 1 }
        let occurrence ← number
        if occurrence = 0 then refuseIt "number option to \x60s' command may not be zero"
        substitutionFlags bound { flags with
          hasNumber := true, substitution := { substitution with occurrence } }

/-- Reads a substitution, from behind its letter on. -/
def substitution : Reader Command := do
  let problem := "unterminated \x60s' command"
  match ← next? with
  | none => refuseIt problem
  | some delimiter =>
    let text ← takeDelimited delimiter true problem
    let replacement ← takeDelimited delimiter false problem
    let pieces := piecesOf (← unescaped .replacement replacement) [] .kept .kept
    let start : Letters := { substitution := { pattern := none, pieces } }
    let flags ← substitutionFlags ((← get).rest.length + 1) start
    let pattern ← pattern text flags.folds flags.multiline
    let most := (pieces.filterMap (·.group)).foldl max 0
    match pattern with
    | some pattern =>
      if pattern.groups < most then
        refuseWith (utf8 "invalid reference \\" ++ Bytes.decimal most ++
          utf8 " on \x60s' command's RHS")
    | none => pure ()
    let substitution := { flags.substitution with pattern }
    -- what is printed before a command runs that there is none of is the result
    let isPrinted := substitution.printsBefore && !substitution.isRun
    return .substitute { substitution with
      printsBefore := substitution.printsBefore && !isPrinted
      prints := substitution.prints || isPrinted }

/-- Reads the characters that replace others, from behind the letter of the command on. -/
def translation : Reader Command := do
  let problem := "unterminated \x60y' command"
  match ← next? with
  | none => refuseIt problem
  | some delimiter =>
    let wide := (← get).manner.wide
    let characters (text : Bytes) : Reader (List Bytes) :=
      return Character.pieces wide (← unescaped .text text)
    let source ← characters (← takeDelimited delimiter false problem)
    let target ← characters (← takeDelimited delimiter false problem)
    if source.length ≠ target.length then
      refuseIt "strings for \x60y' command are different lengths"
    endCommand
    return .translate (source.zip target).reverse

/-- Reads a label. -/
def label : Reader Bytes := do
  skipBlanks
  let name := (← get).rest.takeWhile fun byte => !isSpace byte && byte != 59 && byte != 125
  advanceTo ((← get).rest.drop name.length)
  return name

/-- How a text of a command ends. -/
inductive TextEnd
  | complete (rest : Bytes)
  /-- With the piece, behind a backslash: it goes on in the next one. -/
  | open_

/-- The text up to a line's end that has no backslash, the last byte first, and how it ends. -/
def textFrom : Bytes → (before : Bytes) → Bytes × TextEnd
  | [], before => (10 :: before, .complete [])
  | [92], before => (10 :: before, .open_)
  | 92 :: byte :: rest, before => textFrom rest (byte :: 92 :: before)
  | 10 :: rest, before => (10 :: before, .complete rest)
  | byte :: rest, before => textFrom rest (byte :: before)

/-- Reads a text behind what there is of it already. The result tells whether it goes on in the next piece. -/
def text (before : Bytes) : Reader (Bytes × Bool) := do
  match textFrom (← get).rest before.reverse with
  | (text, .complete rest) =>
    advanceTo rest
    return (text.reverse, false)
  | (text, .open_) =>
    advanceTo []
    return (text.reverse, true)

/-- Gives the command of a step its text. -/
def Command.withText (command : Command) (text : Bytes) : Command :=
  match command with
  | .append _ => .append text
  | .insert _ => .insert text
  | .change _ => .change text
  | .run _ => .run text
  | command => command

/-- Adds a step to the script. -/
def addStep (selection : Selection) (command : Command) : Reader Unit :=
  modify fun reading => { reading with
    script := { reading.script with steps := reading.script.steps.push ⟨selection, command⟩ } }

/-- Gives a step its text, which is no longer pending then. -/
def setText (index : Nat) (raw : Bytes) : Reader Unit := do
  let text ← unescaped .text raw
  modify fun reading =>
    let change (step : Step) : Step := { step with command := step.command.withText text }
    { reading with
      pending := none, script := { reading.script with steps := reading.script.steps.modify index change } }

/-- Reads the text of a step, behind what there is of it already. -/
def textOf (index : Nat) (before : Bytes) : Reader Unit := do
  let (raw, goesOn) ← text before
  setText index raw
  if goesOn then modify fun reading => { reading with pending := some (index, raw) }

/-- Reads a command with a text, from behind its letter on. -/
def textCommand (selection : Selection) (command : Command) : Reader Unit := do
  let index := (← get).script.steps.size
  addStep selection command
  skipBlanks
  match (← get).rest with
  | [] => refuseIt "expected \\ after \x60a', \x60c' or \x60i'"
  | [92] =>
    advanceTo []
    modify fun reading => { reading with pending := some (index, []) }
  | 92 :: 10 :: rest =>
    advanceTo rest
    if rest.isEmpty then setText index [10] else textOf index []
  | 92 :: rest =>
    if (← get).manner.isStrict then refuseIt "expected \\ after \x60a', \x60c' or \x60i'"
    advanceTo rest
    -- blanks before the end of a line make no text
    match rest.dropWhile isBlank with
    | 10 :: rest =>
      advanceTo rest
      textOf index []
    | _ => textOf index []
  | _ :: rest =>
    if (← get).manner.isStrict then
      advanceTo rest
      refuseIt "expected \\ after \x60a', \x60c' or \x60i'"
    textOf index []

/-- Commands that are not there where scripts are read strictly. -/
def lenientLetters : Bytes := utf8 "eFvzLQTRW"

/-- Commands that are for one line at most. -/
def singleLetters (manner : Manner) : Bytes := utf8 (if manner.isStrict then "qQail=r" else "qQ")

/-- Reads a command, from behind its letter on. -/
def command (selection : Selection) (letter : UInt8) : Reader Unit := do
  let manner := (← get).manner
  let unknown : Reader Unit := refuseWith (utf8 "unknown command: \x60" ++ [letter] ++ utf8 "'")
  if manner.isStrict && lenientLetters.contains letter then unknown
  if (singleLetters manner).contains letter && selection.finish.isSome then
    refuseIt "command only uses one address"
  if manner.isConfined && (utf8 "erRwW").contains letter then
    refuseIt "e/r/w commands disabled in sandbox mode"
  let plain (command : Command) : Reader Unit := do
    endCommand
    addStep selection command
  match Char.ofNat letter.toNat with
  | '#' =>
    if selection.first.isSome then refuseIt "comments don't accept any addresses"
    advanceTo (((← get).rest.dropWhile (· != 10)).drop 1)
  | 'v' =>
    let version ← label
    if Version.compareAll version (utf8 "4.9") == .gt then refuseIt "expected newer version of sed"
  | '{' =>
    let reading ← get
    addStep selection (.group 0)
    set { (← get) with groups := (reading.script.steps.size, reading.origin, reading.line) :: reading.groups }
  | '}' =>
    match (← get).groups with
    | [] => refuseIt "unexpected \x60\x7d'"
    | (index, _) :: groups =>
      if selection.first.isSome then refuseIt "\x60\x7d' doesn't want any addresses"
      endCommand
      addStep {} .mark
      modify fun reading =>
        let script := reading.script
        let close (step : Step) : Step := { step with command := .group script.steps.size }
        { reading with groups, script := { script with steps := script.steps.modify index close } }
  | 'e' =>
    skipBlanks
    match (← get).rest with
    | [] => addStep selection (.run [])
    | 10 :: rest =>
      advanceTo rest
      addStep selection (.run [])
    | _ =>
      let index := (← get).script.steps.size
      addStep selection (.run [])
      textOf index []
  | 'a' => textCommand selection (.append [])
  | 'i' => textCommand selection (.insert [])
  | 'c' => textCommand selection (.change [])
  | ':' =>
    if selection.first.isSome then refuseIt ": doesn't want any addresses"
    let name ← label
    if name.isEmpty then refuseIt "\":\" lacks a label"
    modify fun reading => { reading with
      script := { reading.script with labels := reading.script.labels ++ [(name, reading.script.steps.size)] } }
    addStep {} .mark
  | 'b' => addStep selection (.jump .always (← label))
  | 't' => addStep selection (.jump .replaced (← label))
  | 'T' => addStep selection (.jump .notReplaced (← label))
  | 'q' | 'Q' =>
    skipBlanks
    plain (.quit (← number) (letter == 113))
  | 'l' =>
    skipBlanks
    if ((← get).rest.head?).any Bytes.isDigit then plain (.list (some (← number)))
    else plain (.list none)
  | '=' => plain .number
  | 'd' => plain .delete
  | 'D' => plain .deleteFirst
  | 'F' => plain .fileName
  | 'g' => plain .getHeld
  | 'G' => plain .appendHeld
  | 'h' => plain .hold
  | 'H' => plain .holdMore
  | 'n' => plain .next
  | 'N' => plain .appendNext
  | 'p' => plain .print
  | 'P' => plain .printFirst
  | 'z' => plain .clear
  | 'x' => plain .exchange
  | 'r' => addStep selection (.readFile (← fileName))
  | 'R' => addStep selection (.readLine (← fileName))
  | 'w' => addStep selection (.write (← sink))
  | 'W' => addStep selection (.writeFirst (← sink))
  | 's' => addStep selection (← substitution)
  | 'y' => addStep selection (← translation)
  | _ => unknown

/-- Reads the commands of a piece. -/
def commands : (bound : Nat) → Reader Unit
  | 0 => return
  | bound + 1 => do
    advanceTo ((← get).rest.dropWhile fun byte => isSpace byte || byte == 59)
    if (← get).rest.isEmpty then return
    let selection ← selection
    match ← nextVisible? with
    | none => refuseIt "missing command"
    | some letter =>
      command selection letter
      commands bound

/-- Reads a piece of a script. `isFirst` says that nothing was read before. -/
def piece (origin : Origin) (isFirst : Bool) (content : Bytes) : Reader Unit := do
  modify fun reading => { reading with rest := content, used := 0, line := 1, origin }
  if isFirst && (utf8 "#n").isPrefixOf content then
    modify fun reading => { reading with script := { reading.script with isQuiet := true } }
  match (← get).pending with
  | some (index, raw) => textOf index raw
  | none => pure ()
  commands (content.length + 1)

/-- Completes a script whose pieces have been read. -/
def conclude : Reader Script := do
  match (← get).pending with
  | some (index, raw) => setText index raw
  | none => pure ()
  let reading ← get
  match reading.groups with
  | (_, origin, line) :: _ => throw ⟨1, placeOf origin line 0 ++ utf8 ": unmatched \x60\x7b'"⟩
  | [] => pure ()
  let script := reading.script
  for step in script.steps do
    match step.command with
    | .jump _ label =>
      if !label.isEmpty && (script.labels.lookup label).isNone then
        throw ⟨4, utf8 "can't find label for jump to \x60" ++ label ++ utf8 "'"⟩
    | _ => pure ()
  return { script with place := placeOf reading.origin reading.line 0 }

end CleanLaunch.Shell.Utility.Editing
