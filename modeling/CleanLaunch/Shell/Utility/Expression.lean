import CleanLaunch.Shell.Utility.Regular

/-! How regular expressions are written.

    A pattern is basic, where operators have a backslash, or extended; utilities differ in what they make of
    operators that have nothing to work on. `Expression.parse` gives the expression that a pattern means,
    with the number of its groups and what is strange about it. -/

namespace CleanLaunch.Shell

namespace Expression

/-- How patterns are written. -/
structure Syntax where
  extended : Bool := false
  /-- May characters have several bytes? -/
  wide : Bool := false
  /-- Are operators with nothing to work on an error? Otherwise they stand for themselves or nothing. -/
  isStrict : Bool := false
  /-- May a parenthesis that closes nothing stand for itself? -/
  allowsClosing : Bool := false
  /-- May a range in brackets have nothing in it? -/
  allowsEmptyRanges : Bool := false
  /-- Is a set that looks like the name of a class an error? -/
  refusesNames : Bool := false
  /-- Are `+` and `?` operators in basic patterns too, and are there no intervals? -/
  hasBareSigns : Bool := false
  /-- Are there the groups, classes and repetitions of the language Perl? -/
  isPerl : Bool := false

/-- What makes a pattern invalid. -/
abbrev Problem := String

/-- A pattern that is being read. -/
structure Reading where
  rest : Bytes
  /-- How many groups have begun, and those that have ended. -/
  groups : Nat := 0
  ended : List Nat := []
  /-- Groups whose match is matched again. -/
  referenced : List Nat := []
  /-- How many groups have not ended. -/
  depth : Nat := 0
  /-- What is strange in the pattern, last one first. -/
  warnings : List Bytes := []

abbrev Reader := StateT Reading (Except Problem)

def warn (text : Bytes) : Reader Unit :=
  modify fun reading => { reading with warnings := text :: reading.warnings }

/-- The character at the head of a text, with the text behind it. -/
def character? (wide : Bool) (text : Bytes) : Option (Nat × Bytes) :=
  (Character.first? wide text).map fun (code, length) => (code, text.drop length)

/-- An end of a range in brackets: a character, perhaps between points or equality signs. -/
def bracketCharacter? (wide : Bool) (text : Bytes) : Option (Nat × Bytes) :=
  match text with
  | 91 :: mark :: rest =>
    if mark == 46 || mark == 61 then
      match character? wide rest with
      | some (code, after) => if [mark, 93].isPrefixOf after then some (code, after.drop 2) else none
      | none => none
    else some (91, mark :: rest)
  | _ => character? wide text

def unmatchedBracket : Problem := "Unmatched [, [^, [:, [., or [="

/-- What a letter behind a backslash stands for in a set of the language Perl. -/
def perlMember (set : CharacterSet) (letter : UInt8) : CharacterSet :=
  let ofClass (name : String) (isNegated : Bool) : CharacterSet :=
    { set with classes := (Character.class? (utf8 name)).toList.map (fun has code => has code != isNegated) ++
        set.classes }
  let ofCode (code : Nat) : CharacterSet := { set with ranges := (code, code) :: set.ranges }
  match Char.ofNat letter.toNat with
  | 'd' => ofClass "digit" false
  | 'D' => ofClass "digit" true
  | 's' => ofClass "space" false
  | 'S' => ofClass "space" true
  | 'w' => { set with classes := Character.isWord :: set.classes }
  | 'W' => { set with classes := (fun code => !Character.isWord code) :: set.classes }
  | 'n' => ofCode 10
  | 't' => ofCode 9
  | 'r' => ofCode 13
  | 'f' => ofCode 12
  | 'e' => ofCode 27
  | 'a' => ofCode 7
  | 'b' => ofCode 8
  | _ => ofCode letter.toNat

/-- Members of a set in brackets, from behind its opening bracket and its circumflex on. -/
def members (syntax_ : Syntax) : (bound : Nat) → (isFirst : Bool) → CharacterSet → Bytes →
    Except Problem (CharacterSet × Bytes)
  | 0, _, _, _ | _, _, _, [] => .error unmatchedBracket
  | bound + 1, isFirst, set, byte :: rest =>
    let add (low high : Nat) (rest : Bytes) : Except Problem (CharacterSet × Bytes) :=
      members syntax_ bound false { set with ranges := (low, high) :: set.ranges } rest
    if byte == 93 && !isFirst then .ok (set, rest)
    else if syntax_.isPerl && byte == 92 then
      match rest with
      | [] => .error unmatchedBracket
      | letter :: rest => members syntax_ bound false (perlMember set letter) rest
    else if byte == 91 && rest.head? == some 58 then
      let name := (rest.drop 1).takeWhile fun other => Bytes.isDigit other || (97 ≤ other && other ≤ 122) ||
        (65 ≤ other && other ≤ 90)
      let after := rest.drop (name.length + 1)
      if !(utf8 ":]").isPrefixOf after then
        if (rest.drop 1).contains 93 then add 91 91 rest else .error unmatchedBracket
      else match Character.class? name with
        | some has => members syntax_ bound false { set with classes := has :: set.classes } (after.drop 2)
        | none => .error "Invalid character class name"
    else match bracketCharacter? syntax_.wide (byte :: rest) with
      | none =>
        .error (if byte == 91 && rest.contains 93 then "Invalid collation character" else unmatchedBracket)
      | some (low, after) =>
        match after with
        | 45 :: 93 :: _ => add low low after
        | 45 :: more =>
          match bracketCharacter? syntax_.wide more with
          | none => .error unmatchedBracket
          | some (high, after) =>
            if high < low && !syntax_.allowsEmptyRanges then .error "Invalid range end" else add low high after
        | _ => add low low after

/-- The set in brackets whose opening bracket is before a text, and the text behind it. -/
def bracket (syntax_ : Syntax) (text : Bytes) : Except Problem (CharacterSet × Bytes) := do
  let isNegated := text.head? == some 94
  let content := if isNegated then text.drop 1 else text
  if content.isEmpty then throw (if syntax_.isPerl then "missing terminating ] for character class"
    else "Invalid regular expression")
  let (set, rest) ← members syntax_ (content.length + 1) true { isNegated } content
  let shown := content.take (content.length - rest.length - 1)
  if syntax_.refusesNames && 2 < shown.length && !isNegated && shown.head? == some 58 &&
      shown.getLast? == some 58 && set.classes.isEmpty then
    throw "character class syntax is [[:space:]], not [:space:]"
  return (set, rest)

/-- The most rounds that a pattern may ask for. -/
def maxRounds : Nat := 32767

/-- A number in an interval. -/
inductive Bound
  | missing
  | number (n : Nat)
  | invalid

/-- What an interval in braces is. -/
inductive Interval
  | valid (least : Nat) (most : Option Nat) (rest : Bytes)
  /-- It is none, and can stand for itself. -/
  | none
  | invalid (problem : Problem)

/-- What stands before the comma or the brace that ends a number, and the text from there on. -/
def upToBound (extended : Bool) (text : Bytes) : Bytes × Bytes :=
  let isEnd (text : Bytes) : Bool :=
    text.head? == some 44 ||
      (if extended then text.head? == some 125 else (utf8 "\\\x7d").isPrefixOf text)
  let size := ((List.range text.length).find? fun n => isEnd (text.drop n)).getD text.length
  (text.take size, text.drop size)

/-- The numbers of an interval, behind its opening brace. -/
def interval (syntax_ : Syntax) (text : Bytes) : Interval :=
  let bound (text : Bytes) : Bound :=
    if text.isEmpty then .missing
    else if text.all Bytes.isDigit then
      .number (min (maxRounds + 1) (text.foldl (fun n byte => n * 10 + Bytes.digitValue byte) 0))
    else .invalid
  let malformed (rest : Bytes) : Interval :=
    if syntax_.extended && !syntax_.isStrict then .none
    else .invalid (if rest.isEmpty then "Unmatched \\\x7b" else "Invalid content of \\\x7b\\\x7d")
  let closing := if syntax_.extended then 1 else 2
  let close (least : Nat) (most : Option Nat) (rest : Bytes) : Interval :=
    if rest.isEmpty then malformed rest
    else if rest.head? == some 44 || most.any (· < least) then .invalid "Invalid content of \\\x7b\\\x7d"
    else if maxRounds < most.getD least then .invalid "Regular expression too big"
    else .valid least most (rest.drop closing)
  let (first, rest) := upToBound syntax_.extended text
  match bound first, rest with
  | .invalid, rest => malformed rest
  | .missing, 44 :: more | .number _, 44 :: more =>
    let least := if first.isEmpty then 0 else match bound first with
      | .number n => n
      | _ => 0
    let (last, rest) := upToBound syntax_.extended more
    match bound last with
    | .invalid => malformed rest
    | .missing => close least Option.none rest
    | .number n => close least (some n) rest
  | .missing, [] => malformed []
  | .missing, _ => .invalid "Invalid content of \\\x7b\\\x7d"
  | .number n, rest => close n (some n) rest

/-- The operator at the head of a text: its letter as extended expressions write it, and the text behind
    it. -/
def operator? (syntax_ : Syntax) (text : Bytes) : Option (UInt8 × Bytes) :=
  let among (signs : String) (byte : UInt8) (rest : Bytes) : Option (UInt8 × Bytes) :=
    if (utf8 signs).contains byte then some (byte, rest) else none
  match text with
  | [] => none
  | 42 :: rest => some (42, rest)
  | byte :: rest =>
    if syntax_.extended then among "()\x7b|+?" byte rest
    else match byte, rest with
      | 92, letter :: rest => among (if syntax_.hasBareSigns then "()|" else "()\x7b|+?") letter rest
      | byte, rest => if syntax_.hasBareSigns then among "+?" byte rest else none

/-- The repetition at the head of a text, and the text behind it. -/
def repetition? (syntax_ : Syntax) (text : Bytes) : Except Problem (Option (Nat × Option Nat × Bytes)) :=
  match operator? syntax_ text with
  | some (42, rest) => .ok (some (0, none, rest))
  | some (43, rest) => .ok (some (1, none, rest))
  | some (63, rest) => .ok (some (0, some 1, rest))
  | some (123, rest) =>
    match interval syntax_ rest with
    | .valid least most rest => .ok (some (least, most, rest))
    | .none => .ok none
    | .invalid problem => .error problem
  | _ => .ok none

/-- Applies the repetitions at the head of the rest to an expression. -/
def repetitions (syntax_ : Syntax) : (bound : Nat) → Regular → Reader Regular
  | 0, expression => return expression
  | bound + 1, expression => do
    match ← (repetition? syntax_ (← get).rest : Except Problem _) with
    | none => return expression
    | some (least, most, rest) =>
      let isLazy := syntax_.isPerl && rest.head? == some 63
      let rest := if syntax_.isPerl && (rest.head? == some 63 || rest.head? == some 43) then rest.drop 1 else rest
      modify fun reading => { reading with rest }
      let repeats := match operator? syntax_ rest with
        | some (letter, _) => letter == 42 || letter == 123
        | none => false
      if syntax_.isStrict && !syntax_.extended && repeats then throw "Invalid preceding regular expression"
      repetitions syntax_ bound (.repeated expression least most !isLazy)

def ofClass (name : String) (isNegated : Bool) : Regular :=
  .oneOf { classes := (Character.class? (utf8 name)).toList, isNegated }

def ofCode (code : Nat) : Regular := .oneOf { ranges := [(code, code)] }

/-- What a letter behind a backslash stands for, if it is an operator. -/
inductive Escaped
  | anchor (expression : Regular)
  | part (expression : Regular)
  | none

/-- What a letter behind a backslash stands for. -/
def escaped (syntax_ : Syntax) (letter : UInt8) : Escaped :=
  let perl (expression : Regular) : Escaped := if syntax_.isPerl then .part expression else .none
  match Char.ofNat letter.toNat with
  | 'w' => .part (.oneOf { classes := [Character.isWord] })
  | 'W' => .part (.oneOf { classes := [Character.isWord], isNegated := true })
  | 's' => .part (ofClass "space" false)
  | 'S' => .part (ofClass "space" true)
  | 'b' => .anchor (.border true true)
  | 'B' => .anchor .noBorder
  | '<' => if syntax_.isPerl then .none else .anchor (.border true false)
  | '>' => if syntax_.isPerl then .none else .anchor (.border false true)
  | '\x60' => if syntax_.isPerl then .none else .anchor .textStart
  | '\'' => if syntax_.isPerl then .none else .anchor .textEnd
  | 'A' => if syntax_.isPerl then .anchor .textStart else .none
  | 'z' | 'Z' => if syntax_.isPerl then .anchor .textEnd else .none
  | 'd' => perl (ofClass "digit" false)
  | 'D' => perl (ofClass "digit" true)
  | 'h' => perl (ofClass "blank" false)
  | 'H' => perl (ofClass "blank" true)
  | 'N' => perl (.oneOf { ranges := [(10, 10)], isNegated := true })
  | 'K' => perl .restart
  | 'n' => perl (ofCode 10)
  | 't' => perl (ofCode 9)
  | 'r' => perl (ofCode 13)
  | 'f' => perl (ofCode 12)
  | 'a' => perl (ofCode 7)
  | 'e' => perl (ofCode 27)
  | _ => .none

/-- Is there nothing before a place that an operator could work on? -/
inductive Before
  | start
  | anchor
  | something
  deriving DecidableEq

/-- What the group that begins behind a parenthesis and a question mark does, and the text of its body. -/
inductive Special
  /-- It groups alone. -/
  | plain
  | ahead (isNegated : Bool)
  | behind (isNegated : Bool)

/-- What stands behind a parenthesis and a question mark. -/
def special? (text : Bytes) : Option (Special × Bytes) :=
  match text with
  | 58 :: rest | 62 :: rest => some (.plain, rest)
  | 61 :: rest => some (.ahead false, rest)
  | 33 :: rest => some (.ahead true, rest)
  | 60 :: 61 :: rest => some (.behind false, rest)
  | 60 :: 33 :: rest => some (.behind true, rest)
  | _ => none

mutual

/-- Alternatives up to the end of a group. -/
def alternatives (syntax_ : Syntax) : (bound : Nat) → Reader Regular
  | 0 => return .empty
  | bound + 1 => do
    let first ← branch syntax_ bound .start .empty
    match operator? syntax_ (← get).rest with
    | some (124, rest) =>
      modify fun reading => { reading with rest }
      return .either first (← alternatives syntax_ bound)
    | _ => return first

/-- One alternative, of which a part has been read. -/
def branch (syntax_ : Syntax) : (bound : Nat) → Before → Regular → Reader Regular
  | 0, _, expression => return expression
  | bound + 1, before, expression => do
    let reading ← get
    let extended := syntax_.extended
    let goOn (part : Regular) (rest : Bytes) : Reader Regular := do
      modify fun reading => { reading with rest }
      let part ← repetitions syntax_ bound part
      branch syntax_ bound .something (.sequence expression part)
    let anchor (part : Regular) (rest : Bytes) : Reader Regular := do
      modify fun reading => { reading with rest }
      branch syntax_ bound .anchor (.sequence expression part)
    let character (text : Bytes) : Reader Regular :=
      match character? syntax_.wide text with
      | some (code, rest) => goOn (ofCode code) rest
      | none => return expression
    match operator? syntax_ reading.rest, reading.rest with
    | _, [] => return expression
    | some (124, _), _ => return expression
    | some (41, rest), _ =>
      if reading.depth ≠ 0 then return expression
      else if syntax_.allowsClosing then goOn (ofCode 41) rest
      else throw (if syntax_.isPerl then "unmatched closing parenthesis" else "Unmatched ) or \\)")
    | some (40, rest), _ => group syntax_ bound rest goOn
    | some (letter, rest), byte :: literal =>
      -- behind something there can only be what is left of an interval that is none
      if before = .something then goOn (ofCode letter.toNat) rest
      else if !extended then
        if letter == 42 then goOn (ofCode byte.toNat) literal
        else if letter == 123 && syntax_.isStrict then throw "Invalid preceding regular expression"
        else goOn (ofCode letter.toNat) rest
      else if syntax_.isStrict then throw "Invalid preceding regular expression"
      else if syntax_.isPerl && letter != 123 then throw "quantifier does not follow a repeatable item"
      else
        match ← (repetition? syntax_ reading.rest : Except Problem _) with
        | none => goOn (ofCode letter.toNat) rest
        | some (_, _, rest) =>
          let shown := if letter == 123 then utf8 "\x7b...\x7d" else [letter]
          warn (shown ++ utf8 " at start of expression")
          modify fun reading => { reading with rest }
          branch syntax_ bound before expression
    | none, 46 :: rest =>
      let excluded := if syntax_.isPerl then 10 else 0
      goOn (.oneOf { ranges := [(excluded, excluded)], isNegated := true }) rest
    | none, 91 :: rest =>
      let (set, rest) ← (bracket syntax_ rest : Except Problem _)
      goOn (.oneOf set) rest
    | none, 94 :: rest =>
      if extended || before ≠ .something then anchor .lineStart rest else goOn (ofCode 94) rest
    | none, 36 :: rest =>
      let isLast := rest.isEmpty || (utf8 "\\)").isPrefixOf rest || (utf8 "\\|").isPrefixOf rest
      if extended || isLast then anchor .lineEnd rest else goOn (ofCode 36) rest
    | none, [92] =>
      throw (if syntax_.isPerl then "\\ at end of pattern" else "Trailing backslash")
    | none, 92 :: letter :: rest =>
      match escaped syntax_ letter with
      | .anchor part => anchor part rest
      | .part part => goOn part rest
      | .none =>
        if 49 ≤ letter && letter ≤ 57 then
          let number := Bytes.digitValue letter
          if reading.ended.contains number then
            modify fun reading => { reading with referenced := number :: reading.referenced }
            goOn (.again number) rest
          else throw (if syntax_.isPerl then "reference to non-existent subpattern" else "Invalid back reference")
        else character (letter :: rest)
    | none, text => character text

/-- A group, from behind its opening parenthesis on, and what is behind it. -/
def group (syntax_ : Syntax) : (bound : Nat) → Bytes → (Regular → Bytes → Reader Regular) → Reader Regular
  | 0, _, _ => return .empty
  | bound + 1, rest, goOn => do
    let special := if syntax_.isPerl && rest.head? == some 63 then special? (rest.drop 1) else none
    let number := (← get).groups + (if special.isSome then 0 else 1)
    let text := match special with
      | some (_, text) => text
      | none => rest
    modify fun reading => { reading with rest := text, groups := number, depth := reading.depth + 1 }
    let body ← alternatives syntax_ bound
    match operator? syntax_ (← get).rest with
    | some (41, rest) =>
      modify fun reading => { reading with depth := reading.depth - 1 }
      match special with
      | some (.plain, _) => goOn body rest
      | some (.ahead isNegated, _) => goOn (.ahead isNegated body) rest
      | some (.behind isNegated, _) => goOn (.behind isNegated body) rest
      | none =>
        modify fun reading => { reading with ended := number :: reading.ended }
        goOn (.group number body) rest
    | _ => throw (if syntax_.isPerl then "missing closing parenthesis" else "Unmatched ( or \\(")

end

/-- What a pattern means. -/
structure Parsed where
  expression : Regular
  groups : Nat
  /-- Groups whose match is matched again. -/
  referenced : List Nat
  /-- What is strange about the pattern. -/
  warnings : List Bytes

/-- Reads a pattern. -/
def parse (syntax_ : Syntax) (pattern : Bytes) : Except Problem Parsed := do
  let (expression, reading) ← (alternatives syntax_ (4 * pattern.length + 4)).run { rest := pattern }
  return ⟨expression, reading.groups, reading.referenced.eraseDups, reading.warnings.reverse⟩

/-- How texts are looked at that a pattern is searched for in. -/
def Parsed.look (parsed : Parsed) (wide folds : Bool) : Regular.Look :=
  { wide, folds, referenced := parsed.referenced }

end Expression

end CleanLaunch.Shell
