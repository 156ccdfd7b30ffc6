import CleanLaunch.Shell.Utility.Amount
import CleanLaunch.Shell.Utility.Input

/-! The utilities that break lines: `fold`, which cuts them where they are too long, and `fmt`, which fills
    paragraphs so that all lines are about equally long. -/

namespace CleanLaunch.Shell.Utility

open Shell.Action

namespace Folding

/-- How lines are folded. -/
structure Fold where
  width : Nat
  inBytes : Bool
  atBlanks : Bool

/-- The column behind a byte. -/
def column (fold : Fold) (before : Nat) (byte : UInt8) : Nat :=
  if fold.inBytes then before + 1
  else if byte == 8 then before - 1
  else if byte == 13 then 0
  else if byte == 9 then before + (8 - before % 8)
  else before + 1

/-- The line that is being filled, last byte first. -/
structure Progress where
  line : Bytes := []
  column : Nat := 0
  shown : List Bytes := []

def isBlank (byte : UInt8) : Bool := byte == 32 || byte == 9

/-- Puts a byte on the line, or on a new one if it does not fit. -/
def put (fold : Fold) (byte : UInt8) : (bound : Nat) → Progress → Progress
  | 0, progress => progress
  | bound + 1, progress =>
    let column := column fold progress.column byte
    let rest := progress.line.takeWhile (!isBlank ·)
    if column ≤ fold.width then { progress with line := byte :: progress.line, column }
    else if fold.atBlanks && rest.length < progress.line.length then
      let done := (progress.line.drop rest.length).reverse
      put fold byte bound { progress with
        line := rest, shown := (done ++ [10]) :: progress.shown
        column := rest.reverse.foldl (Folding.column fold) 0 }
    else if progress.line.isEmpty then { progress with line := [byte], column }
    else put fold byte bound { progress with
      line := [], column := 0, shown := (progress.line.reverse ++ [10]) :: progress.shown }

def step (fold : Fold) (progress : Progress) (byte : UInt8) : Progress :=
  if byte == 10 then { shown := (progress.line.reverse ++ [10]) :: progress.shown }
  else put fold byte (progress.line.length + 2) progress

def text (fold : Fold) (text : Bytes) : Bytes :=
  let last := text.foldl (step fold) {}
  (last.line.reverse :: last.shown).reverse.flatten

end Folding

/-- Words of a call with those like `-5` written as a flag with an argument. -/
def spellOutWidth (flag : String) (words : List Bytes) : List Bytes :=
  words.flatMap fun word =>
    match word with
    | 45 :: digits => if (natural? digits).isSome then [utf8 flag, digits] else [word]
    | _ => [word]

/-- Cuts lines where they are too long. -/
def fold (arguments : List Bytes) : Action Nat :=
  withCall ⟨"bsw:", [⟨"bytes", 'b', .nothing⟩, ⟨"spaces", 's', .nothing⟩, ⟨"width", 'w', .argument⟩],
    .atEnd⟩ 1 (spellOutWidth "-w" arguments) fun call => do
    let width ← match call.argument? 'w' with
      | none => pure (.ok 80)
      | some text => Amount.integer 1 (Amount.mostInteger - 9) "invalid number of columns" text
    match width with
    | .error problem =>
      complain problem
      return 1
    | .ok width =>
      let fold : Folding.Fold := {
        width := width.toNat, inBytes := call.has 'b', atBlanks := call.has 's' }
      let status ← forInputs (inputs call.operands) fun path => do
        match ← content path with
        | .text text =>
          print (Folding.text fold text)
          return 0
        | .closed errno | .unreadable errno =>
          complain ((← plainName path) ++ utf8 ": " ++ errno.wording)
          return 1
      if (inputs call.operands).contains [45] && !(← isOpen 0) then
        complain (utf8 "-: " ++ Errno.EBADF.wording)
        return 1
      finish status 1

namespace Filling

/-- How paragraphs are filled. -/
structure Style where
  /-- Lines are shorter than this. -/
  width : Nat
  /-- How long they should be. -/
  goal : Nat
  /-- May the second line of a paragraph be indented differently: like the first one in any case, or only
      if it differs? -/
  crown : Bool := false
  tagged : Bool := false
  /-- Are lines only broken, but never joined? -/
  splits : Bool := false
  /-- Do single blanks stand between words, and two behind sentences? -/
  uniform : Bool := false
  /-- Blanks before the sign that lines to fill begin with, and the sign, perhaps with blanks behind it. -/
  lead : Nat := 0
  sign : Bytes := []

/-- The sign without the blanks behind it. -/
def Style.trimmed (style : Style) : Bytes := (style.sign.reverse.dropWhile (· == 32)).reverse

/-- The head of a line. -/
structure Head where
  /-- Columns before the sign, and before the rest. -/
  signIndent : Nat
  indent : Nat
  /-- What is behind the blanks and the sign. -/
  rest : Bytes
  hasTabs : Bool

/-- A word with the blanks behind it. -/
structure Word where
  text : Bytes
  space : Nat := 1
  /-- Does it begin with a parenthesis or the like? -/
  opens : Bool := false
  /-- Does it end with a punctuation sign, with a period, and does a sentence end there? -/
  punctuated : Bool := false
  period : Bool := false
  final : Bool := false

/-- The column behind blanks, what is behind them, and whether there is a tab among them. -/
def skipBlanks : Nat → Bytes → Nat × Bytes × Bool
  | column, 32 :: rest => skipBlanks (column + 1) rest
  | column, 9 :: rest =>
    let (column, rest, _) := skipBlanks ((column / 8 + 1) * 8) rest
    (column, rest, true)
  | column, rest => (column, rest, false)

/-- Reads the head of a line. -/
def readHead (style : Style) (line : Bytes) : Head :=
  let (column, rest, hasTabs) := skipBlanks 0 line
  let sign := style.trimmed
  if sign.isEmpty then ⟨min style.lead column, column, rest, hasTabs⟩
  else if sign.isPrefixOf rest then
    let (indent, rest, more) := skipBlanks (column + sign.length) (rest.drop sign.length)
    ⟨column, indent, rest, hasTabs || more⟩
  else
    let common := ((rest.zip sign).takeWhile fun (a, b) => a == b).length
    ⟨column, column + common, rest.drop common, hasTabs⟩

/-- Does a line belong to what is filled? -/
def isFilled (style : Style) (head : Head) : Bool :=
  !head.rest.isEmpty && style.lead ≤ head.signIndent && head.signIndent + style.sign.length ≤ head.indent

def isSpace (byte : UInt8) : Bool := byte == 32 || (9 ≤ byte && byte ≤ 13)

/-- A word with what its signs say. -/
def wordOf (text : Bytes) : Word :=
  let isAmong (signs : String) (byte : Option UInt8) : Bool := byte.any (utf8 signs).contains
  let last := text.getLast?.getD 0
  let isSign := 33 ≤ last && last ≤ 126 && !Bytes.isDigit last && !(65 ≤ last && last ≤ 90) &&
    !(97 ≤ last && last ≤ 122)
  let closing := ((text.drop 1).reverse.takeWhile fun byte => isAmong ")]'\"" (some byte)).length
  { text
    opens := isAmong "(['\x60\"" text.head?
    punctuated := isSign
    period := isAmong ".?!" (text.take (text.length - closing)).getLast? }

/-- The words of a line from a column on. -/
def wordsOf (style : Style) : (bound : Nat) → (column : Nat) → (isLast : Bool) → Bytes → List Word
  | 0, _, _, _ => []
  | bound + 1, column, isLast, text =>
    let text' := text.takeWhile (!isSpace ·)
    let text' := if text'.isEmpty then text.take 1 else text'
    if text'.isEmpty then []
    else
      let word := wordOf text'
      let start := column + text'.length
      let (next, rest, _) := skipBlanks start (text.drop text'.length)
      let space := next - start
      let isEnd := rest.isEmpty
      let final := (isEnd && isLast) || (word.period && (isEnd || 1 < space))
      let space := if isEnd || style.uniform then (if final then 2 else 1) else space
      { word with space, final } :: wordsOf style bound next isLast rest

/-- What it costs to break a paragraph in some way. -/
abbrev Cost := Int

def square (n : Int) : Cost := n * n

/-- The cost of a line that is so much shorter or longer than it should be. -/
def shortCost (n : Int) : Cost := square (n * 10)

/-- The cost of neighbouring lines whose lengths differ by so much. -/
def raggedCost (n : Int) : Cost := shortCost n / 2

/-- The cost of a line that begins with a word, given the words before it, the nearest one first. -/
def baseCost (before : List Word) (word : Word) : Cost :=
  let start := match before with
    | [] => 0
    | last :: earlier =>
      if last.period then if last.final then -square 50 else square 600
      else if last.punctuated then -square 40
      else if earlier.head?.any (·.final) then square 200 / (last.text.length + 2)
      else 0
  let own := if word.opens then -square 40
    else if word.final then square 150 / (word.text.length + 2)
    else 0
  square 70 + start + own

/-- The best way to break the words from one on: its cost, how many words its first line has, that line's
    length, and whether it is the last one. -/
structure Break where
  cost : Cost
  count : Nat
  length : Nat
  isLast : Bool

/-- The best break before some words, given the breaks of all the words behind the first one, in order. -/
def bestBreak (style : Style) (indent : Nat) (words : List Word) (later : List Break) : Break :=
  match words with
  | [] => ⟨0, 0, 0, true⟩
  | first :: rest =>
    let lineCost (length : Nat) (next : Option Break) : Cost :=
      match next with
      | none => 0
      | some next =>
        shortCost ((style.goal : Int) - length) +
          (if next.isLast then 0 else raggedCost ((length : Int) - next.length)) + next.cost
    let start : Nat := indent + first.text.length
    let initial : Break := ⟨lineCost start later.head?, 1, start, rest.isEmpty⟩
    let (best, _, _, _) := (rest.zip later).foldl (fun (best, length, space, isOpen) (word, _) =>
      let length := length + space + word.text.length
      if !isOpen || style.width ≤ length then (best, length, word.space, false)
      else
        let count := best.2 + 1
        let next := later[count - 1]?
        let cost := lineCost length next
        let better : Break := if cost < best.1.cost then ⟨cost, count, length, next.isNone⟩ else best.1
        ((better, count), length, word.space, true))
      ((initial, 1), start, first.space, true)
    best.1

/-- The best breaks of all ends of a list of words, that of the whole list first. `before` are the words
    before it, the nearest one first. -/
def breaks (style : Style) (first other : Nat) (before : List Word) : List Word → List Break
  | [] => []
  | word :: rest =>
    let later := breaks style first other (word :: before) rest
    let best := bestBreak style (if before.isEmpty then first else other) (word :: rest) later
    { best with cost := best.cost + baseCost before word } :: later

/-- Blanks up to a column, as tabs where there have been some. -/
def blanks (hasTabs : Bool) (from_ count : Nat) : Bytes :=
  let target := from_ + count
  let tabbed := target / 8 * 8
  if hasTabs && from_ + 1 < tabbed then
    List.replicate ((tabbed - from_ + 7) / 8) 9 ++ List.replicate (target - tabbed) 32
  else List.replicate count 32

/-- A line of words. -/
def lineText (style : Style) (hasTabs : Bool) (signIndent indent : Nat) (words : List Word) : Bytes :=
  let sign := style.trimmed
  let start := blanks hasTabs 0 signIndent ++ sign
  let column := signIndent + sign.length
  let head := start ++ blanks hasTabs column (indent - column)
  let (text, _, _) := words.foldl (fun (text, column, space) word =>
    (text ++ blanks hasTabs column space ++ word.text, column + space + word.text.length, word.space))
    (head, max column indent, 0)
  text ++ [10]

/-- The lines that words are broken into. -/
def linesOf : (bound : Nat) → List Break → List Word → List (List Word)
  | 0, _, _ | _, _, [] => []
  | bound + 1, breaks, words =>
    let count := max ((breaks.head?.map (·.count)).getD words.length) 1
    words.take count :: linesOf bound (breaks.drop count) (words.drop count)

/-- The text of a paragraph. -/
def paragraph (style : Style) (hasTabs : Bool) (signIndent first other : Nat) (words : List Word) : Bytes :=
  let lines := linesOf words.length (breaks style first other [] words) words
  lines.zipIdx.flatMap fun (line, n) =>
    lineText style hasTabs signIndent (if n = 0 then first else other) line

/-- A line that is not filled. -/
def copied (style : Style) (hasTabs : Bool) (head : Head) (isEnded : Bool) : Bytes :=
  if head.indent > head.signIndent || !head.rest.isEmpty then
    let start := blanks hasTabs 0 head.signIndent
    let sign := style.trimmed.take (head.indent - head.signIndent)
    let column := head.signIndent + sign.length
    let gap := if head.rest.isEmpty then [] else blanks hasTabs column (head.indent - column)
    let needsEnd := !isEnded && head.rest.isEmpty && head.signIndent + style.trimmed.length ≤ head.indent
    start ++ sign ++ gap ++ head.rest ++ (if isEnded || needsEnd then [10] else [])
  else if isEnded then [10] else []

/-- Where the filling of a text is. -/
structure Progress where
  hasTabs : Bool := false
  other : Nat := 0
  shown : List Bytes := []

/-- The second indent of a paragraph, whose second line is given if it has one. -/
def otherIndent (style : Style) (before first : Nat) (second : Option Head) : Nat :=
  if style.splits then first
  else if style.crown then (second.map (·.indent)).getD first
  else if style.tagged then
    match second with
    | some head =>
      if head.indent ≠ first then head.indent
      else if before = first then (if first = 0 then 3 else 0) else before
    | none => if before = first then (if first = 0 then 3 else 0) else before
  else first

/-- Fills the lines of a text. Each comes with whether it ends with a newline. -/
def fill (style : Style) : (bound : Nat) → List (Bytes × Bool) → Progress → Progress
  | 0, _, progress | _, [], progress => progress
  | bound + 1, (line, isEnded) :: rest, progress =>
    let head := readHead style line
    let hasTabs := progress.hasTabs || head.hasTabs
    if !isFilled style head then
      fill style bound rest { progress with
        hasTabs, shown := copied style hasTabs head isEnded :: progress.shown }
    else
      let heads := rest.map fun (line, _) => readHead style line
      let isSame (other : Head) : Bool := other.signIndent = head.signIndent && isFilled style other
      let second := heads.head?.filter isSame
      let other := otherIndent style progress.other head.indent second
      let follows : Bool := if style.splits then false
        else if style.crown then second.isSome
        else if style.tagged then second.any fun next => next.indent ≠ head.indent
        else true
      let count := if follows then (heads.takeWhile fun next => isSame next && next.indent = other).length else 0
      let own := head :: heads.take count
      let hasTabs := hasTabs || (heads.take (count + 1)).any (·.hasTabs) || own.any (·.rest.contains 9)
      let atEnd (n : Nat) : Bool := n + 1 = own.length && rest.length = count && !(((line, isEnded) :: rest).getD
        count ([], true)).2
      let words := own.zipIdx.flatMap fun (head, n) =>
        wordsOf style head.rest.length head.indent (atEnd n) head.rest
      let words := words.zipIdx.map fun (word, n) =>
        if n + 1 = words.length then { word with period := true, final := true } else word
      fill style bound (rest.drop count) {
        hasTabs, other
        shown := paragraph style hasTabs head.signIndent head.indent other words :: progress.shown }

/-- Fills a text. -/
def text (style : Style) (text : Bytes) : Bytes :=
  let all := (lines text).map fun line => (chomp line, line.getLast? == some 10)
  (fill style (all.length + 1) all {}).shown.reverse.flatten

/-- Longer lines are not filled. -/
def mostWidth : Int := 2500

/-- How paragraphs are filled, or what is wrong with the call. -/
def styleOf (call : Call) : Action (Except Bytes Style) := do
  let width ← match call.argument? 'w' with
    | none => pure (.ok 75)
    | some text => Amount.integer 0 mostWidth "invalid width" text
  match width with
  | .error problem => return .error problem
  | .ok width =>
    let goal ← match call.argument? 'g' with
      | none => pure (.ok (width * 187 / 200))
      | some text => Amount.integer 0 width "invalid width" text
    let width := match call.argument? 'g', call.has 'w', goal with
      | some _, false, .ok goal => goal + 10
      | _, _, _ => width
    let sign := (call.argument? 'p').getD []
    let lead := (sign.takeWhile (· == 32)).length
    return goal.map fun goal => {
      width := width.toNat, goal := goal.toNat, crown := call.has 'c', tagged := call.has 't'
      splits := call.has 's', uniform := call.has 'u', lead, sign := sign.drop lead }

end Filling

/-- Fills paragraphs. -/
def fmt (arguments : List Bytes) : Action Nat := do
  let arguments := spellOutWidth "-w" (arguments.take 1) ++ arguments.drop 1
  withCall ⟨"0123456789cstuw:p:g:", [⟨"crown-margin", 'c', .nothing⟩, ⟨"prefix", 'p', .argument⟩,
    ⟨"split-only", 's', .nothing⟩, ⟨"tagged-paragraph", 't', .nothing⟩, ⟨"uniform-spacing", 'u', .nothing⟩,
    ⟨"width", 'w', .argument⟩, ⟨"goal", 'g', .argument⟩], .atEnd⟩ 1 arguments fun call => do
    match call.flags.reverse.find? (·.1.isDigit) with
    | some (digit, _) =>
      complain (utf8 "invalid option -- " ++ [digit.toNat.toUInt8] ++
        utf8 "; -WIDTH is recognized only when it is the first\noption; use -w N instead")
      suggestHelp
      return 1
    | none => pure ()
    match ← Filling.styleOf call with
    | .error problem =>
      complain problem
      return 1
    | .ok style =>
      let status ← forInputs (inputs call.operands) fun path => do
        match ← content path with
        | .text text =>
          print (Filling.text style text)
          return 0
        | .closed errno =>
          complain (utf8 "cannot open " ++ (← quotedName path) ++ utf8 " for reading: " ++ errno.wording)
          return 1
        | .unreadable errno =>
          complain (utf8 "read error: " ++ errno.wording)
          return 1
      finish status 1

end CleanLaunch.Shell.Utility
