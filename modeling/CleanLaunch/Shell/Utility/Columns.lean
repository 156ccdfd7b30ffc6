import CleanLaunch.Shell.Utility.Expression
import CleanLaunch.Shell.Utility.Sorting

/-! The utilities that take lines apart and put them together: `cut`, `paste` and `nl`. -/

namespace CleanLaunch.Shell.Utility

open Shell.Action

namespace Selection

/-- Ranges of numbers; the last number of a range may be missing. -/
abbrev Ranges := List (Nat × Option Nat)

/-- What has been read of a range. -/
structure Progress where
  ranges : Ranges := []
  value : Nat := 0
  first : Option Nat := none
  hasDigitsBefore : Bool := false
  hasDigitsBehind : Bool := false

/-- How the utility speaks of what is selected. -/
structure Wording where
  numbered : String
  invalid : String
  range : String
  number : String

def fields : Wording := ⟨"fields are numbered from 1", "invalid field value ", "invalid field range",
    "field number "⟩

def positions : Wording :=
  ⟨"byte/character positions are numbered from 1", "invalid byte/character position ",
    "invalid byte or character range", "byte/character offset "⟩

/-- Ends a range. -/
def close (wording : Wording) (read : Progress) : Except Bytes Progress :=
  match read.first with
  | some first =>
    if !read.hasDigitsBefore && !read.hasDigitsBehind then
      .error (utf8 "invalid range with no endpoint: -")
    else if !read.hasDigitsBehind then .ok { ranges := (first, none) :: read.ranges }
    else if read.value < first then .error (utf8 "invalid decreasing range")
    else .ok { ranges := (first, some read.value) :: read.ranges }
  | none =>
    if read.value = 0 then .error (utf8 wording.numbered)
    else .ok { ranges := (read.value, some read.value) :: read.ranges }

/-- The ranges of a list like `1,3-5,7-`; `quote` puts a word into quotation marks. -/
def parse (quote : Bytes → Bytes) (wording : Wording) : Bytes → Progress → Except Bytes Ranges
  | [], read => (·.ranges) <$> close wording read
  | byte :: rest, read =>
    if byte == 45 then
      if read.first.isSome then .error (utf8 wording.range)
      else if read.hasDigitsBefore && read.value = 0 then .error (utf8 wording.numbered)
      else
        parse quote wording rest { read with
          first := some (if read.hasDigitsBefore then read.value else 1), value := 0 }
    else if byte == 44 || byte == 32 || byte == 9 then
      match close wording read with
      | .ok read => parse quote wording rest read
      | .error problem => .error problem
    else if Bytes.isDigit byte then
      let value := read.value * 10 + Bytes.digitValue byte
      if Amount.largest ≤ value then
        let digits := Bytes.decimal read.value ++ (byte :: rest).takeWhile Bytes.isDigit
        .error (utf8 wording.number ++ quote digits ++ utf8 " is too large")
      else
      if read.first.isSome then parse quote wording rest { read with value, hasDigitsBehind := true }
      else parse quote wording rest { read with value, hasDigitsBefore := true }
    else .error (utf8 wording.invalid ++ quote (byte :: rest))

def contains (ranges : Ranges) (n : Nat) : Bool :=
  ranges.any fun (first, last) => first ≤ n && last.all (n ≤ ·)

/-- Ranges in order, where those that overlap are one. -/
def merged (ranges : Ranges) : Ranges :=
  let sorted := ranges.mergeSort fun a b => a.1 ≤ b.1
  (sorted.foldl (fun (merged : Ranges) range =>
    match merged with
    | (first, last) :: rest =>
      if last.all (range.1 ≤ ·) then
        (first, last.bind fun n => range.2.map (max n)) :: rest
      else range :: merged
    | [] => [range]) []).reverse

/-- The ranges between those in order. -/
def complement (ranges : Ranges) : Ranges :=
  let (gaps, next) := (merged ranges).foldl (fun (gaps, next) range =>
    match next with
    | none => (gaps, none)
    | some n => (if n < range.1 then (n, some (range.1 - 1)) :: gaps else gaps, range.2.map (· + 1)))
    (([] : Ranges), some 1)
  (match next with
    | some n => (n, none) :: gaps
    | none => gaps).reverse

/-- The parts of a text that ranges name. -/
def parts {α : Type} (ranges : Ranges) (text : List α) : List (List α) :=
  (ranges.map fun (first, last) =>
    let from_ := text.drop (first - 1)
    match last with
    | some n => from_.take (n + 1 - first)
    | none => from_).filter (!·.isEmpty)

end Selection

namespace Cutting

/-- How lines are cut. -/
structure Cut where
  ranges : Selection.Ranges
  byFields : Bool
  delimiter : UInt8
  /-- What stands between parts, if that was said. -/
  between : Option Bytes
  /-- Are lines without a delimiter passed over? -/
  isStrict : Bool
  ending : UInt8

/-- What is left of a line. -/
def line (cut : Cut) (line : Bytes) : Bytes :=
  if !cut.byFields then
    Bytes.joinWith (cut.between.getD []) (Selection.parts cut.ranges line) ++ [cut.ending]
  else if line.contains cut.delimiter then
    let fields := (Selection.parts cut.ranges (line.splitAt cut.delimiter)).flatten
    Bytes.joinWith (cut.between.getD [cut.delimiter]) fields ++ [cut.ending]
  else if cut.isStrict then [] else line ++ [cut.ending]

/-- What is left of a text. If lines are the fields, it is cut as a whole. -/
def text (cut : Cut) (text : Bytes) : Bytes :=
  let all := Sorting.linesOf cut.ending text
  if cut.byFields && cut.delimiter == cut.ending then
    if text.isEmpty || (all.length < 2 && cut.isStrict) then []
    else
      let fields := if all.length < 2 then all else (Selection.parts cut.ranges all).flatten
      Bytes.joinWith (cut.between.getD [cut.delimiter]) fields ++ [cut.ending]
  else all.flatMap (line cut)

end Cutting

/-- Prints parts of lines. -/
def cut (arguments : List Bytes) : Action Nat :=
  withCall ⟨"b:c:d:f:nsz", [⟨"bytes", 'b', .argument⟩, ⟨"characters", 'c', .argument⟩,
    ⟨"fields", 'f', .argument⟩, ⟨"delimiter", 'd', .argument⟩, ⟨"only-delimited", 's', .nothing⟩,
    ⟨"output-delimiter", 'ο', .argument⟩, ⟨"complement", 'χ', .nothing⟩,
    ⟨"zero-terminated", 'z', .nothing⟩], .atEnd⟩ 1 arguments fun call => do
    let lists := call.flags.filter fun flag => flag.1 == 'b' || flag.1 == 'c' || flag.1 == 'f'
    match lists with
    | _ :: _ :: _ => refuse 1 (utf8 "only one list may be specified")
    | _ =>
      if (call.argument? 'd').any fun text => 1 < text.length then
        return ← refuse 1 (utf8 "the delimiter must be a single character")
      match lists with
      | [] => refuse 1 (utf8 "you must specify a list of bytes, characters, or fields")
      | (letter, list) :: _ =>
        let byFields := letter == 'f'
        if !byFields && call.has 'd' then
          return ← refuse 1
            (utf8 "an input delimiter may be specified only when operating on fields")
        if !byFields && call.has 's' then
          return ← refuse 1 (utf8 ("suppressing non-delimited lines makes sense\n" ++
            "\tonly when operating on fields"))
        let quote := Quotation.text (hasWideCharacters (← get))
        match Selection.parse quote (if byFields then Selection.fields else Selection.positions) list {} with
        | .error problem => refuse 1 problem
        | .ok ranges =>
          let cut : Cutting.Cut := {
            ranges := if call.has 'χ' then Selection.complement ranges else Selection.merged ranges
            byFields, delimiter := ((call.argument? 'd').getD [9]).headD 0
            between := call.argument? 'ο', isStrict := call.has 's'
            ending := if call.has 'z' then 0 else 10 }
          let status ← forInputs (inputs call.operands) fun path => do
            match ← content path with
            | .closed errno | .unreadable errno =>
              complain ((← plainName path) ++ utf8 ": " ++ errno.wording)
              return 1
            | .text text =>
              print (Cutting.text cut text)
              return 0
          if (inputs call.operands).contains [45] && !(← isOpen 0) then
            complain (utf8 "-: " ++ Errno.EBADF.wording)
            return 1
          finish status 1

namespace Pasting

/-- The delimiters of a list, each a byte or nothing, unless it ends with a lone backslash. -/
def delimiters? : Bytes → Option (List Bytes)
  | [] => some []
  | [92] => none
  | 92 :: letter :: rest =>
    let delimiter : Bytes := match Char.ofNat letter.toNat with
      | '0' => []
      | 'b' => [8]
      | 'f' => [12]
      | 'n' => [10]
      | 'r' => [13]
      | 't' => [9]
      | 'v' => [11]
      | _ => [letter]
    (delimiter :: ·) <$> delimiters? rest
  | byte :: rest => ([byte] :: ·) <$> delimiters? rest

/-- Joins parts with delimiters in turn between them. -/
def join (delimiters : List Bytes) (ending : UInt8) (parts : List Bytes) : Bytes :=
  (parts.zipIdx.flatMap fun (part, n) =>
    (if n = 0 then [] else delimiters.getD ((n - 1) % max delimiters.length 1) []) ++ part) ++ [ending]

/-- Takes the next line of every column; columns may share a source. The second part says whether there was
    any line. -/
def row (columns : List Nat) (sources : List (List Bytes)) : List Bytes × List (List Bytes) × Bool :=
  let (parts, sources, hasAny) := columns.foldl (fun (parts, sources, hasAny) column =>
    match sources.getD column [] with
    | [] => ([] :: parts, sources, hasAny)
    | line :: rest => (line :: parts, sources.set column rest, true))
    (([] : List Bytes), sources, false)
  (parts.reverse, sources, hasAny)

/-- All rows. -/
def rows (columns : List Nat) : (bound : Nat) → List (List Bytes) → List (List Bytes)
  | 0, _ => []
  | bound + 1, sources =>
    let (parts, sources, hasAny) := row columns sources
    if hasAny then parts :: rows columns bound sources else []

end Pasting

open Pasting in
/-- Joins the lines of files side by side, or all lines of each file. -/
def paste (arguments : List Bytes) : Action Nat :=
  withCall ⟨"d:sz", [⟨"delimiters", 'd', .argument⟩, ⟨"serial", 's', .nothing⟩,
    ⟨"zero-terminated", 'z', .nothing⟩], .atEnd⟩ 1 arguments fun call => do
    let list := (call.argument? 'd').getD [9]
    match delimiters? list with
    | none =>
      complain (utf8 "delimiter list ends with an unescaped backslash: " ++ list)
      return 1
    | some delimiters =>
    let ending : UInt8 := if call.has 'z' then 0 else 10
    let mut sources : List (List Bytes) := []
    let mut columns : List Nat := []
    let mut status := 0
    let mut input : Option Nat := none
    for path in inputs call.operands do
      match if path = [45] then input else none with
      | some column =>
        if call.has 's' then sources := sources ++ [[]]
        columns := columns ++ [column]
      | none =>
        if path = [45] then input := some sources.length
        match ← content path with
        | .text text =>
          columns := columns ++ [sources.length]
          sources := sources ++ [Sorting.linesOf ending text]
        | .closed errno | .unreadable errno =>
          complain ((← plainName path) ++ utf8 ": " ++ errno.wording)
          if !call.has 's' then return 1
          status := 1
    if call.has 's' then print (sources.flatMap (join delimiters ending))
    else
      let height := sumOf (sources.map List.length)
      print ((rows columns (height + 1) sources).flatMap (join delimiters ending))
    finish status 1

namespace Numbering

/-- Which lines get a number. -/
inductive LineStyle
  | all
  | filled
  | none
  | matching (parsed : Expression.Parsed)

/-- How lines are numbered. -/
structure Layout where
  header : LineStyle
  body : LineStyle
  footer : LineStyle
  /-- Two bytes that mark the start of a section, if there are any. -/
  delimiter : Bytes
  increment : Int
  start : Int
  restarts : Bool
  /-- How many blank lines count as one. -/
  blanks : Nat
  separator : Bytes
  width : Nat
  format : Bytes

/-- Where the numbering is. -/
structure Progress where
  style : LineStyle
  line : Int
  blanks : Nat := 0
  shown : List Bytes := []

/-- A number in its column. -/
def number (layout : Layout) (n : Int) : Bytes :=
  let digits := Bytes.decimal n.natAbs
  let sign : Bytes := if n < 0 then [45] else []
  let padding (byte : UInt8) : Bytes := List.replicate (layout.width - digits.length - sign.length) byte
  let text :=
    if layout.format = utf8 "ln" then sign ++ digits ++ padding 32
    else if layout.format = utf8 "rz" then sign ++ padding 48 ++ digits
    else padding 32 ++ sign ++ digits
  text ++ layout.separator

/-- What style a line begins, if it begins a section. -/
def section? (layout : Layout) (line : Bytes) : Option LineStyle :=
  let mark := layout.delimiter
  if mark.length < 2 then none
  else if line = mark ++ mark ++ mark then some layout.header
  else if line = mark ++ mark then some layout.body
  else if line = mark then some layout.footer
  else none

/-- Goes on by one line. -/
def step (layout : Layout) (progress : Progress) (line : Bytes) : Progress :=
  match section? layout line with
  | some style =>
    { progress with
      style, shown := [10] :: progress.shown
      line := if layout.restarts then layout.start else progress.line }
  | none =>
    let numbered (progress : Progress) : Progress :=
      { progress with
        line := progress.line + layout.increment
        shown := (number layout progress.line ++ line ++ [10]) :: progress.shown }
    let plain (progress : Progress) : Progress :=
      { progress with
        shown := (List.replicate (layout.width + layout.separator.length) 32 ++ line ++ [10]) ::
          progress.shown }
    match progress.style with
    | .none => plain progress
    | .filled => if line.isEmpty then plain progress else numbered progress
    | .all =>
      if layout.blanks ≤ 1 then numbered progress
      else if !line.isEmpty || progress.blanks + 1 = layout.blanks then
        numbered { progress with blanks := 0 }
      else plain { progress with blanks := progress.blanks + 1 }
    | .matching parsed =>
      if (parsed.expression.search? (parsed.look false false) line).isSome then numbered progress
      else plain progress

/-- A style as it is written. -/
def style? (text : Bytes) : Except Bytes (Option LineStyle) :=
  match text with
  | 97 :: _ => .ok (some .all)
  | 116 :: _ => .ok (some .filled)
  | 110 :: _ => .ok (some .none)
  | 112 :: pattern =>
    match Expression.parse { allowsEmptyRanges := true } pattern with
    | .ok parsed => .ok (some (.matching parsed))
    | .error problem => .error (utf8 problem)
  | _ => .ok none

end Numbering

/-- Prints lines with numbers. -/
def nl (arguments : List Bytes) : Action Nat :=
  withCall ⟨"b:d:f:h:i:l:n:ps:v:w:", [⟨"header-numbering", 'h', .argument⟩,
    ⟨"body-numbering", 'b', .argument⟩, ⟨"footer-numbering", 'f', .argument⟩,
    ⟨"starting-line-number", 'v', .argument⟩, ⟨"line-increment", 'i', .argument⟩,
    ⟨"no-renumber", 'p', .nothing⟩, ⟨"join-blank-lines", 'l', .argument⟩,
    ⟨"number-separator", 's', .argument⟩, ⟨"number-width", 'w', .argument⟩,
    ⟨"number-format", 'n', .argument⟩, ⟨"section-delimiter", 'd', .argument⟩], .atEnd⟩ 1 arguments
    fun call => do
    let stop (problem : Bytes) : Action Nat := do
      complain problem
      return 1
    let style (letter : Char) (usual : String) : Except Bytes (Option Numbering.LineStyle) :=
      Numbering.style? ((call.argument? letter).getD (utf8 usual))
    let value (letter : Char) (usual least most : Int) (what : String) : Action (Except Bytes Int) :=
      match call.argument? letter with
      | none => return .ok usual
      | some text => Amount.integer least most what text
    match style 'h' "n", style 'b' "t", style 'f' "n" with
    | .error problem, _, _ | _, .error problem, _ | _, _, .error problem => stop problem
    | .ok header, .ok body, .ok footer =>
    let format := (call.argument? 'n').getD (utf8 "rn")
    let wrong (what : String) (letter : Char) : Action Bytes :=
      return utf8 what ++ (← quoted ((call.argument? letter).getD []))
    let all := Amount.mostInteger
    match ← value 'v' 1 (-all - 1) all "invalid starting line number",
        ← value 'i' 1 (-all - 1) all "invalid line number increment",
        ← value 'l' 1 1 all "invalid line number of blank lines",
        ← value 'w' 6 1 Amount.mostUsual "invalid line number field width" with
    | .error problem, _, _, _ | _, .error problem, _, _ | _, _, .error problem, _
    | _, _, _, .error problem => stop problem
    | .ok start, .ok increment, .ok blanks, .ok width =>
    let mut problems : List Bytes := []
    if header.isNone then problems := problems ++ [← wrong "invalid header numbering style: " 'h']
    if body.isNone then problems := problems ++ [← wrong "invalid body numbering style: " 'b']
    if footer.isNone then problems := problems ++ [← wrong "invalid footer numbering style: " 'f']
    if !(["ln", "rn", "rz"].map utf8).contains format then
      problems := problems ++ [← wrong "invalid line numbering format: " 'n']
    if !problems.isEmpty then
      for problem in problems do complain problem
      suggestHelp
      return 1
    let delimiter := match call.argument? 'd' with
      | none => utf8 "\\:"
      | some [byte] => [byte, 58]
      | some text => text
    let layout : Numbering.Layout := {
      header := header.getD .none, body := body.getD .filled, footer := footer.getD .none, delimiter
      increment, start, restarts := !call.has 'p', blanks := blanks.toNat
      separator := (call.argument? 's').getD [9], width := width.toNat, format }
    let (status, progress) ← (inputs call.operands).foldlM (fun (status, progress) path => do
      match ← content path with
      | .closed errno | .unreadable errno =>
        complain ((← plainName path) ++ utf8 ": " ++ errno.wording)
        return (1, progress)
      | .text text => return (status, (Sorting.linesOf 10 text).foldl (Numbering.step layout) progress))
      ((0 : Nat), ({ style := layout.body, line := start } : Numbering.Progress))
    print progress.shown.reverse.flatten
    finish status 1

end CleanLaunch.Shell.Utility
