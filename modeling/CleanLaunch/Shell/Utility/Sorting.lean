import CleanLaunch.Shell.Floating
import CleanLaunch.Shell.Utility.Amount
import CleanLaunch.Shell.Utility.Input
import CleanLaunch.Shell.Utility.Version

/-! The utility `sort`, which sorts the lines of files, merges sorted files, or checks that they are sorted.

    Lines compare by keys, parts of them, each with a collation of its own; lines that are equal in all keys
    compare as a whole. -/

namespace CleanLaunch.Shell.Utility

open Shell.Action

/-- What texts are compared as. -/
inductive Kind
  | text | number | general | human | month | version | random
  deriving DecidableEq

/-- How texts are compared. -/
structure Collation where
  kinds : List Kind := []
  folds : Bool := false
  reverses : Bool := false
  /-- Are blanks skipped at the start of a key, and before its last byte is counted? -/
  skipsStart : Bool := false
  skipsEnd : Bool := false
  onlyWords : Bool := false
  onlyPrintable : Bool := false
  deriving DecidableEq

namespace Collation

/-- Which blanks a letter `b` is about. -/
inductive Blanks
  | start | ending | both
  deriving DecidableEq

def add? (collation : Collation) (blanks : Blanks) (letter : Char) : Option Collation :=
  let kind (kind : Kind) : Option Collation :=
    some { collation with kinds := kind :: collation.kinds.filter (· ≠ kind) }
  match letter with
  | 'n' => kind .number
  | 'g' => kind .general
  | 'h' => kind .human
  | 'M' => kind .month
  | 'V' => kind .version
  | 'R' => kind .random
  | 'f' => some { collation with folds := true }
  | 'r' => some { collation with reverses := true }
  | 'b' => some { collation with
      skipsStart := collation.skipsStart || blanks ≠ .ending
      skipsEnd := collation.skipsEnd || blanks ≠ .start }
  | 'd' => some { collation with onlyWords := true }
  | 'i' => some { collation with onlyPrintable := collation.onlyPrintable || !collation.onlyWords }
  | _ => none

/-- What is compared: the first kind that was asked for, in the order in which kinds go before each other. -/
def kind (collation : Collation) : Kind :=
  ([Kind.number, .general, .human, .month, .random, .version].find? collation.kinds.contains).getD .text

/-- The letters of a collation, those that cannot go together being among them. -/
def letters (collation : Collation) : Bytes :=
  let letter (holds : Bool) (letter : String) : Bytes := if holds then utf8 letter else []
  letter collation.onlyWords "d" ++ letter collation.folds "f" ++
    letter (collation.kinds.contains .general) "g" ++ letter (collation.kinds.contains .human) "h" ++
    letter (collation.onlyPrintable && !collation.onlyWords) "i" ++
    letter (collation.kinds.contains .month) "M" ++ letter (collation.kinds.contains .number) "n" ++
    letter (collation.kinds.contains .random) "R" ++ letter (collation.kinds.contains .version) "V"

/-- Do all its letters go together? -/
def isConsistent (collation : Collation) : Bool :=
  let numbers := collation.kinds.filter fun kind => kind ≠ .version && kind ≠ .random
  let isText := collation.kinds.contains .version || collation.kinds.contains .random ||
    collation.onlyWords || collation.onlyPrintable
  numbers.length + (if isText then 1 else 0) ≤ 1

def isBlank (byte : UInt8) : Bool := byte == 32 || byte == 9 || byte == 10

/-- The number at the head of a text: is it negative, the digits before the point and those behind it, and
    what follows. -/
def readNumber (text : Bytes) : Bool × Bytes × Bytes × Bytes :=
  let text := text.dropWhile isBlank
  let isNegative := text.head? == some 45
  let text := if isNegative then text.drop 1 else text
  let whole := text.takeWhile Bytes.isDigit
  let after := text.drop whole.length
  let fraction := if after.head? == some 46 then (after.drop 1).takeWhile Bytes.isDigit else []
  let rest := if after.head? == some 46 then after.drop (fraction.length + 1) else after
  (isNegative, whole, fraction, rest)

/-- The number at the head of a text, in units that `places` digits behind the point count. -/
def numberIn (places : Nat) (text : Bytes) : Int :=
  let (isNegative, whole, fraction, _) := readNumber text
  let digits := whole ++ fraction ++ List.replicate (places - fraction.length) 48
  let value := digits.foldl (fun n byte => n * 10 + Bytes.digitValue byte) 0
  if isNegative then -(value : Int) else value

def compareNumbers (a b : Bytes) : Ordering :=
  let places := max (readNumber a).2.2.1.length (readNumber b).2.2.1.length
  compare (numberIn places a) (numberIn places b)

/-- The rank of the unit behind a number that is not zero. -/
def unit (text : Bytes) : Int :=
  let (isNegative, whole, fraction, rest) := readNumber text
  if (whole ++ fraction).all (· == 48) then 0
  else
    let units := utf8 "KMGTPEZYRQ"
    let letter := rest.headD 0
    let n : Int := match units.findIdx? (· == (if letter == 107 then 75 else letter)) with
      | some n => (n : Int) + 1
      | none => 0
    if isNegative then -n else n

/-- How numbers of any form compare: what is none comes first, then what is not a number at all, then the
    others by their values. -/
def compareGeneral (a b : Bytes) : Ordering :=
  let rank (text : Bytes) : Nat × Option Floating :=
    match Floating.read? .extended text with
    | none => (0, none)
    | some ⟨.undefined _, _⟩ => (1, none)
    | some ⟨value, _⟩ => (2, some value)
  let (x, first) := rank a
  let (y, second) := rank b
  (compare x y).then <| match first, second with
    | some first, some second => first.order second
    | _, _ => .eq

/-- Names of months by their first letters. -/
def months : List Bytes :=
  ["JAN", "FEB", "MAR", "APR", "MAY", "JUN", "JUL", "AUG", "SEP", "OCT", "NOV", "DEC"].map utf8

def toCapital (byte : UInt8) : UInt8 := if 97 ≤ byte && byte ≤ 122 then byte - 32 else byte

/-- The number of the month that a text begins with, or 0. -/
def month (text : Bytes) : Nat :=
  let name := ((text.dropWhile isBlank).take 3).map toCapital
  (months.findIdx? (· = name)).elim 0 (· + 1)

/-- What of a text is compared. -/
def relevant (collation : Collation) (text : Bytes) : Bytes :=
  let isWord (byte : UInt8) : Bool :=
    Bytes.isDigit byte || (65 ≤ byte && byte ≤ 90) || (97 ≤ byte && byte ≤ 122) || byte == 32 || byte == 9
  let text :=
    if collation.onlyWords then text.filter isWord
    else if collation.onlyPrintable then text.filter fun byte => 32 ≤ byte && byte ≤ 126
    else text
  if collation.folds then text.map toCapital else text

def compareBytes (a b : Bytes) : Ordering := if a < b then .lt else if b < a then .gt else .eq

/-- How two texts compare. -/
def order (collation : Collation) (a b : Bytes) : Ordering :=
  let (a, b) := (collation.relevant a, collation.relevant b)
  let answer := match collation.kind with
    | .text | .random => compareBytes a b
    | .number => compareNumbers a b
    | .general => compareGeneral a b
    | .human => (compare (unit a) (unit b)).then (compareNumbers a b)
    | .month => compare (month a) (month b)
    | .version => Version.order a b
  if collation.reverses then answer.swap else answer

end Collation

/-- A part of a line that is compared: from a byte of a field to one of another field, both counted from
    0. -/
structure SortKey where
  firstField : Nat
  firstByte : Nat
  lastField : Option Nat := none
  /-- The number of bytes of the last field, or 0 for all of it. -/
  lastByte : Nat := 0
  collation : Collation := {}

namespace SortKey

/-- A number at the head of a text. -/
def count (quote : Bytes → Bytes) (problem : String) (text : Bytes) : Except Bytes (Nat × Bytes) :=
  let digits := text.takeWhile Bytes.isDigit
  match natural? digits with
  | some n => .ok (n, text.drop digits.length)
  | none => .error (utf8 problem ++ utf8 ": invalid count at start of " ++ quote text)

/-- The letters of a collation at the head of a text. -/
def readCollation (blanks : Collation.Blanks) : Collation → Bytes → Collation × Bytes
  | collation, [] => (collation, [])
  | collation, letter :: rest =>
    match collation.add? blanks (Char.ofNat letter.toNat) with
    | some collation => readCollation blanks collation rest
    | none => (collation, letter :: rest)

/-- A key as it is written, or what is wrong with it; `quote` puts a word into quotation marks. -/
def read (quote : Bytes → Bytes) (text : Bytes) : Except Bytes SortKey := do
  let invalid {α : Type} (why : String) : Except Bytes α :=
    .error (utf8 why ++ utf8 ": invalid field specification " ++ quote text)
  let (firstField, rest) ← count quote "invalid number at field start" text
  if firstField = 0 then invalid "field number is zero"
  let (firstByte, rest) ← match rest with
    | 46 :: rest => count quote "invalid number after '.'" rest
    | _ => .ok (1, rest)
  if firstByte = 0 then invalid "character offset is zero"
  let (collation, rest) := readCollation .start {} rest
  let key : SortKey := { firstField := firstField - 1, firstByte := firstByte - 1, collation }
  match rest with
  | [] => return key
  | 44 :: rest =>
    let (lastField, rest) ← count quote "invalid number after ','" rest
    if lastField = 0 then invalid "field number is zero"
    let (lastByte, rest) ← match rest with
      | 46 :: rest => count quote "invalid number after '.'" rest
      | _ => .ok (0, rest)
    let (collation, rest) := readCollation .ending collation rest
    if rest.isEmpty then return { key with lastField := some (lastField - 1), lastByte, collation }
    else invalid "stray character in field spec"
  | _ => invalid "stray character in field spec"

/-- A line without its first fields. -/
def afterFields (separator : Option UInt8) : (count : Nat) → Bytes → Bytes
  | 0, line => line
  | count + 1, line =>
    match separator with
    | some byte => afterFields separator count ((line.dropWhile (· != byte)).drop 1)
    | none =>
      afterFields separator count ((line.dropWhile Collation.isBlank).dropWhile (!Collation.isBlank ·))

/-- The part of a line that a key names. -/
def part (separator : Option UInt8) (key : SortKey) (line : Bytes) : Bytes :=
  let skip (skips : Bool) (text : Bytes) : Bytes :=
    if skips then text.dropWhile Collation.isBlank else text
  let start := (skip key.collation.skipsStart (afterFields separator key.firstField line)).drop key.firstByte
  let ending := match key.lastField with
    | none => []
    | some field =>
      if key.lastByte = 0 then
        match separator with
        | some byte => (afterFields separator field line).dropWhile (· != byte)
        | none => afterFields none (field + 1) line
      else (skip key.collation.skipsEnd (afterFields separator field line)).drop key.lastByte
  start.take (start.length - ending.length)

end SortKey

namespace Sorting

/-- How lines are sorted. -/
structure Order where
  keys : List SortKey
  collation : Collation
  separator : Option UInt8
  /-- Do lines count as equal that are so in all keys? -/
  isUnique : Bool
  /-- Do such lines stay in their order? -/
  isStable : Bool

/-- How two lines compare by the keys, or as a whole without any. -/
def Order.byKeys (order : Order) (a b : Bytes) : Ordering :=
  let keys := if order.keys.isEmpty then [{ firstField := 0, firstByte := 0, collation := order.collation }]
    else order.keys
  keys.foldl (fun answer key =>
    if answer ≠ .eq then answer
    else
      let collation := if key.collation = {} then order.collation else key.collation
      let part := { key with collation }.part order.separator
      collation.order (part a) (part b)) .eq

/-- How two lines compare, in the end as a whole. -/
def Order.compare (order : Order) (a b : Bytes) : Ordering :=
  match order.byKeys a b with
  | .eq =>
    if order.isUnique || order.isStable then .eq
    else
      let answer := Collation.compareBytes a b
      if order.collation.reverses then answer.swap else answer
  | answer => answer

/-- The first line that is not in order behind the one before it, with its number. -/
def disorder? (isBehind : Bytes → Bytes → Bool) (all : List Bytes) : Option (Bytes × Nat) :=
  (((all.zip (all.drop 1)).zipIdx 2).find? fun ((a, b), _) => !isBehind a b).map
    fun ((_, b), n) => (b, n)

/-- Lines without those that compare equal to the one before them. -/
def withoutRepeats (order : Bytes → Bytes → Ordering) (all : List Bytes) : List Bytes :=
  (all.foldl (fun (kept : List Bytes) line =>
    if kept.head?.any fun last => order last line == .eq then kept else line :: kept) []).reverse

/-- Takes the least of the first lines of some files, again and again. -/
def merge (isBefore : Bytes → Bytes → Bool) : (bound : Nat) → List (List Bytes) → List Bytes
  | 0, _ => []
  | bound + 1, files =>
    let heads := files.zipIdx.filterMap fun (file, n) => file.head?.map (·, n)
    match heads.foldl (fun (best : Option (Bytes × Nat)) head =>
      match best with
      | none => some head
      | some least => if isBefore head.1 least.1 then some head else best) none with
    | none => []
    | some (line, n) => line :: merge isBefore bound (files.modify n (·.drop 1))

/-- What is done with the lines. -/
inductive Work
  | sort | merge | check (reports : Bool)

/-- Lines of a text without their ends. -/
def linesOf (ending : UInt8) (text : Bytes) : List Bytes :=
  (linesUpTo ending text).map fun line => if line.getLast? = some ending then line.dropLast else line

/-- The lines of some inputs, without their ends. What cannot be read ends everything. -/
def allLines (ending : UInt8) (paths : List Bytes) (onClosed onUnreadable : String) :
    Action (Option (List (List Bytes))) := do
  let mut all : List (List Bytes) := []
  for path in paths do
    let report (what : String) (errno : Errno) : Action (Option (List (List Bytes))) := do
      complain (utf8 what ++ (← plainName path) ++ utf8 ": " ++ errno.wording)
      return none
    match ← content path with
    | .text text => all := linesOf ending text :: all
    | .closed errno => return ← report onClosed errno
    | .unreadable .EBADF => return ← report "stat failed: " .EBADF
    | .unreadable errno => return ← report onUnreadable errno
  return some all.reverse

/-- A field and a byte in it like `1.2`, both 0 where they are missing, and the letters behind them. -/
def readField (text : Bytes) : Nat × Nat × Bytes :=
  let field := text.takeWhile Bytes.isDigit
  match text.drop field.length with
  | 46 :: more =>
    let digits := more.takeWhile Bytes.isDigit
    ((natural? field).getD 0, (natural? digits).getD 0, more.drop digits.length)
  | letters => ((natural? field).getD 0, 0, letters)

/-- A key like `+1 -2`, counted from 0, as a flag has it, and whether it takes the second word. -/
def spellOutKey? (word next : Bytes) : Option (Bytes × Bool) :=
  let isField (sign : UInt8) (word : Bytes) : Bool :=
    word.head? == some sign && (word.drop 1).head?.any Bytes.isDigit
  if isField 43 word then
    let (field, byte, letters) := readField (word.drop 1)
    let start := Bytes.decimal (field + 1) ++ [46] ++ Bytes.decimal (byte + 1) ++ letters
    if isField 45 next then
      let (field, byte, letters) := readField (next.drop 1)
      let ending := if byte = 0 then Bytes.decimal field ++ letters
        else Bytes.decimal (field + 1) ++ [46] ++ Bytes.decimal byte ++ letters
      some (start ++ [44] ++ ending, true)
    else some (start, false)
  else none

/-- Words with keys like `+1 -2` written as flags. -/
def spellOutKeys : (bound : Nat) → List Bytes → List Bytes
  | 0, words => words
  | _, [] => []
  | bound + 1, word :: rest =>
    if word = [45, 45] then word :: rest
    else match spellOutKey? word (rest.headD []) with
      | some (key, takesNext) =>
        utf8 "-k" :: key :: spellOutKeys bound (if takesNext then rest.drop 1 else rest)
      | none => word :: spellOutKeys bound rest

/-- Words for kinds of collation, each with its letter. -/
def kindWords : List (String × Char) :=
  [("general-numeric", 'g'), ("human-numeric", 'h'), ("month", 'M'), ("numeric", 'n'), ("random", 'R'),
   ("version", 'V')]

/-- The separator of fields, or what is wrong with it. -/
def separator (quote : Bytes → Bytes) (call : Call) : Except Bytes (Option UInt8) :=
  (call.flags.reverse.filter (·.1 == 't')).foldlM (fun given (_, text) => do
    let byte : UInt8 ← match text with
      | [byte] => .ok byte
      | [92, 48] => .ok 0
      | [] => .error (utf8 "empty tab")
      | text => .error (utf8 "multi-character tab " ++ quote text)
    if given.any (· != byte) then .error (utf8 "incompatible tabs") else .ok (some byte)) none

/-- How lines are sorted, or what is wrong with the call. -/
def orderOf (quote : Bytes → Bytes) (call : Call) : Except Bytes Order := do
  let keys ← (call.flags.reverse.filter (·.1 == 'k')).mapM fun flag => SortKey.read quote flag.2
  let letters := call.flags.reverse.map fun flag =>
    if flag.1 == 'σ' then ((kindWords.find? fun entry => flag.2.isPrefixOf (utf8 entry.1)).map (·.2)).getD '?'
    else flag.1
  let collation := letters.foldl (fun (collation : Collation) letter =>
    (collation.add? .both letter).getD collation) {}
  let separator ← separator quote call
  let used := if keys.isEmpty then [collation]
    else keys.map fun key => if key.collation = {} then collation else key.collation
  match used.find? (!·.isConsistent) with
  | some collation => .error (utf8 "options '-" ++ collation.letters ++ utf8 "' are incompatible")
  | none => .ok { keys, collation, separator, isUnique := call.has 'u', isStable := call.has 's' }

/-- What is done with the lines, or what is wrong with the call. -/
def workOf (call : Call) : Except Bytes Work := do
  let incompatible (letters : String) : Except Bytes Work :=
    .error (utf8 ("options '-" ++ letters ++ "' are incompatible"))
  match call.flags.find? fun flag => flag.1 == 'c' || flag.1 == 'C' with
  | none => return if call.has 'm' then .merge else .sort
  | some (letter, word) =>
    let reports := letter == 'c' && (word.isEmpty || word.head? == some 100)
    if call.has 'o' then incompatible (if reports then "co" else "Co") else return .check reports

/-- Is an order by chance asked for that would show? -/
def isRandom (order : Order) (files : List (List Bytes)) : Bool :=
  (order.collation.kind = .random || order.keys.any (·.collation.kind = .random)) &&
    1 < files.flatten.eraseDups.length

/-- Writes lines to standard output. -/
def printAll (text : Bytes) : Action Nat := do
  print text
  match ← flush with
  | none => return 0
  | some errno =>
    let what := if text.length < 4096 then "fflush failed: 'standard output': "
      else "write failed: 'standard output': "
    complain (utf8 what ++ errno.wording)
    complain (utf8 "write error")
    return 2

/-- Writes lines to a file, which is opened only then. -/
def writeAll (path text : Bytes) : Action Nat := do
  match ← openPath .output path with
  | .error errno =>
    complain (utf8 "open failed: " ++ (← plainName path) ++ utf8 ": " ++ errno.wording)
    return 2
  | .ok descriptor =>
    let problem ← write descriptor text
    close descriptor
    match problem with
    | some errno =>
      complain (utf8 "write failed: " ++ (← plainName path) ++ utf8 ": " ++ errno.wording)
      return 2
    | none => return 0

/-- The files to read, which another file may list. -/
def pathsOf (call : Call) : Action (Except Nat (List Bytes)) := do
  match call.argument? 'φ', call.operands with
  | none, operands => return .ok (inputs operands)
  | some _, extra :: _ =>
    complain (utf8 "extra operand " ++ (← quotedName extra))
    printError (utf8 "file operands cannot be combined with --files0-from\n")
    suggestHelp
    return .error 2
  | some path, [] =>
    match ← content path with
    | .text text =>
      let names := linesOf 0 text
      if names.isEmpty then
        complain (utf8 "no input from " ++ (← quotedName path))
        return .error 2
      match names.findIdx? (·.isEmpty) with
      | some n =>
        complain ((← plainName path) ++ [58] ++ Bytes.decimal (n + 1) ++ utf8 ": invalid zero-length file name")
        return .error 2
      | none => return .ok names
    | .closed errno | .unreadable errno =>
      complain (utf8 "open failed: " ++ (← plainName path) ++ utf8 ": " ++ errno.wording)
      return .error 2

/-- Sorts the lines of files, merges them, or checks them. -/
def run (call : Call) (order : Order) (work : Work) : Action Nat := do
  let ending : UInt8 := if call.has 'z' then 0 else 10
  match ← pathsOf call with
  | .error status => return status
  | .ok paths =>
  match work, paths with
  | .check _, _ :: extra :: _ =>
    complain (utf8 "extra operand " ++ (← quotedName extra) ++ utf8 " not allowed with -c")
    return 2
  | .check reports, _ =>
    match ← allLines ending paths "open failed: " "read failed: " with
    | none => return 2
    | some files =>
      match disorder? (fun a b =>
          if order.isUnique then order.byKeys a b == .lt else order.compare a b != .gt) files.flatten with
      | none => return 0
      | some (line, n) =>
        if reports then
          complain ((← plainName (paths.headD [])) ++ utf8 ":" ++ Bytes.decimal n ++ utf8 ": disorder: " ++
            line)
        return 1
  | work, _ =>
    match ← allLines ending paths "cannot read: " "read failed: " with
    | none => return 2
    | some files =>
      if isRandom order files then leave .abandoned
      let sorted := match work with
        | .merge =>
          let size := sumOf (files.map List.length)
          merge (fun a b => order.compare a b == .lt) (size + 1) files
        | _ => files.flatten.mergeSort fun a b => order.compare a b != .gt
      let sorted := if order.isUnique then withoutRepeats order.byKeys sorted else sorted
      let text := sorted.flatMap (· ++ [ending])
      match call.argument? 'o' with
      | none => printAll text
      | some path => writeAll path text

end Sorting

open Sorting in
/-- Sorts lines, merges sorted files, or checks that they are sorted. -/
def sort (arguments : List Bytes) : Action Nat :=
  withCall ⟨"bcCdfghik:mMno:rRsS:t:T:uVy:z", [⟨"ignore-leading-blanks", 'b', .nothing⟩,
    ⟨"check", 'c', .perhaps⟩, ⟨"compress-program", 'π', .argument⟩, ⟨"debug", 'δ', .nothing⟩,
    ⟨"dictionary-order", 'd', .nothing⟩, ⟨"ignore-case", 'f', .nothing⟩, ⟨"files0-from", 'φ', .argument⟩,
    ⟨"general-numeric-sort", 'g', .nothing⟩, ⟨"ignore-nonprinting", 'i', .nothing⟩,
    ⟨"key", 'k', .argument⟩, ⟨"merge", 'm', .nothing⟩, ⟨"month-sort", 'M', .nothing⟩,
    ⟨"numeric-sort", 'n', .nothing⟩, ⟨"human-numeric-sort", 'h', .nothing⟩,
    ⟨"version-sort", 'V', .nothing⟩, ⟨"random-sort", 'R', .nothing⟩,
    ⟨"random-source", 'ρ', .argument⟩, ⟨"sort", 'σ', .argument⟩, ⟨"output", 'o', .argument⟩,
    ⟨"reverse", 'r', .nothing⟩, ⟨"stable", 's', .nothing⟩, ⟨"batch-size", 'β', .argument⟩,
    ⟨"buffer-size", 'S', .argument⟩, ⟨"field-separator", 't', .argument⟩,
    ⟨"temporary-directory", 'T', .argument⟩, ⟨"unique", 'u', .nothing⟩,
    ⟨"zero-terminated", 'z', .nothing⟩, ⟨"parallel", 'λ', .argument⟩], .atEnd⟩ 2
    (spellOutKeys arguments.length arguments)
    fun call => do
    if call.has 'δ' then leave .abandoned
    let quote := Quotation.text (hasWideCharacters (← get))
    let check := (call.argument? 'c').filter (!·.isEmpty)
    match ← choice? "--sort" (kindWords.map fun entry => [entry.1]) (call.argument? 'σ'),
        ← choice? "--check" [["quiet", "silent"], ["diagnose-first"]] check with
    | .error _, _ | _, .error _ => return 2
    | .ok _, .ok _ =>
    match orderOf quote call, workOf call with
    | .error problem, _ | _, .error problem =>
      complain problem
      return 2
    | .ok order, .ok work => run call order work

end CleanLaunch.Shell.Utility
