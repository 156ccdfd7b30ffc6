import CleanLaunch.Shell.Builtin.Printing
import CleanLaunch.Shell.Utility.Input

/-! The utility `tr`, which translates, squeezes or deletes bytes.

    A set is written as single bytes, escapes, ranges, classes and repetitions. To translate, the bytes of two
    sets are paired; the small letters and the capital ones can be paired as a whole, which changes case. -/

namespace CleanLaunch.Shell.Utility

open Shell.Action

namespace Translation

/-- A part of a set. -/
inductive Part
  | one (byte : UInt8)
  | range (first last : UInt8)
  | members (name : String)
  /-- A byte and those that are the same in a collating sequence, which are none. -/
  | same (byte : UInt8)
  | repeated (byte : UInt8) (count : Nat)
  /-- A byte that fills the set up to the length of the other one. -/
  | fill (byte : UInt8)
  deriving DecidableEq

def allBytes : Bytes := (List.range 256).map (·.toUInt8)

/-- The classes, each with its ranges. -/
def classes : List (String × List (Nat × Nat)) :=
  [("upper", [(65, 90)]), ("lower", [(97, 122)]), ("alpha", [(65, 90), (97, 122)]), ("digit", [(48, 57)]),
   ("alnum", [(48, 57), (65, 90), (97, 122)]), ("space", [(9, 13), (32, 32)]),
   ("blank", [(9, 9), (32, 32)]), ("punct", [(33, 47), (58, 64), (91, 96), (123, 126)]),
   ("cntrl", [(0, 31), (127, 127)]), ("print", [(32, 126)]), ("graph", [(33, 126)]),
   ("xdigit", [(48, 57), (65, 70), (97, 102)])]

/-- The bytes of a class. -/
def classBytes (name : String) : Bytes :=
  let ranges := (classes.lookup name).getD []
  allBytes.filter fun byte => ranges.any fun (low, high) => low ≤ byte.toNat && byte.toNat ≤ high

/-- A byte of a set, and whether a backslash stood before it. -/
abbrev Mark := UInt8 × Bool

/-- Is a mark that byte, as it is? -/
def isBare (byte : UInt8) (mark : Mark) : Bool := mark == (byte, false)

/-- What is read of an escape behind a backslash: the byte, the rest, and a warning. -/
def escape (text : Bytes) : Mark × Bytes × Option Bytes :=
  match text with
  | [] => ((92, false), [], some (utf8 "warning: an unescaped backslash at end of string is not portable"))
  | letter :: rest =>
    if Printing.isOctal letter then
      let digits := (text.take 3).takeWhile Printing.isOctal
      let value (digits : Bytes) : Nat := (Number.digits 8 digits).1
      if value digits ≤ 255 then (((value digits).toUInt8, true), text.drop digits.length, none)
      else
        let two := digits.take 2
        (((value two).toUInt8, true), text.drop 2, some (utf8 "warning: the ambiguous octal escape \\" ++
          digits ++ utf8 " is being\n\tinterpreted as the 2-byte sequence \\0" ++ two ++ utf8 ", " ++
          digits.drop 2))
    else
      let value := ([(97, 7), (98, 8), (102, 12), (110, 10), (114, 13), (116, 9), (118, 11)] :
        List (UInt8 × UInt8)).lookup letter
      ((value.getD letter, true), rest, none)

/-- A set without its escapes, and warnings about them. -/
def marks : (bound : Nat) → Bytes → List Mark × List Bytes
  | 0, _ | _, [] => ([], [])
  | bound + 1, 92 :: rest =>
    let (mark, rest, warning) := escape rest
    let (more, warnings) := marks bound rest
    (mark :: more, warning.toList ++ warnings)
  | bound + 1, byte :: rest =>
    let (more, warnings) := marks bound rest
    ((byte, false) :: more, warnings)

/-- A byte in a message. -/
def shownByte (byte : UInt8) : Bytes :=
  if 32 ≤ byte && byte ≤ 126 then [byte]
  else [92, 48 + byte / 64, 48 + byte / 8 % 8, 48 + byte % 8]

/-- Bytes in a message. -/
def shown (bytes : Bytes) : Bytes :=
  bytes.flatMap fun byte =>
    if 7 ≤ byte && byte ≤ 13 then Quotation.escape byte else shownByte byte

/-- What a construct in brackets is. -/
inductive Bracketed
  | part (part : Part) (rest : List Mark)
  | wrong (problem : Bytes)
  | no

/-- A class in brackets; `text` is behind the opening bracket. `quote` puts a word into quotation marks. -/
def classIn (quote : Bytes → Bytes) (text : List Mark) : Bracketed :=
  match text with
  | (mark, false) :: rest =>
    if mark == 58 || mark == 61 then
      let isEnd (n : Nat) : Bool := match rest.drop n with
        | first :: second :: _ => isBare mark first && isBare 93 second
        | _ => false
      match (List.range rest.length).find? isEnd with
      | none => .no
      | some length =>
        let name := (rest.take length).map (·.1)
        let after := rest.drop (length + 2)
        let isRepetition : Bool := match rest with
          | star :: more => isBare 42 star &&
              ((more.dropWhile fun mark => Bytes.isDigit mark.1).head?).any (isBare 93)
          | [] => false
        if name.isEmpty then .wrong (utf8 (if mark == 58 then "missing character class name '[::]'"
          else "missing equivalence class character '[==]'"))
        else if mark == 58 then
          match classes.find? fun entry => utf8 entry.1 = name with
          | some (name, _) => .part (.members name) after
          | none => if isRepetition then .no
              else .wrong (utf8 "invalid character class " ++ quote (shown name))
        else match name with
          | [byte] => .part (.same byte) after
          | _ => if isRepetition then .no
              else .wrong (shown name ++ utf8 ": equivalence class operand must be a single character")
    else .no
  | _ => .no

/-- A repetition in brackets; `text` is behind the opening bracket. -/
def repetitionIn (quote : Bytes → Bytes) (text : List Mark) : Bracketed :=
  match text with
  | (byte, _) :: (42, false) :: rest =>
    let digits := rest.takeWhile fun mark => !mark.2 && mark.1 != 93
    match rest.drop digits.length with
    | (93, false) :: after =>
      let digits := digits.map (·.1)
      let base := if digits.head? == some 48 then 8 else 10
      if digits.isEmpty then .part (.fill byte) after
      else if digits.all fun digit => (Number.digit? base digit).isSome then
        let count := (Number.digits base digits).1
        if 18446744073709551615 ≤ count then
          .wrong (utf8 "invalid repeat count " ++ quote (shown digits) ++ utf8 " in [c*n] construct")
        else .part (if count = 0 then .fill byte else .repeated byte count) after
      else .wrong (utf8 "invalid repeat count " ++ quote (shown digits) ++ utf8 " in [c*n] construct")
    | _ => .no
  | _ => .no

/-- The parts of a set. -/
def parts (quote : Bytes → Bytes) : (bound : Nat) → List Mark → Except Bytes (List Part)
  | 0, _ | _, [] => .ok []
  | bound + 1, mark :: rest =>
    let goOn (part : Part) (rest : List Mark) : Except Bytes (List Part) :=
      (part :: ·) <$> parts quote bound rest
    let plain : Except Bytes (List Part) := match rest with
      | (45, false) :: (last, _) :: after =>
        if last < mark.1 then
          .error (utf8 "range-endpoints of '" ++ shownByte mark.1 ++ [45] ++ shownByte last ++
            utf8 "' are in reverse collating sequence order")
        else goOn (.range mark.1 last) after
      | _ => goOn (.one mark.1) rest
    if isBare 91 mark && 2 ≤ rest.length then
      match classIn quote rest with
      | .wrong problem => .error problem
      | .part part after => goOn part after
      | .no => match repetitionIn quote rest with
        | .wrong problem => .error problem
        | .part part after => goOn part after
        | .no => plain
    else plain

/-- The bytes of a part. -/
def Part.bytes : Part → Bytes
  | .one byte | .same byte => [byte]
  | .range first last => allBytes.filter fun byte => first ≤ byte && byte ≤ last
  | .members name => classBytes name
  | .repeated byte count => List.replicate count byte
  | .fill _ => []

/-- How many bytes a part has. -/
def Part.size : Part → Nat
  | .repeated _ count => count
  | part => part.bytes.length

def size (parts : List Part) : Nat := sumOf (parts.map Part.size)

def Part.isMembers : Part → Bool
  | .members _ => true
  | _ => false

/-- Is a part the letters of one case? -/
def Part.isCased (part : Part) : Bool := part = .members "upper" || part = .members "lower"

def Part.isFill : Part → Bool
  | .fill _ => true
  | _ => false

/-- A set with its filling byte repeated up to a length. -/
def filled (length : Nat) (set : List Part) : List Part :=
  if (set.filter Part.isFill).length = 1 && size set ≤ length then
    set.map fun part => match part with
      | .fill byte => .repeated byte (length - size set)
      | part => part
  else set

/-- The bytes of a set. -/
def bytes (set : List Part) : Bytes := set.flatMap Part.bytes

/-- What is paired of a set: a byte, or the letters of one case. -/
inductive Item
  | byte (byte : UInt8)
  | cased (isUpper : Bool)

def items (set : List Part) : List Item :=
  set.flatMap fun part =>
    if part.isCased then [.cased (part = .members "upper")] else part.bytes.map .byte

/-- Pairs two sets, as far as both go. The letters of a case in the second one must stand where such letters
    begin in the first one; none means that they do not. Also tells how many such pairs there are. -/
def pairs : (bound : Nat) → List Item → List Item → Option (List (UInt8 × UInt8) × Nat)
  | 0, _, _ => some ([], 0)
  | bound + 1, first, second =>
    let letters (isUpper : Bool) : Bytes := classBytes (if isUpper then "upper" else "lower")
    match first, second with
    | .cased upper :: first, .cased capital :: second => do
      let (rest, count) ← pairs bound first second
      return ((letters upper).zip (letters capital) ++ rest, count + 1)
    | _, .cased _ :: _ => none
    | .cased upper :: first, second => pairs bound ((letters upper).map .byte ++ first) second
    | .byte byte :: first, .byte other :: second => do
      let (rest, count) ← pairs bound first second
      return ((byte, other) :: rest, count)
    | _, _ => some ([], 0)

/-- Drops every byte that repeats the one before it and is in a set. -/
def squeeze (set : Bytes) (text : Bytes) : Bytes :=
  (text.foldl (fun (kept : Bytes) byte =>
    if kept.head? == some byte && set.contains byte then kept else byte :: kept) []).reverse

/-- What a call asks for. -/
structure Request where
  deletes : Bool
  squeezes : Bool
  complements : Bool
  truncates : Bool

/-- What is wrong with the second of two sets when bytes are translated, the size of the first one
    being known. -/
def problem? (request : Request) (first second : List Part) (size₁ size₂ : Nat) : Option String :=
  let isExtended := size₂ < size₁ && !request.truncates
  let last := second.getLast?
  if isExtended && size₂ = 0 then some "when not truncating set1, string2 must be non-empty"
  else if isExtended && last.any Part.isMembers then
    some "when translating with string1 longer than string2,\nthe latter string must not end with a character class"
  else
    let isWhole := size₂ = size₁ || isExtended
    let all := bytes second
    if request.complements && first.any Part.isMembers &&
        !(isWhole && all.all fun byte => some byte == all.head?) then
      some "when translating with complemented character classes,\nstring2 must map all characters in the domain to one"
    else none

/-- How bytes are translated: pairs of a byte and what it becomes, a later pair counting more than an earlier
    one, or what is wrong. -/
def translation (request : Request) (first second : List Part) : Except String (List (UInt8 × UInt8)) := do
  if second.any fun part => match part with | .same _ => true | _ => false then
    throw "[=c=] expressions may not appear in string2 when translating"
  if second.any fun part => part.isMembers && !part.isCased then
    throw "when translating, the only character classes that may appear in\nstring2 are 'upper' and 'lower'"
  let known := bytes first
  let others := allBytes.filter (!known.contains ·)
  let size₁ := if request.complements then others.length else size first
  let size₂ := size second
  let extended (size₁ size₂ : Nat) : List Part :=
    match (bytes second).getLast? with
    | some byte => if size₂ < size₁ && !request.truncates then second ++ [.repeated byte (size₁ - size₂)]
        else second
    | none => second
  if request.complements then
    match problem? request first second size₁ size₂ with
    | some problem => throw problem
    | none => return others.zip (bytes (extended size₁ size₂))
  else
    let bound := 2 * (size₁ + size₂) + 2
    match pairs bound (items first) (items second) with
    | none => throw "misaligned [:upper:] and/or [:lower:] construct"
    | some (_, count) =>
      let size₁ := size₁ - 25 * count
      let size₂ := size₂ - 25 * count
      match problem? request first second size₁ size₂ with
      | some problem => throw problem
      | none =>
        return ((pairs (2 * bound) (items first) (items (extended size₁ size₂))).map (·.1)).getD []

/-- What is done with the bytes of the input, or what is wrong. -/
def change (request : Request) (first : List Part) (second? : Option (List Part)) :
    Except String (Bytes → Bytes) := do
  let known := bytes first
  let isFirst (byte : UInt8) : Bool := known.contains byte != request.complements
  if first.any Part.isFill then throw "the [c*] repeat construct may not appear in string1"
  match second? with
  | none =>
    return fun text => if request.deletes then text.filter (!isFirst ·)
      else squeeze (allBytes.filter isFirst) text
  | some second =>
    let length := if request.complements then (allBytes.filter isFirst).length else size first
    if 1 < (second.filter Part.isFill).length then
      throw "only one [c*] repeat construct may appear in string2"
    let second := if request.deletes then second else filled length second
    if request.deletes then
      if second.any Part.isFill then throw "the [c*] construct may appear in string2 only when translating"
      return fun text => squeeze (bytes second) (text.filter (!isFirst ·))
    else
      let pairs := (← translation request first second).reverse
      let table := (allBytes.map fun byte => (pairs.lookup byte).getD byte).toArray
      return fun text =>
        let translated := text.map fun byte => table.getD byte.toNat byte
        if request.squeezes then squeeze (bytes second) translated else translated

/-- Reads a set, after warnings about it. -/
def read (text : Bytes) : Action (Except Bytes (List Part)) := do
  let quote := Quotation.text (hasWideCharacters (← get))
  let (marks, warnings) := marks text.length text
  for warning in warnings do complain warning
  return parts quote (marks.length + 1) marks

end Translation

open Translation in
/-- Translates, squeezes or deletes bytes of the input. -/
def tr (arguments : List Bytes) : Action Nat :=
  withCall ⟨"AcCdst", [⟨"complement", 'c', .nothing⟩, ⟨"delete", 'd', .nothing⟩,
    ⟨"squeeze-repeats", 's', .nothing⟩, ⟨"truncate-set1", 't', .nothing⟩], .atOperand⟩ 1 arguments
    fun call => do
    let request : Translation.Request := {
      deletes := call.has 'd', squeezes := call.has 's', complements := (call.last? "cC").isSome
      truncates := call.has 't' }
    let least := if request.deletes == request.squeezes then 2 else 1
    let most := if request.deletes && !request.squeezes then 1 else 2
    let stop (problem : Bytes) : Action Nat := do
      complain problem
      return 1
    let explain (why : String) : Action Nat := do
      printError (utf8 why ++ [10])
      suggestHelp
      return 1
    match call.operands, call.operands.drop most with
    | [], _ => missingOperand "operand"
    | _, extra :: _ =>
      complain (utf8 "extra operand " ++ (← quoted extra))
      if call.operands.length = 2 then
        explain "Only one string may be given when deleting without squeezing repeats."
      else
        suggestHelp
        return 1
    | first :: others, [] =>
      if call.operands.length < least then
        complain (utf8 "missing operand after " ++ (← quoted ((call.operands.getLast?).getD first)))
        explain (if request.squeezes then
          "Two strings must be given when both deleting and squeezing repeats."
          else "Two strings must be given when translating.")
      else
        match ← read first with
        | .error problem => stop problem
        | .ok first =>
          let second ← match others with
            | [] => pure (.ok none)
            | other :: _ => pure ((← read other).map some)
          match second with
          | .error problem => stop problem
          | .ok second => match change request first second with
            | .error problem => stop (utf8 problem)
            | .ok change => match ← readAll 0 with
              | .error errno => stop (utf8 "read error: " ++ errno.wording)
              | .ok text =>
                print (change text)
                finish 0 1

end CleanLaunch.Shell.Utility
