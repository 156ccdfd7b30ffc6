import CleanLaunch.Shell.Number
import CleanLaunch.Shell.Grammar

/-! Words with alternatives in braces.

    `Braces.expand` makes a word for every alternative: for each of the words between commas in a pair of
    braces, or for each member of a sequence such as `1..5`. Braces in quotes, and pairs that hold
    neither, stand for themselves. -/

namespace CleanLaunch.Shell

namespace Braces

/-- A part of a word, with whether it stands outside of quotations. -/
abbrev Piece := Part × Bool

/-- The parts of a word with what is known of each. -/
def pieces : (isBare : Bool) → Word → List Piece
  | _, [] => []
  | isBare, .quote :: rest => (.quote, false) :: pieces (!isBare) rest
  | isBare, part :: rest => (part, isBare) :: pieces isBare rest

def word (pieces : List Piece) : Word := pieces.map (·.1)

/-- The byte of a piece outside of quotations. -/
def byte? : Piece → Option UInt8
  | (.bare byte, true) => some byte
  | _ => none

def isByte (byte : UInt8) (piece : Piece) : Bool := byte? piece = some byte

/-- The pieces up to the brace that closes a pair, and those behind it. There must be a comma, or the dots
    of a sequence, in the pair itself. -/
def closing? : (depth : Nat) → (divides : Bool) → (inside : List Piece) → List Piece →
    Option (List Piece × List Piece)
  | _, _, _, [] => none
  | depth, divides, inside, piece :: rest =>
    if isByte 123 piece then closing? (depth + 1) divides (piece :: inside) rest
    else if isByte 125 piece then
      if depth = 0 && divides then some (inside.reverse, rest)
      else closing? (depth - 1) divides (piece :: inside) rest
    else
      let isDots := isByte 46 piece && rest.head?.any (isByte 46)
      let divides := divides || (depth = 0 && (isByte 44 piece || isDots))
      closing? depth divides (piece :: inside) rest

/-- The words between the commas that stand outside of inner braces. -/
def alternatives : (depth : Nat) → (current : List Piece) → List Piece → List (List Piece)
  | _, current, [] => [current.reverse]
  | depth, current, piece :: rest =>
    if isByte 44 piece && depth = 0 then current.reverse :: alternatives 0 [] rest
    else
      let depth := if isByte 123 piece then depth + 1 else if isByte 125 piece then depth - 1 else depth
      alternatives depth (piece :: current) rest

/-- An end of a sequence: a number, or a single letter. -/
inductive Bound
  | number (value : Int) (text : Bytes)
  | letter (value : UInt8)

def isLetter (byte : UInt8) : Bool := (65 ≤ byte && byte ≤ 90) || (97 ≤ byte && byte ≤ 122)

/-- The end of a sequence that a text is. -/
def bound? (text : Bytes) : Option Bound :=
  match text with
  | [byte] => if Bytes.isDigit byte then some (.number (Bytes.digitValue byte) text)
    else if isLetter byte then some (.letter byte) else none
  | _ => (Number.ofText? (some 10) text).map (.number · text)

/-- Members from one end of a sequence to the other. -/
def members (first last step : Int) : List Int :=
  let size := max 1 step.natAbs
  let count := (last - first).natAbs / size + 1
  (List.range count).map fun n =>
    let distance : Int := Int.ofNat (n * size)
    if first ≤ last then first + distance else first - distance

/-- Is a number written with zeros before it? -/
def isPadded (text : Bytes) : Bool :=
  match text with
  | 48 :: _ :: _ => true
  | 45 :: 48 :: _ => true
  | _ => false

/-- A number with zeros before it up to a width. -/
def padded (width : Nat) (value : Int) : Bytes :=
  let digits := Bytes.decimal value.natAbs
  let sign : Bytes := if value < 0 then [45] else []
  sign ++ List.replicate (width - sign.length - digits.length) 48 ++ digits

/-- Where a text is divided by two dots. -/
def dotted : (bound : Nat) → (current : Bytes) → Bytes → List Bytes
  | 0, current, _ => [current.reverse]
  | _, current, [] => [current.reverse]
  | bound + 1, current, 46 :: 46 :: rest => current.reverse :: dotted bound [] rest
  | bound + 1, current, byte :: rest => dotted bound (byte :: current) rest

/-- Longest sequence that is followed. -/
def maxLength : Nat := 1000000

/-- The members of a sequence, if a text is one. -/
def sequence? (text : Bytes) : Option (List Bytes) :=
  let make (first last : Bytes) (step : Int) : Option (List Bytes) :=
    match bound? first, bound? last with
    | some (.number a first), some (.number b last) =>
      if (b - a).natAbs / max 1 step.natAbs ≤ maxLength then
        let width := if isPadded first || isPadded last then max first.length last.length else 0
        some ((members a b step).map (padded width))
      else none
    | some (.letter a), some (.letter b) =>
      some ((members a.toNat b.toNat step).map fun n => [n.toNat.toUInt8])
    | _, _ => none
  match dotted (text.length + 1) [] text with
  | [first, last] => make first last 1
  | [first, last, step] => (Number.ofText? (some 10) step).bind (make first last)
  | _ => none

/-- The bytes of pieces that are nothing but bytes outside of quotations. -/
def bareBytes (pieces : List Piece) : Option Bytes := pieces.mapM byte?

/-- A byte of a member of a sequence. A backslash only protects what follows it. -/
def member (byte : UInt8) : List Piece :=
  if byte == 92 then [(.quote, false), (.quote, false)] else [(.literal byte, true)]

/-- The words that a word stands for. `before` is what has been read without finding a pair of braces. -/
def expandFrom : (bound : Nat) → (before : List Piece) → List Piece → List (List Piece)
  | 0, before, rest => [before.reverse ++ rest]
  | _, before, [] => [before.reverse]
  | bound + 1, before, piece :: rest =>
    match if isByte 123 piece then closing? 0 false [] rest else none with
    | none => expandFrom bound (piece :: before) rest
    | some (inside, after) =>
      let hasComma := (alternatives 0 [] inside).length ≠ 1
      let choices : List (List Piece) :=
        if hasComma then (alternatives 0 [] inside).flatMap (expandFrom bound [])
        else match (bareBytes inside).bind sequence? with
          | some texts => texts.map fun text => text.flatMap member
          | none => [piece :: inside ++ [(.bare 125, true)]]
      let ends := expandFrom bound [] after
      choices.flatMap fun choice => ends.map fun ending => before.reverse ++ choice ++ ending

/-- The words that a word stands for. -/
def expand (word : Word) : List Word :=
  let all := pieces true word
  if all.any (isByte 123) then (expandFrom (all.length + 1) [] all).map Braces.word else [word]

end Braces

end CleanLaunch.Shell
