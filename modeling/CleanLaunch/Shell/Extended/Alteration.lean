import CleanLaunch.Shell.Extended.Escapes
import CleanLaunch.Shell.Extended.Globs
import CleanLaunch.Shell.Extended.Quoting
import CleanLaunch.Shell.Grammar

/-! What the extended language makes of values.

    A slice keeps a part of a value, a replacement puts another text in place of what a pattern matches,
    and a change of case concerns the letters that a pattern matches. -/

namespace CleanLaunch.Shell

namespace Alteration

/-- The part of a row of things from a place on, perhaps only so many of them. A negative place or length
    counts from the end. Without a result, the part would end before it begins. -/
def slice? {α : Type} (start : Int) (length? : Option Int) (values : List α) : Option (List α) :=
  let count : Int := values.length
  let first := if start < 0 then start + count else start
  if first < 0 || count < first then some []
  else match length? with
    | none => some (values.drop first.toNat)
    | some length =>
      let last := if length < 0 then count + length else first + length
      if last < first then none
      else some ((values.drop first.toNat).take (last - first).toNat)

/-- A piece of a replacement: a text, or what was matched. -/
inductive Piece
  | text (text : Bytes)
  | matched

def Piece.value (found : Bytes) : Piece → Bytes
  | .text own => own
  | .matched => found

/-- A replacement for a match. -/
def replaced (pieces : List Piece) (found : Bytes) : Bytes := pieces.flatMap (·.value found)

/-- How texts are compared with patterns. -/
structure Comparing where
  /-- Are capital letters taken for small ones? -/
  ignoresCase : Bool := false
  /-- May characters have several bytes? -/
  wide : Bool := false

namespace Comparing

def fold (comparing : Comparing) (text : Bytes) : Bytes :=
  if comparing.ignoresCase then Globs.folded comparing.wide text else text

/-- How many bytes at the head of a text a pattern matches at most. -/
def longest? (comparing : Comparing) (pattern text : Bytes) : Option Nat :=
  Globs.startLength? comparing.wide true (comparing.fold pattern) (comparing.fold text)

def isMatch (comparing : Comparing) (pattern text : Bytes) : Bool :=
  Globs.isMatch comparing.wide (comparing.fold pattern) (comparing.fold text)

end Comparing

/-- A text with the first match of a pattern replaced, or with every one. -/
def replaceFrom (comparing : Comparing) (every : Bool) (pattern : Bytes) (pieces : List Piece) :
    (bound : Nat) → Bytes → Bytes
  | 0, text => text
  | _, [] => []
  | bound + 1, text =>
    match (comparing.longest? pattern text).filter (0 < ·) with
    | none =>
      let n := Globs.lengthOf comparing.wide text 1
      text.take n ++ replaceFrom comparing every pattern pieces bound (text.drop n)
    | some n =>
      let after := text.drop n
      replaced pieces (text.take n) ++
        (if every then replaceFrom comparing every pattern pieces bound after else after)

/-- A text with what a pattern matches replaced. A match at an end may be empty. -/
def replace (comparing : Comparing) (anchor : Anchor) (pattern : Bytes) (pieces : List Piece)
    (text : Bytes) : Bytes :=
  match anchor with
  | .atStart =>
    match comparing.longest? pattern text with
    | some n => replaced pieces (text.take n) ++ text.drop n
    | none => text
  | .atEnd =>
    match Globs.endStart? comparing.wide true (comparing.fold pattern) (comparing.fold text) with
    | some n => text.take n ++ replaced pieces (text.drop n)
    | none => text
  | .first | .every =>
    if pattern.isEmpty then text
    else if text.isEmpty then (if Globs.isMatch comparing.wide pattern [] then replaced pieces [] else [])
    else replaceFrom comparing (anchor = .every) pattern pieces (text.length + 1) text

/-- A letter in another case. -/
def recased (letterCase : LetterCase) (code : Nat) : Nat :=
  match letterCase with
  | .upper => Character.toUpper code
  | .lower => Character.toLower code
  | .other => if Character.isLower code then Character.toUpper code else Character.toLower code

/-- A text with the case of its first character changed, or of every one, if a pattern matches it. Without a
    pattern, all are matched. -/
def recase (comparing : Comparing) (letterCase : LetterCase) (every : Bool) (pattern text : Bytes) :
    Bytes :=
  let change (piece : Bytes) : Bytes :=
    if pattern.isEmpty || comparing.isMatch pattern piece then
      Character.map comparing.wide (recased letterCase) piece
    else piece
  match Character.pieces comparing.wide text with
  | [] => []
  | first :: rest => change first ++ (if every then rest.map change else rest).flatten

/-- What an operator makes of a value. -/
def transform? (comparing : Comparing) (operator : UInt8) (value : Bytes) : Option Bytes :=
  let recase (letterCase : LetterCase) (every : Bool) : Bytes := recase comparing letterCase every [] value
  match Char.ofNat operator.toNat with
  | 'Q' | 'K' | 'k' => some (Quoting.reusable comparing.wide value)
  | 'E' => some (Escapes.replaced .quotation value).1
  | 'P' => some value
  | 'U' => some (recase .upper true)
  | 'u' => some (recase .upper false)
  | 'L' => some (recase .lower true)
  | _ => none

end Alteration

end CleanLaunch.Shell
