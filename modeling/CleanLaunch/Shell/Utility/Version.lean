import CleanLaunch.Bytes

/-! The order of names with versions in them.

    Runs of digits compare as numbers, and a tilde comes before everything, even the end of a name. Endings
    like `.tar.gz` count only between names that are equal without them. -/

namespace CleanLaunch.Shell

namespace Version

def isLetter (byte : UInt8) : Bool := (65 ≤ byte && byte ≤ 90) || (97 ≤ byte && byte ≤ 122)

/-- The rank of what a text begins with, where that is no digit. -/
def rank (text : Bytes) : Int :=
  match text with
  | [] => -1
  | byte :: _ =>
    if Bytes.isDigit byte then 0
    else if isLetter byte then byte.toNat
    else if byte == 126 then -2
    else byte.toNat + 256

/-- Compares two texts up to their next digits: they differ there, or the rest of both is left. -/
def compareWords : (bound : Nat) → Bytes → Bytes → Ordering × Bytes × Bytes
  | 0, a, b => (.eq, a, b)
  | bound + 1, a, b =>
    let isNoDigit (text : Bytes) : Bool := match text with
      | byte :: _ => !Bytes.isDigit byte
      | [] => false
    if isNoDigit a || isNoDigit b then
      match compare (rank a) (rank b) with
      | .eq => compareWords bound (a.drop 1) (b.drop 1)
      | answer => (answer, a, b)
    else (.eq, a, b)

/-- Compares two texts part by part: words, and numbers between them. -/
def compareParts : (bound : Nat) → Bytes → Bytes → Ordering
  | 0, _, _ => .eq
  | bound + 1, a, b =>
    if a.isEmpty && b.isEmpty then .eq
    else match compareWords (a.length + b.length + 1) a b with
      | (.eq, a, b) =>
        let number (text : Bytes) : Bytes := (text.takeWhile Bytes.isDigit).dropWhile (· == 48)
        let (x, y) := (number a, number b)
        let answer := (compare x.length y.length).then
          (if x < y then .lt else if y < x then .gt else .eq)
        if answer = .eq then
          compareParts bound (a.dropWhile Bytes.isDigit) (b.dropWhile Bytes.isDigit)
        else answer
      | (answer, _, _) => answer

def compareAll (a b : Bytes) : Ordering := compareParts (a.length + b.length + 1) a b

/-- Is a text nothing but endings, each a point and a word that begins with a letter? -/
def isEndings : (bound : Nat) → Bytes → Bool
  | 0, text => text.isEmpty
  | bound + 1, text =>
    match text with
    | [] => true
    | 46 :: byte :: rest =>
      (isLetter byte || byte == 126) &&
        isEndings bound (rest.dropWhile fun other => isLetter other || Bytes.isDigit other || other == 126)
    | _ => false

/-- A name without its endings. The first byte of a name belongs to none. -/
def withoutEndings (name : Bytes) : Bytes :=
  let lengths := (List.range name.length).map (· + 1)
  match lengths.find? fun n => isEndings name.length (name.drop n) with
  | some n => name.take n
  | none => name

/-- Names that come before all others, in their order. -/
def special (name : Bytes) : Nat :=
  if name.isEmpty then 0
  else if name = [46] then 1
  else if name = [46, 46] then 2
  else if name.head? == some 46 then 3
  else 4

/-- How two names compare. -/
def order (a b : Bytes) : Ordering :=
  (compare (special a) (special b)).then <|
    if special a < 3 then .eq
    else (compareAll (withoutEndings a) (withoutEndings b)).then (compareAll a b)

end Version

end CleanLaunch.Shell
