import CleanLaunch.Shell.Pattern

/-! Cutting expanded words into fields.

    An expanded word is a list of `Mark`s: bytes, the places where quotations began or ended, and the
    borders of regions. A region is what came out of an expansion, and only there do separators
    divide fields. `Splitting.splitFields` cuts a word at them; with a limit on the number of fields, the
    last one keeps its separators, as `read` needs it. -/

namespace CleanLaunch.Shell

/-- A part of an expanded word. -/
inductive Mark
  /-- A byte. `isEscaped` says that it stands for itself in a pattern. -/
  | byte (value : UInt8) (isEscaped : Bool)
  /-- A quotation begins or ends. -/
  | quote
  /-- A region begins; `atNuls` says that only NULs divide fields there. -/
  | begins (atNuls : Bool)
  /-- A region ends. -/
  | ends
  /-- Fields are divided here whatever separators there are. -/
  | divides
  deriving DecidableEq

namespace Mark

/-- The bytes of marks. -/
def text (marks : List Mark) : Bytes :=
  marks.filterMap fun mark => match mark with
    | .byte value _ => some value
    | _ => none

/-- Marks of bytes that have no meaning but themselves unless they are special in a pattern. -/
def plain (bytes : Bytes) : List Mark := bytes.map (.byte · false)

/-- The pattern that marks stand for. `keeps` says that the byte before was a backslash out of an
    expansion, which already quotes the next byte. -/
def patternFrom (keeps : Bool) : List Mark → Bytes
  | [] => []
  | .byte value isEscaped :: rest =>
    if isEscaped then (if keeps then [value] else [92, value]) ++ patternFrom false rest
    else value :: patternFrom (value == 92) rest
  | .quote :: rest => patternFrom false rest
  | _ :: rest => patternFrom keeps rest

/-- The pattern that marks stand for. -/
def pattern (marks : List Mark) : Bytes := patternFrom false marks

end Mark

/-- A word that is being cut. -/
structure Splitting where
  /-- Fields that have been cut off, the last one first. -/
  fields : List (List Mark) := []
  /-- Marks of the field in the making, the last one first. -/
  current : List Mark := []
  /-- The region that is being passed through, and whether only NULs divide it. -/
  region : Option Bool := none
  /-- Was the last region divided at NULs only? And the one before it? -/
  atNuls : Bool := false
  afterNuls : Bool := false
  /-- Was the last separator a blank, with nothing but blanks since? -/
  afterBlank : Bool := false
  /-- Separators that may still divide. -/
  remaining : Option Nat := none
  /-- Length of the last field without the separators at its end, while it may still end there. -/
  cut : Option Nat := none

namespace Splitting

def isBlank (byte : UInt8) : Bool := byte == 32 || byte == 9 || byte == 10 || byte == 0

def keep (splitting : Splitting) (mark : Mark) : Splitting :=
  { splitting with current := mark :: splitting.current }

/-- A byte of the last field, which is not divided any more. -/
def addLast (splitting : Splitting) (mark : Mark) (isSeparator isBlank : Bool) : Splitting :=
  let kept := splitting.keep mark
  if isBlank then { kept with cut := splitting.cut.or (some splitting.current.length) }
  else
    { kept with
      cut := if isSeparator && splitting.afterBlank then splitting.cut else none
      afterBlank := false }

/-- A byte in a region. -/
def addByte (separators : Bytes) (splitting : Splitting) (value : UInt8) (isEscaped : Bool) :
    Splitting :=
  let mark := Mark.byte value isEscaped
  let isSeparator := value == 0 || (splitting.region == some false && separators.contains value)
  let blank := isSeparator && isBlank value
  if splitting.remaining = some 0 then splitting.addLast mark isSeparator blank
  else if splitting.afterBlank then
    if blank then { splitting with current := [] }
    else if isSeparator then { splitting with current := [], afterBlank := false }
    else { splitting with current := [mark], afterBlank := false }
  else if isSeparator then
    let afterBlank := blank && !splitting.afterNuls && !splitting.atNuls
    if splitting.current.isEmpty && afterBlank then splitting
    else if splitting.remaining = some 1 then
      { splitting with
        remaining := some 0, cut := some splitting.current.length, afterBlank
        current := mark :: splitting.current }
    else
      { splitting with
        fields := splitting.current.reverse :: splitting.fields, current := [], afterBlank
        remaining := splitting.remaining.map (· - 1) }
  else splitting.keep mark

def add (separators : Bytes) (splitting : Splitting) : Mark → Splitting
  | .begins atNuls =>
    { splitting with region := some atNuls, atNuls, afterNuls := splitting.atNuls, afterBlank := false }
  | .ends => { splitting with region := none }
  | .divides => splitting
  | .quote => splitting.keep .quote
  | .byte value isEscaped =>
    if splitting.region.isSome then addByte separators splitting value isEscaped
    else splitting.keep (.byte value isEscaped)

/-- The fields of a word under a set of separators, at most a number of them if one is given. -/
def fieldsAtMost (limit : Option Nat) (separators : Bytes) (marks : List Mark) : List (List Mark) :=
  let done := marks.foldl (add separators) { remaining := limit }
  let last := match done.cut with
    | some length => done.current.reverse.take length
    | none => done.current.reverse
  let all := if last.isEmpty && !done.atNuls then done.fields else last :: done.fields
  all.reverse

/-- The fields of a word under a set of separators. -/
def splitFields (separators : Bytes) (marks : List Mark) : List (List Mark) :=
  fieldsAtMost none separators marks

/-- Regions that meet as one region. -/
def joined : List Mark → List Mark
  | .ends :: .begins false :: rest => joined rest
  | mark :: rest => mark :: joined rest
  | [] => []

/-- A word in the pieces that it is divided into whatever separators there are. -/
def pieces : (read : List Mark) → List Mark → List (List Mark)
  | read, [] => [read.reverse]
  | read, .divides :: rest => read.reverse :: pieces [] rest
  | read, mark :: rest => pieces (mark :: read) rest

/-- Has a piece neither bytes nor quotations? -/
def isVoid (piece : List Mark) : Bool :=
  piece.all fun mark => match mark with
    | .byte .. | .quote => false
    | _ => true

/-- The fields of a word whose pieces are cut one by one. A piece of nothing is a field too, unless it is the
    last one. -/
def dividedFields (separators : Bytes) (marks : List Mark) : List (List Mark) :=
  match pieces [] marks with
  | [whole] => splitFields separators (joined whole)
  | all =>
    let all := if all.getLast?.any isVoid then all.dropLast else all
    all.flatMap fun piece => if isVoid piece then [[]] else splitFields separators (joined piece)

end Splitting

end CleanLaunch.Shell
