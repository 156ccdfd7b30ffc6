import CleanLaunch.Shell.Utility.Expression

/-! Lines that match patterns.

    `Matching` holds the patterns of a search with what counts as a match: any part of a line, whole words,
    or whole lines. `Matching.parts` gives all matches in a line, from the left. -/

namespace CleanLaunch.Shell

/-- Patterns that are searched for, each with how it looks at a line. -/
structure Matching where
  patterns : List (Regular × Regular.Look)
  wholeWords : Bool := false
  wholeLines : Bool := false

namespace Matching

open Regular (Place)

/-- Is an end a match from a place that counts? -/
def counts (matching : Matching) (look : Regular.Look) (place ending : Place) : Bool :=
  let isWord (code : Option Nat) : Bool := code.any (Regular.isWord look)
  if matching.wholeLines then place.offset = 0 && ending.rest.isEmpty
  else if matching.wholeWords then !isWord (place.last? look) && !isWord (ending.next? look)
  else true

/-- The longest match from a place, or the preferred one of a pattern that is so. -/
def matchAt? (matching : Matching) (place : Place) : Option Place :=
  matching.patterns.foldl (fun best (expression, look) =>
    let all := (expression.ends look place).filter (matching.counts look place)
    let all := if look.byPreference then all.take 1 else all
    all.foldl (fun (best : Option Place) ending =>
      if best.all (·.offset < ending.offset) then some ending else best) best) none

/-- The first match at or behind a place. -/
def find? (matching : Matching) : (bound : Nat) → Place → Option (Place × Place)
  | 0, _ => none
  | bound + 1, place =>
    match matching.matchAt? place with
    | some ending => some (place, ending)
    | none =>
      let wide := matching.patterns.any (·.2.wide)
      match Character.first? wide place.rest with
      | none => none
      | some (_, length) => find? matching bound (place.advance length)

/-- Is there a match in a line? -/
def isIn (matching : Matching) (line : Bytes) : Bool :=
  (matching.find? (line.length + 1) (.start line)).isSome

/-- All matches behind a place that are not empty, each with its offset. -/
def partsFrom (matching : Matching) : (bound : Nat) → Place → List (Nat × Bytes)
  | 0, _ => []
  | bound + 1, place =>
    match matching.find? (place.rest.length + 1) place with
    | none => []
    | some (first, last) =>
      let skipped := last.origin.getD first.offset - first.offset
      let part := (first.rest.take (last.offset - first.offset)).drop skipped
      if last.offset = first.offset then
        if first.rest.isEmpty then [] else partsFrom matching bound (first.advance 1)
      else
        let next := { last with origin := none, groups := [] }
        if part.isEmpty then partsFrom matching bound next
        else (first.offset + skipped, part) :: partsFrom matching bound next

/-- All matches in a line that are not empty, each with its offset. -/
def parts (matching : Matching) (line : Bytes) : List (Nat × Bytes) :=
  matching.partsFrom (line.length + 1) (.start line)

end Matching

end CleanLaunch.Shell
