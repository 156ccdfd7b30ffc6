import CleanLaunch.Shell.Character

/-! Regular expressions, and where they match.

    An expression matches from a place in a text up to several other places. `Regular.ends` gives all of
    them, those that a greedy reader prefers first; of the matches from one place the longest counts, and
    of those the one that is preferred. -/

namespace CleanLaunch.Shell

/-- A set of characters, by their codes. -/
structure CharacterSet where
  ranges : List (Nat × Nat) := []
  classes : List (Nat → Bool) := []
  isNegated : Bool := false

/-- Does a character belong to a set? `folds` says that case makes no difference, and `wide` that
    characters may have several bytes. -/
def CharacterSet.contains (folds wide : Bool) (set : CharacterSet) (code : Nat) : Bool :=
  let isIn (code : Nat) : Bool :=
    Character.isAmong set.ranges code || ((wide || code < 128) && set.classes.any fun has => has code)
  if wide && Character.strayCode ≤ code then Character.isAmong set.ranges code && !set.isNegated
  else (isIn code || (folds && (wide || code < 128) &&
    (isIn (Character.toLower code) || isIn (Character.toUpper code)))) != set.isNegated

/-- A regular expression. -/
inductive Regular
  | empty
  | oneOf (set : CharacterSet)
  | sequence (first second : Regular)
  | either (first second : Regular)
  /-- At least so many times, and at most so many if there is a limit. `isGreedy` says that more rounds are
      preferred. -/
  | repeated (body : Regular) (least : Nat) (most : Option Nat) (isGreedy : Bool)
  /-- A group under a number, whose match is remembered. -/
  | group (number : Nat) (body : Regular)
  /-- The match of a group again. -/
  | again (number : Nat)
  | lineStart
  | lineEnd
  | textStart
  | textEnd
  /-- A border of a word: its start, its end, or both. -/
  | border (starts ends : Bool)
  | noBorder
  /-- A place from which a body matches, or does not. -/
  | ahead (isNegated : Bool) (body : Regular)
  /-- A place up to which a body matches, or does not. -/
  | behind (isNegated : Bool) (body : Regular)
  /-- What has been matched so far is no part of the match. -/
  | restart

namespace Regular

/-- How texts are looked at. -/
structure Look where
  folds : Bool := false
  /-- May characters have several bytes? -/
  wide : Bool := false
  /-- Do lines begin and end within the text? -/
  multiline : Bool := false
  /-- Does the match count that is preferred, and not the longest one? -/
  byPreference : Bool := false
  /-- The groups that matter for what follows, as their matches are matched again. -/
  referenced : List Nat := []

/-- A place in a text, and what groups have matched up to it. -/
structure Place where
  offset : Nat
  rest : Bytes
  /-- The bytes before the place, the last one first. -/
  before : Bytes := []
  groups : List (Nat × Bytes) := []
  /-- Where the match begins, if that is not where it was looked for. -/
  origin : Option Nat := none

/-- The place at the start of a text. -/
def Place.start (text : Bytes) : Place := { offset := 0, rest := text }

/-- The code of the character before a place, if there is one. -/
def Place.last? (look : Look) (place : Place) : Option Nat :=
  match place.before with
  | [] => none
  | byte :: _ =>
    if !look.wide || byte < 0x80 then some byte.toNat
    else
      let tails := [2, 3, 4].map fun length => (place.before.take length).reverse
      match tails.find? fun tail => (Character.wide? tail).any (·.2 = tail.length) with
      | some tail => (Character.wide? tail).map (·.1)
      | none => some (Character.strayCode + byte.toNat)

/-- The code of the character behind a place, if there is one. -/
def Place.next? (look : Look) (place : Place) : Option Nat :=
  (Character.first? look.wide place.rest).map (·.1)

/-- May a character be part of a word? -/
def isWord (look : Look) (code : Nat) : Bool :=
  (look.wide || code < 128) && code < Character.strayCode && Character.isWord code

/-- The place a number of bytes further on. -/
def Place.advance (place : Place) (count : Nat) : Place :=
  { place with
    offset := place.offset + count
    rest := place.rest.drop count
    before := (place.rest.take count).reverse ++ place.before }

/-- A place and all those before it in a text, the last one first. -/
def Place.backwards (place : Place) : List Place :=
  (place.before.foldl (fun places byte =>
    match places with
    | [] => []
    | last :: _ =>
      { place with offset := last.offset - 1, rest := byte :: last.rest, before := last.before.drop 1 } ::
        places) [place]).reverse

/-- The place behind the next character, if it is in a set. -/
def Place.past? (look : Look) (set : CharacterSet) (place : Place) : Option Place :=
  match Character.first? look.wide place.rest with
  | some (code, length) => if set.contains look.folds look.wide code then some (place.advance length) else none
  | none => none

/-- Do matches go on in the same way from two places? -/
def Place.isLike (look : Look) (a b : Place) : Bool :=
  a.offset = b.offset &&
    look.referenced.all fun number => a.groups.lookup number == b.groups.lookup number

/-- Places without those from which matches go on as from an earlier one. -/
def distinct (look : Look) (places : List Place) : List Place :=
  match places with
  | [] | [_] => places
  | _ => (places.foldl (fun (kept : List Place) place =>
      if kept.any (·.isLike look place) then kept else place :: kept) []).reverse

/-- The places behind characters of a set, one more each time, the last one first. -/
def run (look : Look) (set : CharacterSet) (most : Option Nat) :
    (bound : Nat) → (count : Nat) → Place → List Place → List Place
  | 0, _, place, before => place :: before
  | bound + 1, count, place, before =>
    if most.any (· ≤ count) then place :: before
    else match place.past? look set with
      | some next => run look set most bound (count + 1) next (place :: before)
      | none => place :: before

/-- How a repetition is followed. -/
structure Rounds where
  /-- Offsets that have been reached, each after a number of rounds as far as that matters. -/
  reached : List (Nat × Nat) := []
  /-- Where the repetition can end, the last choice first. -/
  found : List Place := []

/-- Follows a repetition from a place that some rounds have led to. -/
def explore (once : Place → List Place) (least : Nat) (most : Option Nat) (isGreedy : Bool) :
    (bound : Nat) → (count : Nat) → Place → Rounds → Rounds
  | 0, _, _, rounds => rounds
  | bound + 1, count, place, rounds =>
    let key := (place.offset, min count (most.getD least))
    if rounds.reached.contains key then rounds
    else
      let rounds := { rounds with reached := key :: rounds.reached }
      let ends (rounds : Rounds) : Rounds :=
        if least ≤ count then { rounds with found := place :: rounds.found } else rounds
      let goesOn (rounds : Rounds) : Rounds :=
        if most.any (· ≤ count) then rounds
        else (once place).foldl (fun rounds next =>
          if place.offset < next.offset || count < least then
            explore once least most isGreedy bound (count + 1) next rounds
          else rounds) rounds
      if isGreedy then ends (goesOn rounds) else goesOn (ends rounds)

/-- Remembers what a group has matched between two places. -/
def remember (number : Nat) (place after : Place) : Place :=
  let matched := place.rest.take (after.offset - place.offset)
  { after with groups := (number, matched) :: after.groups.filter (·.1 ≠ number) }

/-- Do two bytes differ in more than case? -/
def isSame (look : Look) (a b : Bytes) : Bool :=
  if look.folds then Character.map look.wide Character.toLower a = Character.map look.wide Character.toLower b
  else a = b

/-- Does a line begin at a place? -/
def startsLine (look : Look) (place : Place) : Bool :=
  place.offset = 0 || (look.multiline && place.before.head? == some 10)

/-- Does a line end at a place? -/
def endsLine (look : Look) (place : Place) : Bool :=
  place.rest.isEmpty || (look.multiline && place.rest.head? == some 10)

/-- The places where matches from a place end. -/
def ends (look : Look) : Regular → Place → List Place
  | .empty, place => [place]
  | .oneOf set, place => (place.past? look set).toList
  | .sequence first second, place =>
    distinct look ((ends look first place).flatMap (ends look second))
  | .either first second, place =>
    distinct look (ends look first place ++ ends look second place)
  | .repeated (.oneOf set) least most isGreedy, place =>
    let places := run look set most place.rest.length 0 place []
    let kept := places.take (places.length - least)
    if isGreedy then kept else kept.reverse
  | .repeated body least most isGreedy, place =>
    let bound := place.rest.length + least + 2
    (explore (ends look body) least most isGreedy bound 0 place {}).found.reverse
  | .group number body, place => (ends look body place).map (remember number place)
  | .again number, place =>
    match place.groups.lookup number with
    | some matched =>
      if isSame look matched (place.rest.take matched.length) then [place.advance matched.length] else []
    | none => []
  | .lineStart, place => if startsLine look place then [place] else []
  | .lineEnd, place => if endsLine look place then [place] else []
  | .textStart, place => if place.offset = 0 then [place] else []
  | .textEnd, place => if place.rest.isEmpty then [place] else []
  | .border starts ends, place =>
    let isBehind := (place.last? look).any (isWord look)
    let isAhead := (place.next? look).any (isWord look)
    if (starts && !isBehind && isAhead) || (ends && isBehind && !isAhead) then [place] else []
  | .noBorder, place =>
    if (place.last? look).any (isWord look) == (place.next? look).any (isWord look) then [place] else []
  | .ahead isNegated body, place =>
    if (ends look body place).isEmpty == isNegated then [place] else []
  | .behind isNegated body, place =>
    let matching := place.backwards.any fun from_ =>
      (ends look body from_).any (·.offset = place.offset)
    if matching == isNegated then [] else [place]
  | .restart, place => [{ place with origin := some place.offset }]

/-- The match from a place that counts: where it ends. That is the longest one, unless the order of
    preference decides. -/
def matchAt? (look : Look) (expression : Regular) (place : Place) : Option Place :=
  let all := expression.ends look place
  if look.byPreference then all.head?
  else all.foldl (fun best place =>
    match best with
    | none => some place
    | some other => if other.offset < place.offset then some place else best) none

/-- The first match at or behind a place: where it begins and where it ends. -/
def find? (look : Look) (expression : Regular) : (bound : Nat) → Place → Option (Place × Place)
  | 0, _ => none
  | bound + 1, place =>
    match expression.matchAt? look place with
    | some after => some (place, after)
    | none =>
      match Character.first? look.wide place.rest with
      | none => none
      | some (_, length) => find? look expression bound (place.advance length)

/-- The first match in a text. -/
def search? (look : Look) (expression : Regular) (text : Bytes) : Option (Place × Place) :=
  find? look expression (text.length + 1) (.start text)

/-- The expression that stands for a text itself. -/
def literal (wide : Bool) (text : Bytes) : Regular :=
  (Character.codes wide text).foldr
    (fun code rest => .sequence (.oneOf { ranges := [(code, code)] }) rest) .empty

end Regular

end CleanLaunch.Shell
