import CleanLaunch.Shell.Utility.Editing.Script

/-! What editing commands make of texts.

    `replace?` puts replacements in place of the matches of a pattern: from the left, without overlaps, and not
    for an empty match right behind another match. `listed` shows a text without any byte that cannot be
    printed. -/

namespace CleanLaunch.Shell.Utility.Editing

/-- A text with its letters in another case; the first one has a case of its own unless that is kept. -/
def cased (wide : Bool) (casing first : Casing) (text : Bytes) : Bytes :=
  let change (casing : Casing) (text : Bytes) : Bytes :=
    match casing with
    | .kept => text
    | .raised => Character.map wide Character.toUpper text
    | .lowered => Character.map wide Character.toLower text
  match first, Character.first? wide text with
  | .kept, _ | _, none => change casing text
  | first, some (_, length) => change first (text.take length) ++ change casing (text.drop length)

/-- A replacement with the matches of its groups. A change of the first letter waits for the next piece if
    its group has matched nothing. -/
def expanded (wide : Bool) (group : Nat → Bytes) (pieces : List Piece) : Bytes :=
  (pieces.foldl (fun (done, waiting) piece =>
    let first := if piece.first = .kept then waiting else piece.first
    let text := cased wide piece.casing first piece.text
    let first := if piece.text.isEmpty then first else .kept
    match piece.group with
    | none => (done ++ text, .kept)
    | some number =>
      let matched := group number
      if matched.isEmpty then (done ++ text, if piece.first = .kept then .kept else first)
      else (done ++ text ++ cased wide piece.casing first matched, .kept))
    (([] : Bytes), Casing.kept)).1

/-- What comes of a substitution behind a place: pieces of the text, the last one first, and whether anything
    was replaced. `count` matches have been found, and the last of them has ended at `last`. -/
def replaceFrom (pattern : Pattern) (substitution : Substitution) :
    (bound : Nat) → Regular.Place → (count : Nat) → (last : Option Nat) → List Bytes → Bool → List Bytes × Bool
  | 0, place, _, _, done, hasReplaced => (place.rest :: done, hasReplaced)
  | bound + 1, place, count, last, done, hasReplaced =>
    match Regular.find? pattern.look pattern.expression (place.rest.length + 1) place with
    | none => (place.rest :: done, hasReplaced)
    | some (first, after) =>
      let before := place.rest.take (first.offset - place.offset)
      let matched := first.rest.take (after.offset - first.offset)
      let isRepeated := matched.isEmpty && last = some first.offset
      let count := if isRepeated then count else count + 1
      let isReplaced := !isRepeated && substitution.occurrence ≤ count
      let text :=
        if isReplaced then
          let group (number : Nat) : Bytes :=
            if number = 0 then matched else (after.groups.lookup number).getD []
          expanded pattern.look.wide group substitution.pieces
        else matched
      let done := text :: before :: done
      if isReplaced && !substitution.isGlobal then (after.rest :: done, true)
      else
        let next := { after with groups := [] }
        let hasReplaced := hasReplaced || isReplaced
        if !matched.isEmpty then
          replaceFrom pattern substitution bound next count (some after.offset) done hasReplaced
        else match Character.first? pattern.look.wide next.rest with
          | none => (done, hasReplaced)
          | some (_, length) =>
            replaceFrom pattern substitution bound (next.advance length) count (some after.offset)
              (next.rest.take length :: done) hasReplaced

/-- A text after a substitution, if that has replaced anything. -/
def replace? (pattern : Pattern) (substitution : Substitution) (text : Bytes) : Option Bytes :=
  let (pieces, hasReplaced) :=
    replaceFrom pattern substitution (text.length + 2) (.start text) 0 none [] false
  if hasReplaced then some pieces.reverse.flatten else none

/-- A text with characters replaced by others. -/
def translated (wide : Bool) (pairs : List (Bytes × Bytes)) (text : Bytes) : Bytes :=
  (Character.pieces wide text).flatMap fun character => (pairs.lookup character).getD character

/-- A byte as it is shown. -/
def shownByte (byte : UInt8) : Bytes :=
  match List.lookup byte
    [(7, 97), (8, 98), (9, 116), (10, 110), (11, 118), (12, 102), (13, 114), (92, (92 : UInt8))] with
  | some letter => [92, letter]
  | none =>
    if 32 ≤ byte && byte ≤ 126 then [byte]
    else [92, 48 + byte / 64, 48 + byte / 8 % 8, 48 + byte % 8]

/-- A text as it is shown in lines of some length; 0 says that lines have no limit. -/
def listed (length : Nat) (text : Bytes) : Bytes :=
  let (shown, _) := text.foldl (fun (shown, column) byte =>
    let item := shownByte byte
    if length ≠ 0 && length - 1 < column + item.length then (item :: utf8 "\\\n" :: shown, item.length)
    else (item :: shown, column + item.length)) (([] : List Bytes), 0)
  shown.reverse.flatten ++ [36]

end CleanLaunch.Shell.Utility.Editing
