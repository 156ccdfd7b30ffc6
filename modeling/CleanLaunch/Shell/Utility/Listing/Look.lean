import CleanLaunch.Shell.Extended.Globs
import CleanLaunch.Shell.Utility.Amount
import CleanLaunch.Shell.Utility.Inspecting
import CleanLaunch.Shell.Utility.Version

/-! What lists of files look like: which entries they have, in which order, and how names are written. -/

namespace CleanLaunch.Shell.Utility

open Files (Place Node Tree)

namespace Listing

/-- How entries are arranged. -/
inductive Format
  | single
  | commas
  | across
  | columns
  | long
  deriving DecidableEq

/-- What entries are sorted by. -/
inductive Order
  | name
  | size
  | time
  | version
  | ending
  | width
  | none
  deriving DecidableEq

/-- Which entries are marked by what they are. -/
inductive Marks
  | none
  | directories
  | kinds
  | all
  deriving DecidableEq

/-- How names are quoted. -/
inductive Quoting
  | literal
  | shell
  | shellAlways
  | shellEscape
  | shellEscapeAlways
  | program
  | programMaybe
  | escape
  | locale
  deriving DecidableEq

/-- Which entries of a directory are listed. -/
inductive Extent
  | visible
  | almostAll
  | all
  deriving DecidableEq

/-- How sizes are written: whole, in units, or for people with a base. -/
inductive SizeStyle
  | units (length : Nat)
  | human (base : Nat)

/-- Which links are followed. -/
inductive Following
  | never
  | operandsToDirectories
  | operands
  | all
  deriving DecidableEq

/-- How lists look. -/
structure Look where
  format : Format := .single
  order : Order := .name
  reverses : Bool := false
  directoriesFirst : Bool := false
  extent : Extent := .visible
  /-- Patterns of entries that are never listed, and of those that are not if only visible ones are. -/
  ignored : List Bytes := []
  hidden : List Bytes := []
  marks : Marks := .none
  quoting : Quoting := .literal
  hidesControls : Bool := false
  width : Nat := 80
  tab : Nat := 8
  showsOwner : Bool := true
  showsGroup : Bool := true
  showsAuthor : Bool := false
  numeric : Bool := false
  showsBlocks : Bool := false
  sizes : SizeStyle := .units 1
  blocks : SizeStyle := .units 1024
  byAccess : Bool := false
  /-- The formats of times: of those long ago, and of others. -/
  timeFormats : Bytes × Bytes := (utf8 "%b %e  %Y", utf8 "%b %e %H:%M")
  ending : UInt8 := 10
  recursive : Bool := false
  /-- Are directories listed as entries? -/
  immediate : Bool := false
  following : Following := .operandsToDirectories
  /-- Can characters have several bytes? -/
  wide : Bool := false

/-- An entry to list. The node is missing if nothing is known of it. -/
structure Entry where
  name : Bytes
  place : Place
  node : Option Node

/-- An entry with what its place tells. -/
structure Known where
  entry : Entry
  time : Int
  links : Nat
  /-- Is it a directory, or a link to one? -/
  leadsToDirectory : Bool

def isDirectory (entry : Entry) : Bool := entry.node.any (·.isDirectory)

/-- The text behind the last point of a name, with the point. -/
def endingOf (name : Bytes) : Bytes :=
  if name.contains 46 then 46 :: (name.reverse.takeWhile (· != 46)).reverse else []

/-- A text with escapes for what cannot be printed, and a backslash before some characters. -/
def escaped (wide : Bool) (special : Bytes) (text : Bytes) : Bytes :=
  (Quotation.characters wide text).flatMap fun character =>
    if character.bytes = [92] || special.any fun byte => character.bytes = [byte] then 92 :: character.bytes
    else if character.isPrintable then character.bytes
    else character.bytes.flatMap Quotation.escape

/-- A word in quotes without escapes. -/
def singly (text : Bytes) : Bytes :=
  if text.contains 39 && !(text.any (utf8 "\"\\$").contains) then 34 :: text ++ [34]
  else 39 :: (text.flatMap fun byte => if byte == 39 then utf8 "'\\''" else [byte]) ++ [39]

/-- Does a word need quotes, whatever cannot be printed in it? -/
def needsSingle (text : Bytes) : Bool :=
  Quotation.needsQuotes false ((text.map fun byte =>
    if byte == 58 then 97 else if byte == 9 || byte == 10 then 32 else if 32 ≤ byte && byte ≤ 126 then byte else 97))

/-- A name as a look quotes it. `isHeading` says that a colon follows. -/
def quotedAs (look : Look) (isHeading : Bool) (name : Bytes) : Bytes :=
  let colon : Bytes := if isHeading then [58] else []
  match look.quoting with
  | .literal => name
  | .shell => if needsSingle name || (isHeading && name.contains 58) then singly name else name
  | .shellAlways => singly name
  | .shellEscape =>
    if isHeading then Quotation.wordIfNeeded look.wide name else Quotation.argument look.wide name
  | .shellEscapeAlways => Quotation.word look.wide name
  | .program => 34 :: escaped look.wide [34] name ++ [34]
  | .programMaybe =>
    let inner := escaped look.wide [34] name
    if escaped look.wide [34] (name.filter (· != 92)) = name.filter (· != 92) && !(isHeading && name.contains 58) then name else 34 :: inner ++ [34]
  | .escape => escaped look.wide (32 :: colon) name
  | .locale => Quotation.text look.wide name

/-- A name as a list shows it. -/
def shownName (look : Look) (name : Bytes) : Bytes :=
  let text := quotedAs look false name
  if look.hidesControls then
    (Quotation.characters look.wide text).flatMap fun character =>
      if character.isPrintable then character.bytes else [63]
  else text

/-- Columns that a text takes. -/
def widthOf (look : Look) (text : Bytes) : Nat :=
  let characters := Quotation.characters look.wide text
  if look.wide && characters.any (!·.isPrintable) then 0
  else (characters.filter (·.isPrintable)).length

/-- Do names without quotes have a blank where others have theirs? -/
def alignsQuotes (look : Look) (entries : List Entry) : Bool :=
  let isArranged := match look.format with
    | .long => true
    | .columns | .across => look.width ≠ 0
    | _ => false
  let mayQuote := [Quoting.shell, .shellEscape, .programMaybe].contains look.quoting
  isArranged && mayQuote && entries.any fun entry => quotedAs look false entry.name ≠ entry.name

/-- The mark of a node. -/
def markOf (look : Look) (node : Option Node) : Bytes :=
  match look.marks, node with
  | .none, _ | _, none => []
  | _, some (.directory _) => [47]
  | .directories, _ => []
  | _, some (.link _) => [64]
  | _, some (.channel _) | _, some (.fifo ..) => [124]
  | .all, some node => if node.isExecutable then [42] else []
  | .kinds, _ => []

/-- The order of two entries, before names decide. -/
def compareBy (look : Look) (a b : Known) : Ordering :=
  match look.order with
  | .name | .none => .eq
  | .size =>
    let size (known : Known) : Nat := (known.entry.node.bind Inspecting.size?).getD 0
    compare (size b) (size a)
  | .time => compare b.time a.time
  | .version => Version.order a.entry.name b.entry.name
  | .ending =>
    let (x, y) := (endingOf a.entry.name, endingOf b.entry.name)
    if x < y then .lt else if y < x then .gt else .eq
  | .width =>
    compare (widthOf look (quotedAs look false a.entry.name)) (widthOf look (quotedAs look false b.entry.name))

/-- Sorts entries. -/
def ordered (look : Look) (entries : List Known) : List Known :=
  let sorted :=
    if look.order = .none then entries
    else
      let isUpTo (a b : Known) : Bool :=
        match compareBy look a b with
        | .lt => true
        | .gt => false
        | .eq => !decide (b.entry.name < a.entry.name)
      let sorted := entries.mergeSort isUpTo
      if look.reverses then sorted.reverse else sorted
  if look.directoriesFirst then
    sorted.filter (·.leadsToDirectory) ++ sorted.filter (!·.leadsToDirectory)
  else sorted

/-- Is an entry of a directory listed at all? -/
def isListed (look : Look) (name : Bytes) : Bool :=
  let isAmong (patterns : List Bytes) : Bool := patterns.any fun pattern =>
    !(name.head? == some 46 && pattern.head? != some 46) && Globs.isMatch false (Globs.withoutGroups pattern) name
  (look.extent != .visible || (name.head? != some 46 && !isAmong look.hidden)) && !isAmong look.ignored

end Listing

end CleanLaunch.Shell.Utility
