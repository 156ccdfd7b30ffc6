import CleanLaunch.Shell.Utility.Human
import CleanLaunch.Shell.Utility.Listing.Look

/-! How entries are arranged on lines: one on each, in columns, or with all that is known of them. -/

namespace CleanLaunch.Shell.Utility

open Shell.Action
open Files (Place Node Tree)
open Calendar (Moment Zone)

namespace Listing

/-- A text and the columns that it takes. -/
structure Cell where
  text : Bytes
  width : Nat

/-- A number of bytes as a style writes it. Parts of a unit count as one. -/
def sizeText (style : SizeStyle) (n : Nat) : Bytes :=
  match style with
  | .units length => Bytes.decimal ((n + length - 1) / length)
  | .human base => Human.text base n

/-- A text behind blanks up to a width. -/
def padded (width : Nat) (text : Bytes) : Bytes := List.replicate (width - text.length) 32 ++ text

/-- A text with blanks behind it up to a width. -/
def filled (width : Nat) (text : Bytes) : Bytes := text ++ List.replicate (width - text.length) 32

/-- Bytes that an entry takes on the disk, if that is known. -/
def diskSize? (known : Known) : Option Nat :=
  match known.entry.node with
  | some node => (Inspecting.units? node).map (· * Inspecting.unitLength)
  | none => some 0

/-- What entries take on the disk, all together, if that is known. -/
def totalSize? (all : List Known) : Option Nat :=
  all.foldl (fun total known => do return (← total) + (← diskSize? known)) (some 0)

/-- The longest of some texts. -/
def longest (texts : List Bytes) : Nat := (texts.map (·.length)).foldl max 0

/-- The name of an entry as a list has it, with its mark. -/
def nameCell (look : Look) (alignsQuotes : Bool) (entry : Entry) : Cell :=
  let name := shownName look entry.name
  let isQuoted := quotedAs look false entry.name ≠ entry.name
  let front : Bytes := if alignsQuotes && !isQuoted then [32] else []
  let mark := markOf look entry.node
  ⟨front ++ name ++ mark, front.length + widthOf look name + mark.length⟩

/-- The cells of entries, each with what it takes on the disk in front if that is shown. -/
def cells? (look : Look) (all : List Known) : Option (List Cell) := do
  let aligns := alignsQuotes look (all.map (·.entry))
  let plain := all.map fun known => nameCell look aligns known.entry
  if !look.showsBlocks then return plain
  let sizes ← all.mapM diskSize?
  let texts := sizes.map (sizeText look.blocks)
  let width := if look.format = .commas then 0 else longest texts
  return (texts.zip plain).map fun (text, cell) =>
    let front := padded width text ++ [32]
    ⟨front ++ cell.text, front.length + cell.width⟩

/-- Blanks and tabs from one column to another. -/
def indent (tab : Nat) : (bound : Nat) → (start goal : Nat) → Bytes
  | 0, _, _ => []
  | bound + 1, start, goal =>
    if goal ≤ start then []
    else if tab ≠ 0 && (start + 1) / tab < goal / tab then
      9 :: indent tab bound (start + tab - start % tab) goal
    else 32 :: indent tab bound (start + 1) goal

/-- The least width of a column. -/
def leastWidth : Nat := 3

/-- Widths of a number of columns for cells in order. The blanks between columns belong to the one before. -/
def columnWidths (downward : Bool) (count : Nat) (cells : List Cell) : List Nat :=
  let total := cells.length
  let place (n : Nat) : Nat := if downward then n / ((total + count - 1) / count) else n % count
  (cells.zipIdx).foldl (fun widths (cell, n) =>
    let column := place n
    let needed := cell.width + if column + 1 = count then 0 else 2
    widths.modify column (max needed)) (List.replicate count leastWidth)

/-- The widths of as many columns as there is room for. -/
def bestWidths (look : Look) (downward : Bool) (cells : List Cell) : List Nat :=
  let most := look.width / leastWidth + if look.width % leastWidth = 0 then 0 else 1
  let most := if 0 < most && most < cells.length then most else cells.length
  let counts := (List.range most).reverse.map (· + 1)
  let widths (count : Nat) : List Nat := columnWidths downward count cells
  match counts.find? fun count => count = 1 || (widths count).foldl (· + ·) 0 < look.width with
  | some count => widths count
  | none => [0]

/-- A line of cells, each in its column. -/
def row (look : Look) : (position : Nat) → (widths : List Nat) → List Cell → Bytes
  | _, _, [] => []
  | _, _, [cell] => cell.text
  | position, widths, cell :: rest =>
    let width := widths.headD 0
    cell.text ++ indent look.tab (width + 1) (position + cell.width) (position + width) ++
      row look (position + width) (widths.drop 1) rest

/-- Splits a list into rows of a length. -/
def chunks (length : Nat) : (bound : Nat) → List Cell → List (List Cell)
  | 0, _ | _, [] => []
  | bound + 1, cells => cells.take length :: chunks length bound (cells.drop length)

/-- Cells in columns, filled downward or across. -/
def inColumns (look : Look) (downward : Bool) (cells : List Cell) : Bytes :=
  let widths := bestWidths look downward cells
  let count := widths.length
  let rows :=
    if downward then
      let height := (cells.length + count - 1) / count
      (List.range height).map fun n =>
        (List.range count).filterMap fun column => cells[column * height + n]?
    else chunks count (cells.length + 1) cells
  rows.flatMap fun cells => row look 0 widths cells ++ [look.ending]

/-- Cells one after another with a separator, on lines no longer than the width. -/
def joined (look : Look) (separator : Bytes) (cells : List Cell) : Bytes :=
  let (text, _, _) := cells.foldl (fun (text, position, isFirst) cell =>
    if isFirst then (cell.text, cell.width, false)
    else if look.width = 0 || position + cell.width + 2 < look.width then
      (text ++ separator ++ [32] ++ cell.text, position + 2 + cell.width, false)
    else (text ++ separator ++ [look.ending] ++ cell.text, cell.width, false)) (([] : Bytes), 0, true)
  text ++ [look.ending]

/-- Half a year, in seconds: times before that are long ago. -/
def halfYear : Int := 15778476

/-- A time as lists show it. -/
def timeText (look : Look) (zone : Zone) (now time : Int) : Bytes :=
  let isRecent := now - halfYear * Files.partsPerSecond < time && time ≤ now
  let format := if isRecent then look.timeFormats.2 else look.timeFormats.1
  let seconds := time.fdiv Files.partsPerSecond
  (Moment.ofSeconds zone seconds (time.fmod Files.partsPerSecond).toNat).shownFully format

/-- What a link's target is, as far as its mark tells. -/
def linkPart (look : Look) (tree : Tree) (entry : Entry) : Bytes :=
  match entry.node with
  | some (.link target) =>
    let node? := match tree.resolve entry.place.dropLast true target with
      | .ok found => found.node?
      | .error _ => none
    utf8 " -> " ++ shownName look target ++ markOf look node?
  | _ => []

/-- Lines with all that is known of entries, if enough is. -/
def longLines? (look : Look) (tree : Tree) (zone : Zone) (now : Int) (all : List Known) : Option Bytes := do
  let aligns := alignsQuotes look (all.map (·.entry))
  let owner := if look.numeric then utf8 "0" else utf8 "root"
  let unknown (known : Known) (text : Bytes) : Bytes := if known.entry.node.isNone then [63] else text
  let isDevice (known : Known) : Bool := match known.entry.node with
    | some (.device _) => true
    | _ => false
  let sizes ← all.mapM fun known => match known.entry.node with
    | some node => if isDevice known then some [] else (Inspecting.size? node).map (sizeText look.sizes)
    | none => some [63]
  let numbers (known : Known) : Bytes × Bytes :=
    let (major, minor) := (known.entry.node.map Inspecting.deviceNumbers).getD (0, 0)
    (Bytes.decimal major, Bytes.decimal minor)
  let devices := (all.filter isDevice).map numbers
  let majorWidth := longest (devices.map (·.1))
  let minorWidth := longest (devices.map (·.2))
  let sizeWidth := max (longest sizes) (if devices.isEmpty then 0 else majorWidth + 2 + minorWidth)
  let links := all.map fun known => unknown known (Bytes.decimal known.links)
  let blocks ← all.mapM diskSize?
  let blockTexts := blocks.map (sizeText look.blocks)
  let rows := (all.zip (links.zip (sizes.zip blockTexts))).map fun (known, link, size, blocks) =>
    let entry := known.entry
    let kind : UInt8 := match entry.node with
      | some node => (Inspecting.kindOf node).1
      | none => 45
    let mode := match entry.node with
      | some node => kind :: Mode.letters node.mode
      | none => utf8 "-?????????"
    let size := if isDevice known then
        let (major, minor) := numbers known
        padded (sizeWidth - 2 - minorWidth) major ++ utf8 ", " ++ padded minorWidth minor
      else padded sizeWidth size
    let time := timeText look zone now known.time
    let time := if entry.node.isNone then List.replicate (time.length - 1) 32 ++ [63] else time
    let isMarked := match entry.node with
      | some (.link _) => false
      | _ => true
    let cell := nameCell (if isMarked then look else { look with marks := .none }) aligns entry
    (if look.showsBlocks then padded (longest blockTexts) blocks ++ [32] else []) ++
      mode ++ [32] ++ padded (longest links) link ++ [32] ++
      (if look.showsOwner then filled owner.length (unknown known owner) ++ [32] else []) ++
      (if look.showsGroup then filled owner.length (unknown known owner) ++ [32] else []) ++
      (if look.showsAuthor then filled owner.length (unknown known owner) ++ [32] else []) ++
      size ++ [32] ++ time ++ [32] ++ cell.text ++ linkPart look tree entry ++ [look.ending]
  return rows.flatten

/-- The text of entries in their order, if enough is known of them. -/
def arranged? (look : Look) (tree : Tree) (zone : Zone) (now : Int) (all : List Known) : Option Bytes :=
  if all.isEmpty then some []
  else
    match look.format with
    | .long => longLines? look tree zone now all
    | .single => (cells? look all).map fun cells => cells.flatMap fun cell => cell.text ++ [look.ending]
    | .commas => (cells? look all).map (joined look [44])
    | .across | .columns =>
      (cells? look all).map fun cells =>
        if look.width = 0 then joined look [32] cells
        else inColumns look (look.format = .columns) cells

end Listing

end CleanLaunch.Shell.Utility
