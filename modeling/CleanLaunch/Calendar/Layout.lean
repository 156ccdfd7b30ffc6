import CleanLaunch.Calendar.Moment

/-! How times are written.

    A format is a text with fields: a percent sign, flags, a width, and a letter. A field that stands for nothing
    stays as it is. -/

namespace CleanLaunch.Calendar

/-- How a field is shown. -/
structure FieldStyle where
  /-- What fills it up, as the flag says: a hyphen for nothing, an underscore for blanks. -/
  filler : Option UInt8 := none
  width : Option Nat := none
  raises : Bool := false
  swaps : Bool := false
  lowers : Bool := false

def weekdayNames : List String :=
  ["Sunday", "Monday", "Tuesday", "Wednesday", "Thursday", "Friday", "Saturday"]

def monthNames : List String :=
  ["January", "February", "March", "April", "May", "June", "July", "August", "September", "October",
   "November", "December"]

namespace FieldStyle

def raised (byte : UInt8) : UInt8 := if 97 ≤ byte && byte ≤ 122 then byte - 32 else byte

def lowered (byte : UInt8) : UInt8 := if 65 ≤ byte && byte ≤ 90 then byte + 32 else byte

/-- A text filled up to the width of its field. -/
def text (style : FieldStyle) (content : Bytes) : Bytes :=
  let content := if style.lowers then content.map lowered
    else if style.raises then content.map raised else content
  let width := if style.filler == some 45 then 0 else style.width.getD 0
  let filler : UInt8 := if style.filler == some 48 || style.filler == some 43 then 48 else 32
  List.replicate (width - content.length) filler ++ content

/-- A number with at least some digits. `marked` says that a plus sign may stand before it. -/
def number (style : FieldStyle) (digits : Nat) (marked isNegative : Bool) (value : Nat) : Bytes :=
  let filler := style.filler.getD 48
  let width := style.width.getD digits
  let text := Bytes.decimal value
  let sign : Bytes := if isNegative then [45] else if marked then [43] else []
  let padding := if filler == 45 then 0 else width - sign.length - text.length
  if filler == 95 then List.replicate padding 32 ++ sign ++ text
  else sign ++ List.replicate padding 48 ++ text

/-- A number of years, which can have a sign. -/
def years (style : FieldStyle) (usual : Option UInt8) (digits : Nat) (isNegative : Bool) (value : Nat) : Bytes :=
  let style := { style with filler := style.filler.or usual }
  let most := if digits = 2 then 99 else 9999
  let marked := style.filler == some 43 && (most < value || digits < style.width.getD 0)
  style.number digits marked isNegative value

end FieldStyle

namespace Moment

/-- The hour of half a day. -/
def halfDayHour (moment : Moment) : Nat := (moment.hour + 11) % 12 + 1

/-- Days from the Monday of the first week on, where weeks belong to the year with their Thursday. -/
def weekDays (yearDay weekday : Int) : Int :=
  let big := 378
  yearDay - (yearDay - weekday + 4 + big).tmod 7 + 4 - 1

/-- The year that the week belongs to, and the number of the week. -/
def week (moment : Moment) : Int × Nat :=
  let yearDay : Int := (moment.yearDay : Int) - 1
  let length (year : Int) : Int := if isLeap year then 366 else 365
  let days := weekDays yearDay moment.weekday
  if days < 0 then
    let days := weekDays (yearDay + length (moment.year - 1)) moment.weekday
    (moment.year - 1, (days / 7 + 1).toNat)
  else
    let next := weekDays (yearDay - length moment.year) moment.weekday
    if 0 ≤ next then (moment.year + 1, (next / 7 + 1).toNat) else (moment.year, (days / 7 + 1).toNat)

/-- How far the clocks are from universal time, with some colons between its parts. -/
def distance (moment : Moment) (style : FieldStyle) (colons : Nat) : Bytes :=
  let east := moment.offset.east
  let size := east.natAbs
  let (hours, minutes, seconds) := (size / 3600, size / 60 % 60, size % 60)
  let two (n : Nat) : Bytes := (if n < 10 then [48] else []) ++ Bytes.decimal n
  let colons := if colons = 3 then (if seconds ≠ 0 then 2 else if minutes ≠ 0 then 1 else 4) else colons
  let tail := match colons with
    | 0 => two minutes
    | 1 => 58 :: two minutes
    | 2 => 58 :: two minutes ++ 58 :: two seconds
    | _ => []
  let sign : UInt8 := if east < 0 then 45 else 43
  let filler := style.filler.getD 48
  let usual := 3 + tail.length
  let text := if filler == 45 || filler == 95 then
      (if colons = 0 then Bytes.decimal (hours * 100 + minutes) else Bytes.decimal hours ++ tail)
    else two hours ++ tail
  let padding := if filler == 45 then 0 else (style.width.getD usual) - 1 - text.length
  if filler == 95 then List.replicate padding 32 ++ sign :: text
  else sign :: List.replicate padding 48 ++ text

/-- A year of its century. Years before the first one are counted backwards where that is told. -/
def shortYear (countsBack : Bool) (year : Int) : Nat :=
  if countsBack && year < 0 then ((1900 - year) % 100).toNat else (year.fmod 100).toNat

/-- Parts of a second; a width says how many digits there are. -/
def fraction (moment : Moment) (style : FieldStyle) : Bytes :=
  let width := match style.width with
    | none | some 0 => 9
    | some width => width
  let all := Bytes.decimal (1000000000 + moment.nanoseconds) |>.drop 1
  let digits := all.take (max 1 (min 9 width))
  -- zeros at the end are filled in as any other place is
  let kept := (digits.reverse.dropWhile (· == 48)).reverse
  let kept := if kept.isEmpty then digits.take 1 else kept
  let filler : UInt8 := match style.filler with
    | some 95 => 32
    | _ => 48
  if style.filler == some 45 then (if style.width.isNone then all else kept)
  else kept ++ List.replicate (width - kept.length) filler

mutual

/-- A format whose fields are put together to a field of its own. -/
def inner (moment : Moment) (extended : Bool) (style : FieldStyle) (filler : Option UInt8) (width : Option Nat) :
    (bound : Nat) → String → Bytes
  | 0, _ => []
  | bound + 1, format =>
    { style with raises := false, lowers := false }.text
      (text moment extended style.raises filler width bound (utf8 format))

/-- What a letter stands for. `filler` and `width` are those of the field that a year is part of. -/
def field (moment : Moment) (extended : Bool) (style : FieldStyle) (modifier filler : Option UInt8)
    (yearWidth : Option Nat) : (bound : Nat) → UInt8 → Option Bytes
  | 0, _ => none
  | bound + 1, letter =>
    let named (style : FieldStyle) (names : List String) (n most : Nat) : Option Bytes :=
      if modifier.isSome then none
      else
        let style := if style.swaps then { style with raises := true } else style
        some (style.text ((utf8 ((names[n]?).getD "")).take most))
    let number (digits value : Nat) : Option Bytes :=
      if modifier == some 69 then none else some (style.number digits false false value)
    let spaced (digits value : Nat) : Option Bytes :=
      if modifier == some 69 then none
      else some ({ style with filler := style.filler.or (some 95) }.number digits false false value)
    let inner (format : String) : Option Bytes :=
      if modifier.isSome then none else some (inner moment extended style filler none bound format)
    let innerOr (refused : UInt8) (format : String) : Option Bytes :=
      if modifier == some refused then none
      else some (Moment.inner moment false style filler none bound format)
    let half := utf8 (if moment.hour < 12 then "AM" else "PM")
    let lower (style : FieldStyle) : FieldStyle :=
      if style.swaps then { style with raises := false, lowers := true } else style
    let weekOf (shift : Nat) : Nat := (moment.yearDay - 1 + 7 - (moment.weekday + shift) % 7) / 7
    match Char.ofNat letter.toNat with
    | '%' => if style.filler.isNone && style.width.isNone && modifier.isNone then some [37] else none
    | 'a' => named style weekdayNames moment.weekday 3
    | 'A' => named style weekdayNames moment.weekday 20
    | 'b' | 'h' => named style monthNames (moment.month - 1) 3
    | 'B' => named style monthNames (moment.month - 1) 20
    | 'c' => innerOr 79 "%a %b %e %H:%M:%S %Y"
    | 'C' =>
      let century := (moment.year.natAbs) / 100
      some (style.years filler 2 (moment.year < 0) century)
    | 'x' => innerOr 79 "%m/%d/%y"
    | 'D' => inner "%m/%d/%y"
    | 'd' => number 2 moment.day
    | 'e' => spaced 2 moment.day
    | 'F' =>
      if modifier.isSome then none
      else if extended then
        let (filler, width) := match style.filler, style.width with
          | none, none => (some (43 : UInt8), 4)
          | filler, width => (filler, width.getD 0 - 6)
        some (Moment.inner moment extended style filler (some width) bound "%Y-%m-%d")
      else some (Moment.inner moment extended style style.filler none bound "%Y-%m-%d")
    | 'H' => number 2 moment.hour
    | 'I' => number 2 moment.halfDayHour
    | 'k' => spaced 2 moment.hour
    | 'l' => spaced 2 moment.halfDayHour
    | 'j' => number 3 moment.yearDay
    | 'M' => number 2 moment.minute
    | 'm' => number 2 moment.month
    | 'N' => if extended && modifier != some 69 then some (moment.fraction style) else none
    | 'n' => some [10]
    | 'P' => some ({ style with lowers := true }.text half)
    | 'p' => some ((lower style).text half)
    | 'q' => if extended then number 1 ((moment.month - 1) / 3 + 1) else none
    | 'R' => inner "%H:%M"
    | 'r' => inner "%I:%M:%S %p"
    | 'S' => number 2 moment.second
    | 's' => some (style.number 1 false (moment.seconds < 0) moment.seconds.natAbs)
    | 'X' => innerOr 79 "%H:%M:%S"
    | 'T' => inner "%H:%M:%S"
    | 't' => some [9]
    | 'u' => some (style.number 1 false false ((moment.weekday + 6) % 7 + 1))
    | 'U' => number 2 (weekOf 0)
    | 'W' => number 2 (weekOf 6)
    | 'V' => number 2 moment.week.2
    | 'g' =>
      if modifier == some 69 then none
      else some (style.years filler 2 false (shortYear extended moment.week.1))
    | 'G' =>
      if modifier == some 69 then none
      else some (style.years filler 4 (moment.week.1 < 0) moment.week.1.natAbs)
    | 'w' => number 1 moment.weekday
    | 'Y' =>
      if modifier == some 79 then none
      else
        let style := { style with width := style.width.or yearWidth }
        some (style.years filler (if extended then 4 else 1) (moment.year < 0) moment.year.natAbs)
    | 'y' => some (style.years filler 2 false (shortYear extended moment.year))
    | 'Z' => some ((lower style).text moment.offset.name)
    | 'z' => some (moment.distance style 0)
    | _ => none

/-- A moment as a format shows it. `extended` tells whether the format may have fields that not all
    programs know. -/
def text (moment : Moment) (extended raises : Bool) (filler : Option UInt8) (yearWidth : Option Nat) :
    (bound : Nat) → Bytes → Bytes
  | 0, _ | _, [] => []
  | bound + 1, 37 :: rest =>
    let isFlag (byte : UInt8) : Bool := (utf8 "_-0^#").contains byte || (extended && byte == 43)
    let flags := rest.takeWhile isFlag
    let style := flags.foldl (fun (style : FieldStyle) flag =>
      if flag == 94 then { style with raises := true }
      else if flag == 35 then { style with swaps := true }
      else { style with filler := some flag }) { raises }
    let afterFlags := rest.drop flags.length
    let digits := afterFlags.takeWhile Bytes.isDigit
    let style := if digits.isEmpty then style else { style with width := some (Zone.natural digits) }
    let afterWidth := afterFlags.drop digits.length
    let modifier := (afterWidth.head?).filter fun byte => byte == 69 || byte == 79
    let afterModifier := if modifier.isSome then afterWidth.drop 1 else afterWidth
    let colons := if extended then (afterModifier.takeWhile (· == 58)).length else 0
    let goOn (shown rest : Bytes) : Bytes := shown ++ text moment extended raises filler yearWidth bound rest
    let unknown (rest : Bytes) : Bytes :=
      -- the field stays as it was written
      let before := 37 :: (flags ++ digits ++ modifier.toList)
      match rest with
      | [] => style.text before
      | letter :: rest => goOn (style.text (before ++ [letter])) rest
    if 0 < colons then
      match afterModifier.drop colons with
      | 122 :: rest =>
        if colons ≤ 3 then goOn (moment.distance style colons) rest else unknown afterModifier
      | _ => unknown afterModifier
    else match afterModifier with
      | [] => unknown []
      | letter :: rest =>
        match field moment extended style modifier filler yearWidth bound letter with
        | some shown => goOn shown rest
        | none => unknown afterModifier
  | bound + 1, byte :: rest => byte :: text moment extended raises filler yearWidth bound rest

end

/-- A moment as a format of the standard shows it. -/
def shown (moment : Moment) (format : Bytes) : Bytes :=
  text moment false false none none (format.length + 64) format

/-- A moment as a format with all fields shows it. -/
def shownFully (moment : Moment) (format : Bytes) : Bytes :=
  text moment true false none none (format.length + 64) format

end Moment

end CleanLaunch.Calendar
