import CleanLaunch.Bytes

/-! Time zones.

    A zone is described by a text such as `EST5EDT,M3.2.0,M11.1.0`: the name of its usual time, how far that is
    behind universal time, and the same for summer with the days on which the clocks are changed. Days of the
    calendar are counted from the beginning of the year 1970. -/

namespace CleanLaunch.Calendar

def isLeap (year : Int) : Bool := year % 4 == 0 && (year % 100 != 0 || year % 400 == 0)

/-- The day of a date. Months and days are counted from 1; those out of range lead to neighbouring years and
    months. Years are counted from March on, so that the day that only some years have is the last one. -/
def dayOf (year : Int) (month day : Int) : Int :=
  let months := year * 12 + (month - 1)
  let year := months.fdiv 12
  let month := months.fmod 12
  let shifted := if month < 2 then year - 1 else year
  let marchMonth := (month + 10).fmod 12
  let era := shifted.fdiv 400
  let eraYear := shifted.fmod 400
  let yearDay := (153 * marchMonth + 2) / 5
  era * 146097 + eraYear * 365 + eraYear / 4 - eraYear / 100 + yearDay + (day - 1) - 719468

def secondsPerDay : Int := 86400

/-- The time that clocks show: its name, and by how many seconds it is ahead of universal time. -/
structure Offset where
  name : Bytes
  east : Int
  isSummer : Bool := false

/-- A day of every year. -/
inductive YearDay
  /-- Counted from 1, without the day that only some years have. -/
  | julian (day : Nat)
  /-- Counted from 0. -/
  | ordinal (day : Nat)
  /-- A day of the week, 0 being Sunday, in a week of a month; week 5 is the last one. -/
  | weekday (month week day : Nat)

/-- When clocks are changed. -/
structure Change where
  day : YearDay
  /-- The time of the day, in seconds. -/
  time : Int := 7200

structure Summer where
  offset : Offset
  start : Change
  finish : Change

structure Zone where
  usual : Offset
  summer : Option Summer := none

namespace YearDay

/-- The first day of the month that has some number of days behind it to a day of the week. -/
def inYear (day : YearDay) (year : Int) : Int :=
  let first := dayOf year 1 1
  match day with
  | .julian n => first + n - 1 + (if isLeap year && 60 ≤ n then 1 else 0)
  | .ordinal n => first + n
  | .weekday month week day =>
    let start := dayOf year month 1
    let next := dayOf year (month + 1) 1
    let early := start + ((day : Int) - (start + 4)).fmod 7
    let found := early + 7 * ((week : Int) - 1)
    if found < next then found else if found - 7 < next then found - 7 else found - 14

end YearDay

/-- When clocks are changed in a year, if they have shown some offset before. -/
def Change.inYear (change : Change) (year : Int) (before : Offset) : Int :=
  change.day.inYear year * secondsPerDay + change.time - before.east

/-- The offset at a time of a year. South of the equator summer goes on over the end of the year. -/
def Zone.offsetAt (zone : Zone) (year seconds : Int) : Offset :=
  match zone.summer with
  | none => zone.usual
  | some summer =>
    let start := summer.start.inYear year zone.usual
    let finish := summer.finish.inYear year summer.offset
    let isSummer :=
      if finish < start then decide (seconds < finish || start ≤ seconds)
      else decide (start ≤ seconds && seconds < finish)
    if isSummer then summer.offset else zone.usual

namespace Zone

def universal : Zone := ⟨{ name := utf8 "UTC", east := 0 }, none⟩

def isLetter (byte : UInt8) : Bool := (65 ≤ byte && byte ≤ 90) || (97 ≤ byte && byte ≤ 122)

/-- A name of at least three letters, or other ones in angle brackets. -/
def name? (text : Bytes) : Option (Bytes × Bytes) :=
  let letters := text.takeWhile isLetter
  if 3 ≤ letters.length then some (letters, text.drop letters.length)
  else match text with
    | 60 :: rest =>
      let name := rest.takeWhile fun byte => isLetter byte || Bytes.isDigit byte || byte == 43 || byte == 45
      if 3 ≤ name.length && (rest.drop name.length).head? == some 62 then
        some (name, rest.drop (name.length + 1))
      else none
    | _ => none

def natural (text : Bytes) : Nat := text.foldl (fun n byte => n * 10 + Bytes.digitValue byte) 0

/-- Numbers joined by colons, at most some of them, and what is behind. -/
def numbers : (most : Nat) → Bytes → List Nat × Bytes
  | 0, text => ([], text)
  | most + 1, text =>
    let digits := text.takeWhile Bytes.isDigit
    if digits.isEmpty then ([], text)
    else
      let rest := text.drop digits.length
      match rest with
      | 58 :: more =>
        match numbers most more with
        | ([], _) => ([natural digits], rest)
        | (others, rest) => (natural digits :: others, rest)
      | _ => ([natural digits], rest)

/-- The sign at the head of a text, and what is behind it. -/
def sign (text : Bytes) : Bool × Bytes :=
  match text with
  | 45 :: rest => (true, rest)
  | 43 :: rest => (false, rest)
  | _ => (false, text)

/-- Seconds by which universal time is behind, if there is a number. -/
def east? (text : Bytes) : Option (Int × Bytes) :=
  let (isNegative, rest) := sign text
  match numbers 3 rest with
  | ([], _) => none
  | (parts, rest) =>
    let part (n most : Nat) : Nat := min ((parts[n]?).getD 0) most
    let seconds : Int := part 0 24 * 3600 + part 1 59 * 60 + part 2 59
    some (if isNegative then seconds else -seconds, rest)

/-- The day at the head of a text. At its end there is the usual one. -/
def day? (usual : YearDay) (text : Bytes) : Option (YearDay × Bytes) :=
  let number (text : Bytes) : Option (Nat × Bytes) :=
    let digits := text.takeWhile Bytes.isDigit
    if digits.isEmpty then none else some (natural digits, text.drop digits.length)
  match text with
  | [] => some (usual, [])
  | 74 :: rest => do
    let (day, rest) ← number rest
    if day = 0 || 365 < day then none
    return (.julian day, rest)
  | 77 :: rest => do
    let (month, rest) ← number rest
    let (week, rest) ← if rest.head? == some 46 then number (rest.drop 1) else none
    let (day, rest) ← if rest.head? == some 46 then number (rest.drop 1) else none
    if month < 1 || 12 < month || week < 1 || 5 < week || 6 < day then none
    return (.weekday month week day, rest)
  | text => do
    let (day, rest) ← number text
    if 365 < day then none
    return (.ordinal day, rest)

/-- The change at the head of a text. -/
def change? (usual : YearDay) (text : Bytes) : Option (Change × Bytes) := do
  let (day, rest) ← day? usual (if text.head? == some 44 then text.drop 1 else text)
  match rest with
  | [] | 44 :: _ => return ({ day }, rest)
  | [47] => none
  | 47 :: rest =>
    let (isNegative, rest) := if rest.head? == some 45 then (true, rest.drop 1) else (false, rest)
    let (parts, rest) := numbers 3 rest
    let part (n : Nat) : Nat := (parts[n]?).getD 0
    let seconds : Int := (if parts.isEmpty then 2 else part 0) * 3600 + part 1 * 60 + part 2
    return ({ day, time := if isNegative then -seconds else seconds }, rest)
  | _ => none

/-- The days on which clocks are changed where nothing else is said. -/
def usualStart : YearDay := .weekday 3 2 0
def usualFinish : YearDay := .weekday 11 1 0

/-- A change that could not be read. -/
def noChange : Change := ⟨.ordinal 0, 0⟩

/-- Reads the description of a zone. What cannot be read leaves universal time. -/
def read (text : Bytes) : Zone :=
  let text := if text.isEmpty then utf8 "Universal" else text
  let text := if text.head? == some 58 then text.drop 1 else text
  match name? text with
  | none => ⟨{ name := [], east := 0 }, none⟩
  | some (name, rest) =>
    match east? rest with
    | none => ⟨{ name, east := 0 }, none⟩
    | some (east, rest) =>
      let usual : Offset := { name, east }
      if rest.isEmpty then ⟨usual, none⟩
      else
        let (name, rest) := (name? rest).getD ([], rest)
        let (summerEast, rest) := (east? rest).getD (east + 3600, rest)
        let rest := if rest = [44] then [] else rest
        let (start, finish) := match change? usualStart rest with
          | none => (noChange, noChange)
          | some (start, rest) =>
            (start, ((change? usualFinish rest).map (·.1)).getD noChange)
        ⟨usual, some ⟨{ name, east := summerEast, isSummer := true }, start, finish⟩⟩

end Zone

end CleanLaunch.Calendar
