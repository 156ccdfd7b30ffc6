import CleanLaunch.Calendar.Zone

/-! Times as a calendar shows them.

    A time is a number of seconds from the beginning of the year 1970 on. `Moment.ofSeconds` gives the date and
    the time of day that clocks of a zone show then, and `Moment.seconds?` leads back. -/

namespace CleanLaunch.Calendar

/-- A day of the calendar with a time of it. -/
structure Moment where
  year : Int
  /-- Months and days are counted from 1, days of the week from Sunday, 0. -/
  month : Nat
  day : Nat
  weekday : Nat
  yearDay : Nat
  hour : Nat
  minute : Nat
  second : Nat
  /-- The seconds that the moment was made of, and parts of the last one. -/
  seconds : Int
  nanoseconds : Nat := 0
  offset : Offset

/-- A date: its year, month and day. -/
def dateOf (days : Int) : Int × Nat × Nat :=
  let shifted := days + 719468
  let era := shifted.fdiv 146097
  let eraDay := (shifted.fmod 146097).toNat
  let eraYear := (eraDay - eraDay / 1460 + eraDay / 36524 - eraDay / 146096) / 365
  let marchDay := eraDay - (365 * eraYear + eraYear / 4 - eraYear / 100)
  let marchMonth := (5 * marchDay + 2) / 153
  let day := marchDay - (153 * marchMonth + 2) / 5 + 1
  let month := if marchMonth < 10 then marchMonth + 3 else marchMonth - 9
  ((eraYear : Int) + era * 400 + (if month ≤ 2 then 1 else 0), month, day)

namespace Moment

/-- The moment some seconds after the beginning of 1970. -/
def ofSeconds (zone : Zone) (seconds : Int) (nanoseconds : Nat) : Moment :=
  let (usualYear, _, _) := dateOf ((seconds + zone.usual.east).fdiv secondsPerDay)
  let offset := zone.offsetAt usualYear seconds
  let shown := seconds + offset.east
  let days := shown.fdiv secondsPerDay
  let rest := (shown.fmod secondsPerDay).toNat
  let (year, month, day) := dateOf days
  { year, month, day
    weekday := ((days + 4).fmod 7).toNat
    yearDay := (days - dayOf year 1 1 + 1).toNat
    hour := rest / 3600, minute := rest / 60 % 60, second := rest % 60
    seconds, nanoseconds, offset }

end Moment

/-- What clocks and calendars are asked to show; parts out of range lead to neighbouring times. -/
structure Fields where
  year : Int := 1970
  month : Int := 1
  day : Int := 1
  hour : Int := 0
  minute : Int := 0
  second : Int := 0

namespace Fields

/-- Seconds from the beginning of 1970 on, if clocks showed universal time. -/
def plain (fields : Fields) : Int :=
  dayOf fields.year fields.month fields.day * secondsPerDay + fields.hour * 3600 + fields.minute * 60 +
    fields.second

/-- When clocks of a zone show this. Of two such times the one in summer counts, unless `isSummer` says
    otherwise. Where clocks skip it, the time is given that would be if they did not. -/
def seconds (fields : Fields) (zone : Zone) (isSummer : Option Bool) : Int :=
  let plain := fields.plain
  let shows (offset : Offset) : Bool :=
    (Moment.ofSeconds zone (plain - offset.east) 0).offset.east == offset.east
  match zone.summer with
  | none => plain - zone.usual.east
  | some summer =>
    match isSummer with
    | some true => plain - summer.offset.east
    | some false => plain - zone.usual.east
    | none => if shows summer.offset then plain - summer.offset.east else plain - zone.usual.east

/-- What is shown at a moment. -/
def ofMoment (moment : Moment) : Fields :=
  ⟨moment.year, moment.month, moment.day, moment.hour, moment.minute, moment.second⟩

end Fields

end CleanLaunch.Calendar
