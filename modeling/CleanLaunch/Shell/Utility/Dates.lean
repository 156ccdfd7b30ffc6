import CleanLaunch.Calendar.Layout
import CleanLaunch.Calendar.Phrase
import CleanLaunch.Shell.Clock
import CleanLaunch.Shell.Utility.Input

/-! The utility `date`, which tells times. -/

namespace CleanLaunch.Shell.Utility

open Shell.Action
open Calendar (Zone Moment)

/-- The zone that the environment describes. -/
def environmentZone : Action Zone := do
  Clock.zone (environmentValue? (← get) "TZ")

/-- The time that it is: seconds and parts of the next one. -/
def currentTime : Action (Int × Nat) := do
  let now := (← get).world.now
  return (now.fdiv Files.partsPerSecond, (now.fmod Files.partsPerSecond).toNat)

/-- The time that a phrase means. -/
def phraseTime? (zone : Zone) (text : Bytes) : Action (Option (Int × Nat)) := do
  let (seconds, nanoseconds) ← currentTime
  return Calendar.Phrase.read zone seconds nanoseconds (text.takeWhile (· != 0))

namespace Dates

/-- The format of times as messages of the net have them. -/
def mailFormat : String := "%a, %d %b %Y %H:%M:%S %z"

/-- The format that is used if no other one is asked for. -/
def usualFormat : String := "%a %b %e %H:%M:%S %Z %Y"

/-- Formats with a letter between date and time, by how much they tell. -/
def precise : List (String × String) :=
  [("hours", "%Y-%m-%dT%H%:z"), ("minutes", "%Y-%m-%dT%H:%M%:z"), ("date", "%Y-%m-%d"),
   ("seconds", "%Y-%m-%dT%H:%M:%S%:z"), ("ns", "%Y-%m-%dT%H:%M:%S,%N%:z")]

/-- The same with a blank there. -/
def spaced : List (String × String) :=
  [("date", "%Y-%m-%d"), ("seconds", "%Y-%m-%d %H:%M:%S%:z"), ("ns", "%Y-%m-%d %H:%M:%S.%N%:z")]

/-- The format that an argument names. -/
def named (flag : String) (formats : List (String × String)) (argument : Bytes) :
    Action (Except Nat (Option Bytes)) := do
  match ← choice? flag (formats.map fun entry => [entry.1]) (some argument) with
  | .error status => return .error status
  | .ok name => return .ok ((name.bind fun name => formats.lookup name).map utf8)

/-- The format that the flags of a call ask for, if they do. -/
def formatOf : List (Char × Bytes) → (before : Option Bytes) → Action (Except Nat (Option Bytes))
  | [], before => return .ok before
  | (letter, argument) :: rest, before => do
    let format : Except Nat (Option Bytes) ← match letter with
      | 'R' => pure (.ok (some (utf8 mailFormat)))
      | 'I' =>
        if argument.isEmpty then pure (.ok (precise.lookup "date" |>.map utf8))
        else named "--iso-8601" precise argument
      | 'ρ' => named "--rfc-3339" spaced argument
      | 'g' => pure (.ok (some (utf8 "%s.%N")))
      | _ => pure (.ok none)
    match format, before with
    | .error status, _ => return .error status
    | .ok none, before => formatOf rest before
    | .ok (some _), some _ =>
      complain (utf8 "multiple output formats specified")
      return .error 1
    | .ok format, none => formatOf rest format

/-- Prints a time. -/
def tell (zone : Zone) (format : Bytes) (time : Int × Nat) : Action Unit :=
  print ((Moment.ofSeconds zone time.1 time.2).shownFully format ++ [10])

def refuseDate (text : Bytes) : Action Nat := do
  complain (utf8 "invalid date " ++ (← quoted text))
  return 1

/-- The time of two digits each for the month, the day, the hour and the minute, with a year and seconds if
    they are there. -/
def compact? (zone : Zone) (yearNow : Int) (hasLeadingYear : Bool) (text : Bytes) : Option Int := do
  let digits := text.takeWhile (· != 46)
  let tail := text.drop digits.length
  let second ← match tail with
    | [] => some 0
    | [_, a, b] => if Bytes.isDigit a && Bytes.isDigit b then some (Zone.natural [a, b]) else none
    | _ => none
  if !digits.all Bytes.isDigit || digits.length % 2 = 1 then none
  let pair (n : Nat) : Int := Zone.natural ((digits.drop (2 * n)).take 2)
  let count := digits.length / 2
  let short (n : Int) : Int := if n < 69 then n + 2000 else n + 1900
  let (year, first) ← match count, hasLeadingYear with
    | 4, _ => some (yearNow, 0)
    | 5, true => some (short (pair 0), 1)
    | 6, true => some (pair 0 * 100 + pair 1, 2)
    | 5, false => some (short (pair 4), 0)
    | 6, false => some (pair 4 * 100 + pair 5, 0)
    | _, _ => none
  let fields : Calendar.Fields := {
    year, month := pair first, day := pair (first + 1), hour := pair (first + 2), minute := pair (first + 3)
    second }
  let seconds := fields.seconds zone none
  let shown := Moment.ofSeconds zone seconds 0
  if shown.month = fields.month && shown.day = fields.day && shown.hour = fields.hour &&
      shown.minute = fields.minute && shown.second = fields.second then some seconds
  else none

/-- Tells the time of every line of a file. -/
def tellLines (zone : Zone) (format path : Bytes) : Action Nat := do
  match ← content path with
  | .closed errno =>
    complain ((← plainName path) ++ utf8 ": " ++ errno.wording)
    return 1
  | .unreadable errno =>
    complain ((← plainName (if path = [45] then utf8 "standard input" else path)) ++ utf8 ": " ++ errno.wording)
    return 1
  | .text text =>
    (lines text).foldlM (fun status line => do
      match ← phraseTime? zone line with
      | some time =>
        tell zone format time
        return status
      | none => refuseDate (chomp line)) 0

def known : Flags :=
  ⟨"d:f:I::r:Rs:u", [⟨"date", 'd', .argument⟩, ⟨"debug", 'δ', .nothing⟩, ⟨"file", 'f', .argument⟩,
    ⟨"iso-8601", 'I', .perhaps⟩, ⟨"reference", 'r', .argument⟩, ⟨"resolution", 'g', .nothing⟩,
    ⟨"rfc-822", 'R', .nothing⟩, ⟨"rfc-email", 'R', .nothing⟩, ⟨"rfc-3339", 'ρ', .argument⟩,
    ⟨"set", 's', .argument⟩, ⟨"uct", 'u', .nothing⟩, ⟨"utc", 'u', .nothing⟩,
    ⟨"universal", 'u', .nothing⟩], .atEnd⟩

/-- Tells a time that may have been asked for by flags, or that is now. -/
def tellOne (zone : Zone) (format : Bytes) (call : Call) (wanted : Option Bytes) : Action Nat := do
  let set_ : Action Nat := do
    complain (utf8 "cannot set date: " ++ Errno.EPERM.wording)
    return 1
  match wanted, call.argument? 'r', (call.argument? 's').or (call.argument? 'd') with
  | some text, _, _ =>
    let (now, _) ← currentTime
    match compact? zone (Moment.ofSeconds zone now 0).year false text with
    | none => refuseDate text
    | some seconds =>
      let status ← set_
      tell zone format (seconds, 0)
      return status
  | none, some path, _ =>
    match ← resolve true path with
    | .ok ⟨place, some _⟩ =>
      let time := (← get).tree.time place
      tell zone format (time.fdiv Files.partsPerSecond, (time.fmod Files.partsPerSecond).toNat)
      return 0
    | .ok ⟨_, none⟩ =>
      complain ((← plainName path) ++ utf8 ": " ++ Errno.ENOENT.wording)
      return 1
    | .error errno =>
      complain ((← plainName path) ++ utf8 ": " ++ errno.wording)
      return 1
  | none, none, some text =>
    match ← phraseTime? zone text with
    | none => refuseDate text
    | some time =>
      let status ← if call.has 's' then set_ else pure 0
      tell zone format time
      return status
  | none, none, none =>
    let time ← if call.has 'g' then pure (0, 1) else currentTime
    tell zone format time
    return 0

end Dates

open Dates in
/-- Tells times. -/
def date (arguments : List Bytes) : Action Nat :=
  withCall known 1 arguments fun call => do
    if call.has 'δ' then leave .abandoned
    match ← formatOf call.flags.reverse none with
    | .error status => return status
    | .ok format =>
      let sources := (if call.has 'd' then 1 else 0) + (if call.has 'f' then 1 else 0) +
        (if call.has 'r' then 1 else 0) + (if call.has 'g' then 1 else 0)
      if 1 < sources then
        return ← refuse 1 (utf8 "the options to specify dates for printing are mutually exclusive")
      if call.has 's' && sources ≠ 0 then
        return ← refuse 1 (utf8 "the options to print and set the time may not be used together")
      let zone ← if call.has 'u' then pure (Zone.read (utf8 "UTC0")) else environmentZone
      let goOn (format : Option Bytes) (wanted : Option Bytes) : Action Nat := do
        let format := format.getD (utf8 usualFormat)
        let status ← match call.argument? 'f' with
          | some path => tellLines zone format path
          | none => tellOne zone format call wanted
        finish status 1
      match call.operands with
      | _ :: extra :: _ => extraOperand extra
      | [] => goOn format none
      | [43 :: text] =>
        if format.isSome then
          complain (utf8 "multiple output formats specified")
          return 1
        goOn (some text) none
      | [text] =>
        if call.has 's' || sources ≠ 0 then
          refuse 1 (utf8 "the argument " ++ (← quoted text) ++ utf8 " lacks a leading '+';\n" ++
            utf8 "when using an option to specify date(s), any non-option\n" ++
            utf8 "argument must be a format string beginning with '+'")
        else goOn format (some text)

end CleanLaunch.Shell.Utility
