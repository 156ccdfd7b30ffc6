import CleanLaunch.Shell.Utility.Amount
import CleanLaunch.Shell.Utility.Input

/-! The utilities `expand` and `unexpand`, which turn tabs into blanks and back. -/

namespace CleanLaunch.Shell.Utility

open Shell.Action

namespace Tabs

/-- Where tabs end: at some columns, and behind those at regular distances. -/
structure Stops where
  columns : List Nat := []
  /-- The distance behind the columns, counted from the start of a line. -/
  every : Option Nat := none
  /-- The distance behind the columns, counted from the last of them. -/
  further : Option Nat := none

/-- The next stop behind a column, if there is one. -/
def Stops.next? (stops : Stops) (column : Nat) : Option Nat :=
  let multiple (distance start : Nat) : Nat := column + (distance - (column - start) % distance)
  match stops.columns, stops.every, stops.further with
  | [], none, none => some (multiple 8 0)
  | [distance], none, none => some (multiple distance 0)
  | columns, every, further =>
    (columns.find? (column < ·)).or <| (every.map (multiple · 0)).or <|
      further.map (multiple · (columns.getLast?.getD 0))

/-- What has been read of a list of stops. -/
structure Reading where
  stops : Stops := {}
  digits : Bytes := []
  sign : Option UInt8 := none
  problems : List Bytes := []

/-- Takes the number that has been read. -/
def Reading.close (reading : Reading) : Reading :=
  match natural? reading.digits with
  | none => reading
  | some n =>
    let stops := reading.stops
    let stops := match reading.sign with
      | some 47 => { stops with every := some n }
      | some _ => { stops with further := some n }
      | none => { stops with columns := stops.columns ++ [n] }
    { reading with stops, digits := [], sign := none }

/-- Reads a list of stops. -/
def read (quote : Bytes → Bytes) : Bytes → Reading → Reading
  | [], reading => reading.close
  | byte :: rest, reading =>
    if byte == 44 || byte == 32 || byte == 9 then read quote rest reading.close
    else if byte == 47 || byte == 43 then
      let problems := if reading.digits.isEmpty then reading.problems
        else reading.problems ++ [[39, byte] ++ utf8 "' specifier not at start of number: " ++
          quote (byte :: rest)]
      read quote rest { reading with sign := some byte, problems }
    else if Bytes.isDigit byte then read quote rest { reading with digits := reading.digits ++ [byte] }
    else
      { reading with problems := reading.problems ++
          [utf8 "tab size contains invalid character(s): " ++ quote (byte :: rest)] }

/-- What is wrong with stops. -/
def Stops.problem? (stops : Stops) : Option String :=
  let all := stops.columns
  let isRising := (all.zip (all.drop 1)).all fun (a, b) => a < b
  if all.contains 0 then some "tab size cannot be 0"
  else if !isRising then some "tab sizes must be ascending"
  else if stops.every.isSome && stops.further.isSome then
    some "'/' specifier is mutually exclusive with '+'"
  else none

/-- The stops that the flags of a call ask for. Digits are flags of their own. -/
def stops (call : Call) : Action (Except Nat Stops) := do
  let quote := Quotation.text (hasWideCharacters (← get))
  let lists := (call.flags.reverse.filter (·.1 == 't')).map (·.2)
  let digits := (call.flags.reverse.filter fun flag => flag.1.isDigit || flag.1 == ',').map fun flag =>
    flag.1.toNat.toUInt8
  let reading := (lists ++ [digits]).foldl (fun reading list => read quote list reading) ({} : Reading)
  if !reading.problems.isEmpty then
    for problem in reading.problems do complain problem
    return .error 1
  match reading.stops.problem? with
  | some problem =>
    complain (utf8 problem)
    return .error 1
  | none =>
    let positive (n : Option Nat) : Option Nat := n.filter (0 < ·)
    return .ok { reading.stops with
      every := positive reading.stops.every, further := positive reading.stops.further }

/-- Where the expansion of a line is. -/
structure Expanding where
  column : Nat := 0
  /-- Has nothing else than blanks been seen, or does that not matter? -/
  isActive : Bool := true
  shown : List Bytes := []

/-- Goes on by one byte. -/
def expandByte (stops : Stops) (onlyLeading : Bool) (state : Expanding) (byte : UInt8) : Expanding :=
  if byte == 10 then { shown := [10] :: state.shown }
  else if !state.isActive then { state with shown := [byte] :: state.shown }
  else if byte == 9 then
    let next := (stops.next? state.column).getD (state.column + 1)
    { state with
      column := next, shown := List.replicate (next - state.column) 32 :: state.shown }
  else
    { state with
      column := if byte == 8 then state.column - 1 else state.column + 1
      isActive := !onlyLeading || byte == 32
      shown := [byte] :: state.shown }

/-- Where the opposite is. -/
structure Shrinking where
  column : Nat := 0
  isActive : Bool := true
  /-- Blanks that may become a tab. -/
  pending : Bytes := []
  wasBlank : Bool := true
  /-- Does a single blank stand right before a stop? -/
  oneBefore : Bool := false
  shown : List Bytes := []

/-- Shows the blanks that stay, and what is behind them. -/
def Shrinking.release (state : Shrinking) (pending rest : Bytes) : Shrinking :=
  let pending := if 1 < pending.length && state.oneBefore then 9 :: pending.drop 1 else pending
  { state with
    pending := []
    oneBefore := if pending.isEmpty then state.oneBefore else false
    shown := (pending ++ rest) :: state.shown }

/-- Goes on by one byte. -/
def shrinkByte (stops : Stops) (onlyLeading : Bool) (state : Shrinking) (byte : UInt8) : Shrinking :=
  let isBlank := byte == 32 || byte == 9
  if !state.isActive then
    if byte == 10 then { shown := [10] :: state.shown }
    else { state with shown := [byte] :: state.shown }
  else
    let goOn (state : Shrinking) (pending rest : Bytes) : Shrinking :=
      let state := state.release pending rest
      if byte == 10 then { shown := state.shown }
      else { state with wasBlank := isBlank, isActive := state.isActive && (!onlyLeading || isBlank) }
    if isBlank then
      match stops.next? state.column with
      | none => goOn { state with isActive := false } state.pending [byte]
      | some next =>
        let kept (pending : Bytes) : Bytes := if state.oneBefore then pending.take 1 else []
        if byte == 9 then
          let pending := if state.pending.isEmpty then [] else 9 :: state.pending.drop 1
          goOn { state with column := next } (kept pending) [9]
        else
          let column := state.column + 1
          if state.wasBlank && column = next then
            goOn { state with column } (kept (9 :: state.pending.drop 1)) [9]
          else
            { state with
              column, pending := state.pending ++ [byte], wasBlank := true
              oneBefore := state.oneBefore || column = next }
    else
      let column := if byte == 8 then state.column - 1 else state.column + 1
      goOn { state with column } state.pending [byte]

/-- Runs one of the two on files, as if they were one. -/
def convert (call : Call) (change : Stops → Bytes → Bytes) : Action Nat := do
  match ← stops call with
  | .error status => return status
  | .ok stops =>
    let (status, text) ← (inputs call.operands).foldlM (fun (status, text) path => do
      match ← content path with
      | .text more => return (status, text ++ more)
      | .closed errno | .unreadable errno =>
        complain ((← plainName path) ++ utf8 ": " ++ errno.wording)
        return (1, text)) ((0 : Nat), ([] : Bytes))
    print (change stops text)
    finish status 1

end Tabs

open Tabs in
/-- Turns tabs into blanks. -/
def expand (arguments : List Bytes) : Action Nat :=
  withCall ⟨"it:0123456789,", [⟨"tabs", 't', .argument⟩, ⟨"initial", 'i', .nothing⟩], .atEnd⟩ 1 arguments
    fun call => convert call fun stops text =>
      (text.foldl (expandByte stops (call.has 'i')) {}).shown.reverse.flatten

open Tabs in
/-- Turns blanks into tabs. -/
def unexpand (arguments : List Bytes) : Action Nat :=
  withCall ⟨",0123456789at:", [⟨"tabs", 't', .argument⟩, ⟨"all", 'a', .nothing⟩,
    ⟨"first-only", 'φ', .nothing⟩], .atEnd⟩ 1 arguments fun call => do
    let isAll := call.has 'a' || call.has 't' || call.flags.any (·.1.isDigit)
    convert call fun stops text =>
      let last := text.foldl (shrinkByte stops (call.has 'φ' || !isAll)) {}
      (last.release last.pending []).shown.reverse.flatten

end CleanLaunch.Shell.Utility
