import CleanLaunch.Shell.Utility.Expression
import CleanLaunch.Shell.Utility.Input

/-! The utilities that copy whole files, as they are or the other way round: `cat`, `tac`, `rev`, `tee`. -/

namespace CleanLaunch.Shell.Utility

open Shell.Action

/-- What `cat` makes visible. -/
structure Display where
  numbers : Bool
  /-- Are only lines with something in them numbered? -/
  skipsBlank : Bool
  squeezes : Bool
  ends : Bool
  tabs : Bool
  controls : Bool

namespace Display

/-- Where a display is: the newlines behind each other, or none within a line, and the number of the last
    line. -/
structure Progress where
  newlines : Option Nat := some 0
  line : Nat := 0
  shown : List Bytes := []

/-- A byte made visible. -/
def byte (display : Display) (byte : UInt8) : Bytes :=
  if byte == 9 then if display.tabs then utf8 "^I" else [9]
  else if !display.controls then [byte]
  else
    let low := byte % 128
    let mark := if byte ≥ 128 then utf8 "M-" else []
    mark ++ (if low < 32 then [94, low + 64] else if low == 127 then utf8 "^?" else [low])

/-- The number of a line in its column. -/
def number (n : Nat) : Bytes :=
  let digits := Bytes.decimal n
  List.replicate (6 - digits.length) 32 ++ digits ++ [9]

def numbered (progress : Progress) : Progress :=
  { progress with
    line := progress.line + 1, shown := number (progress.line + 1) :: progress.shown }

/-- Goes on by one byte. -/
def step (display : Display) (progress : Progress) (next : UInt8) : Progress :=
  if next == 10 then
    match progress.newlines with
    | none =>
      { progress with
        newlines := some 0
        shown := (if display.ends then [36, 10] else [10]) :: progress.shown }
    | some before =>
      if display.squeezes && 1 ≤ before then { progress with newlines := some 2 }
      else
        let progress :=
          if display.numbers && !display.skipsBlank then numbered progress else progress
        { progress with
          newlines := some (before + 1)
          shown := (if display.ends then [36, 10] else [10]) :: progress.shown }
  else
    let progress :=
      if display.numbers && progress.newlines.isSome then numbered progress else progress
    { progress with newlines := none, shown := display.byte next :: progress.shown }

end Display

/-- Bytes that are copied at a time. -/
def pieceLength : Nat := 131072

/-- Copies everything from a descriptor to another one, piece by piece. The result says whether the
    reading failed or the writing. -/
def copyPieces (source target : Nat) : Action (Option Errno × Option Errno) :=
  repeatFrom (none, none) fun _ => do
    match ← readInput source (some pieceLength) with
    | .error errno => return ((some errno, none), false)
    | .ok piece =>
      if piece.isEmpty then return ((none, none), false)
      match ← write target piece with
      | some errno => return ((none, some errno), false)
      | none => return ((none, none), true)

/-- Would reading a descriptor meet what is written to standard output? -/
def readsOwnOutput (source : Nat) : Action Bool := do
  match ← filePlace? source, ← filePlace? 1 with
  | some (input, read, _), some (output, written, appends) =>
    let size := ((← get).world.fileAt output).2.length
    return input = output && read < (if appends then size else written)
  | _, _ => return false

/-- Copies files to standard output. -/
def cat (arguments : List Bytes) : Action Nat :=
  withCall ⟨"benstuvAET", [⟨"number-nonblank", 'b', .nothing⟩, ⟨"number", 'n', .nothing⟩,
    ⟨"squeeze-blank", 's', .nothing⟩, ⟨"show-nonprinting", 'v', .nothing⟩,
    ⟨"show-ends", 'E', .nothing⟩, ⟨"show-tabs", 'T', .nothing⟩,
    ⟨"show-all", 'A', .nothing⟩], .atEnd⟩ 1 arguments fun call => do
    let display : Display := {
      numbers := call.has 'n' || call.has 'b', skipsBlank := call.has 'b', squeezes := call.has 's'
      ends := (call.last? "EeA").isSome, tabs := (call.last? "TtA").isSome
      controls := (call.last? "vetA").isSome }
    let isPlain := call.flags.all (·.1 == 'u')
    if !(← isOpen 1) then
      complain (utf8 "standard output: " ++ Errno.EBADF.wording)
      return 1
    let mut progress : Display.Progress := {}
    let mut status := 0
    for path in inputs call.operands do
      let before := progress
      let report (errno : Errno) : Action Nat := do
        complain ((← plainName path) ++ utf8 ": " ++ errno.wording)
        return 1
      let answer ← withInput path fun descriptor => do
        if ← readsOwnOutput descriptor then
          complain ((← plainName path) ++ utf8 ": input file is output file")
          return (1, none, before)
        if isPlain then
          let (readError, writeError) ← copyPieces descriptor 1
          let status ← match readError with
            | some errno => report errno
            | none => pure 0
          return (status, writeError, before)
        match ← readAll descriptor with
        | .error errno => return (← report errno, none, before)
        | .ok text =>
          let after := text.foldl display.step before
          return (0, ← write 1 after.shown.reverse.flatten, { after with shown := [] })
      match answer with
      | .error errno => status ← report errno
      | .ok (one, writeError, after) =>
        status := max status one
        progress := after
        match writeError with
        | some errno =>
          complain (utf8 "write error: " ++ errno.wording)
          return 1
        | none => pure ()
    if (inputs call.operands).contains [45] && !(← isOpen 0) then
      complain (utf8 "closing standard input: " ++ Errno.EBADF.wording)
      return 1
    return status

namespace Reversal

/-- Where separators stand in a text: each with its offset and length, the last one first. They do not
    overlap, and the last ones are found first. -/
def ofText (separator text : Bytes) : List (Nat × Nat) :=
  let length := separator.length
  let (found, _) := (List.range (text.length + 1)).reverse.foldl (fun (found, limit) offset =>
    if offset + length ≤ limit && separator.isPrefixOf (text.drop offset) then
      ((offset, length) :: found, offset)
    else (found, limit)) (([] : List (Nat × Nat)), text.length)
  found.reverse

/-- The same for separators that an expression describes: the last place where a match begins that ends
    before a limit. -/
def ofExpression (parsed : Expression.Parsed) (text : Bytes) : (bound : Nat) → (limit : Nat) →
    List (Nat × Nat)
  | 0, _ => []
  | bound + 1, limit =>
    let place : Regular.Place := (Regular.Place.start (text.take limit))
    let starts := (List.range limit).reverse
    let look := { parsed.look false false with multiline := true }
    let found := starts.findSome? fun offset =>
      (parsed.expression.matchAt? look (place.advance offset)).map fun last =>
        (offset, last.offset - offset)
    match found with
    | some (offset, length) => (offset, length) :: ofExpression parsed text bound offset
    | none => []

/-- The parts of a text between its separators, the last one first. `isBefore` says that a separator belongs
    to the part behind it. -/
def parts (isBefore : Bool) (separators : List (Nat × Nat)) (text : Bytes) : List Bytes :=
  let cuts := separators.map fun (offset, length) => if isBefore then offset else offset + length
  let (parts, limit) := cuts.foldl (fun (parts, limit) cut =>
    ((text.take limit).drop cut :: parts, cut)) (([] : List Bytes), text.length)
  (text.take limit :: parts).reverse

end Reversal

/-- Prints the lines of files, or parts between other separators, from the last one to the first. -/
def tac (arguments : List Bytes) : Action Nat :=
  withCall ⟨"brs:", [⟨"before", 'b', .nothing⟩, ⟨"regex", 'r', .nothing⟩, ⟨"separator", 's', .argument⟩],
    .atEnd⟩ 1 arguments fun call => do
    let separator := (call.argument? 's').getD [10]
    let stop (problem : Bytes) : Action Nat := do
      complain problem
      return 1
    if call.has 'r' && separator.isEmpty then return ← stop (utf8 "separator cannot be empty")
    let find : Except Bytes (Bytes → List (Nat × Nat)) :=
      if call.has 'r' then
        match Expression.parse { allowsEmptyRanges := true, hasBareSigns := true } separator with
        | .error problem => .error (utf8 problem)
        | .ok parsed => .ok fun text => Reversal.ofExpression parsed text (text.length + 1) text.length
      else .ok (Reversal.ofText (if separator.isEmpty then [0] else separator))
    match find with
    | .error problem => stop problem
    | .ok find =>
      let status ← forInputs (inputs call.operands) fun path => do
        match ← content path with
        | .text text =>
          print (Reversal.parts (call.has 'b') (find text) text).flatten
          return 0
        | .closed errno =>
          stop (utf8 "failed to open " ++ (← quotedName path) ++ utf8 " for reading: " ++ errno.wording)
        | .unreadable errno =>
          let errno := if errno = .EISDIR then Errno.EINVAL else errno
          stop ((← plainName (inputName path)) ++ utf8 ": read error: " ++ errno.wording)
      finish status 1

/-- Prints the lines of files with the bytes of each in reverse order. -/
def rev (arguments : List Bytes) : Action Nat :=
  withCall ⟨"", [], .atEnd⟩ 1 arguments fun call => do
    let status ← forInputs (inputs call.operands) fun path => do
      match ← content path with
      | .text text =>
        print ((lines text).flatMap fun line =>
          let inner := chomp line
          inner.reverse ++ line.drop inner.length)
        return 0
      | .closed errno =>
        complain (utf8 "cannot open " ++ path ++ utf8 ": " ++ errno.wording)
        return 1
      | .unreadable errno =>
        complain (inputName path ++ utf8 ": " ++ errno.wording)
        return 1
    finish status 1

/-- Copies the input to standard output and to files. -/
def tee (arguments : List Bytes) : Action Nat :=
  withCall ⟨"aip", [⟨"append", 'a', .nothing⟩, ⟨"ignore-interrupts", 'i', .nothing⟩,
    ⟨"output-error", 'p', .perhaps⟩], .atEnd⟩ 1 arguments fun call => do
    let mut status := 0
    let mut targets : List (Nat × Bytes) := [(1, utf8 "standard output")]
    for path in call.operands do
      match ← openPath (if call.has 'a' then .append else .output) path with
      | .ok descriptor => targets := targets ++ [(descriptor, path)]
      | .error errno =>
        complain ((← plainName path) ++ utf8 ": " ++ errno.wording)
        status := 1
    let (_, worst, problem) ← repeatFrom (targets, status, (none : Option Errno))
      fun (targets, status, _) => do
        match ← readInput 0 (some pieceLength) with
        | .error errno => return ((targets, 1, some errno), false)
        | .ok piece =>
          if piece.isEmpty || targets.isEmpty then return ((targets, status, none), false)
          let mut left := []
          let mut status := status
          for (descriptor, path) in targets do
            match ← write descriptor piece with
            | none => left := left ++ [(descriptor, path)]
            | some errno =>
              complain ((← plainName path) ++ utf8 ": " ++ errno.wording)
              status := 1
          return ((left, status, none), true)
    match problem with
    | some errno =>
      complain (utf8 "read error: " ++ errno.wording)
      if !(← isOpen 0) then complain (utf8 "standard input: " ++ errno.wording)
    | none => pure ()
    return worst

end CleanLaunch.Shell.Utility
