import CleanLaunch.Shell.Floating.Operations
import CleanLaunch.Shell.Layout
import CleanLaunch.Shell.Utility.Call

/-! The utility `seq`, which prints numbers from one to another.

    Whole numbers are exact, whatever their size. Others are numbers with a mantissa of 64 bits, and shown
    with as many places as the first number and the distance have. -/

namespace CleanLaunch.Shell.Utility

open Shell.Action

namespace Sequence

/-- A number of a call: its value, how many columns it takes as it is written, and its places behind the point
    if they are known. -/
structure Number where
  value : Floating
  width : Int := 0
  places : Option Int := none

/-- The whole number at the head of a text. -/
def exponentOf (text : Bytes) : Int := ((Shell.Number.read? (some 10) text).map (·.value)).getD 0

/-- How a number that is written in decimal digits is to be shown: its columns, and its places. -/
def appearance (text : Bytes) : Int × Int :=
  let length : Int := text.length
  let point := text.findIdx? (· == 46)
  let isMark (byte : UInt8) : Bool := byte == 101 || byte == 69
  let fraction : Int := match point with
    | some n => ((text.drop (n + 1)).takeWhile (!isMark ·)).length
    | none => 0
  let isBare : Bool := match point with
    | some 0 => true
    | some n => !((text.drop (n - 1)).headD 0 |> Bytes.isDigit)
    | none => false
  let width := length + match point with
    | some _ => if fraction = 0 then -1 else if isBare then 1 else 0
    | none => 0
  match text.findIdx? isMark with
  | none => (width, fraction)
  | some mark =>
    let exponent := exponentOf (text.drop (mark + 1))
    let places := fraction + if exponent < 0 then -exponent else -(min fraction exponent)
    let width := width - (length - mark)
    if exponent < 0 then
      let isUndone : Bool := match point with
        | some n => mark = n + 1
        | none => true
      (width + (if isUndone then 1 else 0) - exponent, places)
    else
      let isPointless := point.isSome && places = 0 && 0 < fraction
      (width - (if isPointless then 1 else 0) + (exponent - min fraction exponent), places)

/-- Reads a number of a call. -/
def Number.read? (text : Bytes) : Option Number := do
  let read ← Floating.read? .extended text
  if !read.rest.isEmpty then none
  let text := text.dropWhile fun byte => Shell.Number.isSpace byte || byte == 43
  let isDecimal := !text.any (utf8 "xX").contains && read.value.isFinite
  let isWhole := !text.contains 46 && !text.contains 112
  if isDecimal then
    let (width, places) := appearance text
    return ⟨read.value, width, some places⟩
  else return ⟨read.value, 0, if isWhole then some 0 else none⟩

/-- A format: what is before and behind the number in it, and how the number is laid out. -/
structure Format where
  front : Bytes := []
  layout : Layout := {}
  letter : UInt8 := 103
  back : Bytes := []

/-- The text of a number in a format. -/
def Format.text (format : Format) (value : Floating) : Bytes :=
  format.front ++ format.layout.floating .extended format.letter value ++ format.back

/-- A part of a format up to a directive: its text, and what is behind the percent sign. -/
def plain : (bound : Nat) → Bytes → Bytes × Option Bytes
  | 0, _ | _, [] => ([], none)
  | bound + 1, 37 :: 37 :: rest =>
    let (text, rest) := plain bound rest
    (37 :: text, rest)
  | _, 37 :: rest => ([], some rest)
  | bound + 1, byte :: rest =>
    let (text, rest) := plain bound rest
    (byte :: text, rest)

/-- Reads a format, or says what is wrong with it behind its text. -/
def Format.read (text : Bytes) : Except Bytes Format :=
  match plain (text.length + 1) text with
  | (_, none) => .error (utf8 " has no % directive")
  | (front, some rest) =>
    let flags := rest.takeWhile (utf8 "-+#0 '").contains
    let (layout, _) := Layout.flags (flags.length + 1) {} (flags.filter (· != 39))
    let rest := rest.drop flags.length
    let (width, rest) := Shell.Number.digits 10 rest
    let layout := layout.withWidth width
    let (layout, rest) := match rest with
      | 46 :: rest =>
        let (precision, rest) := Shell.Number.digits 10 rest
        (layout.withPrecision precision, rest)
      | _ => (layout, rest)
    let rest := if rest.head? == some 76 then rest.drop 1 else rest
    match rest with
    | [] => .error (utf8 " ends in %")
    | letter :: rest =>
      if !(utf8 "efgaEFGA").contains letter then
        .error (utf8 " has unknown %" ++ [letter] ++ utf8 " directive")
      else match plain (rest.length + 1) rest with
        | (back, none) => .ok { front, layout, letter, back }
        | _ => .error (utf8 " has too many % directives")

/-- The format that shows numbers from one to another if none is asked for. -/
def usualFormat (first step last : Number) (isEven : Bool) : Format :=
  match first.places, step.places, last.places with
  | some firstPlaces, some stepPlaces, some lastPlaces =>
    let places := max firstPlaces stepPlaces
    let firstWidth := first.width + (places - firstPlaces) +
      if firstPlaces = 0 && places ≠ 0 then 1 else 0
    let lastWidth := last.width + (places - lastPlaces) +
      (if lastPlaces ≠ 0 && places = 0 then -1 else 0) + if lastPlaces = 0 && places ≠ 0 then 1 else 0
    let width := if isEven then max firstWidth lastWidth else 0
    { layout := { zeroPadded := isEven, width := width.toNat, precision := some places.toNat }
      letter := 102 }
  | _, _, _ => {}

/-- A number of a sequence, and whether it is the last one to be shown. `index` counts from zero. -/
def shown? (format : Format) (first step last : Floating) (index : Nat) : Option Bytes :=
  let at_ (n : Nat) : Floating :=
    .add .extended first (.multiply .extended (Floating.Range.extended.ofInt n) step)
  let isBeyond (value : Floating) : Bool := if step.isNegative then value.isLess last else last.isLess value
  let value := if index = 0 then first else at_ index
  if !isBeyond value then some (format.text value)
  else if index = 0 then none
  else
    let before := if index = 1 then first else at_ (index - 1)
    let text := format.text value
    let bare := (text.drop format.front.length).take
      (text.length - format.front.length - format.back.length)
    match Floating.read? .extended bare with
    | some read =>
      if !isBeyond before && read.rest.isEmpty && read.value.isSame last &&
        format.text before ≠ text then some text else none
    | none => none

/-- Numbers that are written at a time. -/
def blockLength : Nat := 1000

/-- Prints texts until there are none, with a separator between them. `text?` gives the text at an index. -/
def printAll (separator : Bytes) (text? : Nat → Option Bytes) : Action Nat := do
  let (_, problem) ← repeatFrom ((0, none) : Nat × Option Errno) fun (start, _) => do
    let texts := ((List.range blockLength).map fun n => text? (start + n)).takeWhile (·.isSome)
    let texts := texts.filterMap fun text => text
    let isEnd := texts.length < blockLength
    let body := Bytes.joinWith separator texts
    let front := if 0 < start && !texts.isEmpty then separator else []
    let back := if isEnd && (0 < start || !texts.isEmpty) then [10] else []
    let block := front ++ body ++ back
    let problem ← if block.isEmpty then pure none else write 1 block
    return ((start + blockLength, problem), !isEnd && problem.isNone)
  match problem with
  | none => return 0
  | some errno =>
    complain (utf8 "write error: " ++ errno.wording)
    return 1

/-- The largest distance of whole numbers that are exact. -/
def mostExactStep : Nat := 200

end Sequence

open Sequence in
/-- Prints a sequence of numbers. -/
def seq (arguments : List Bytes) : Action Nat := do
  let known : Flags := ⟨"f:s:w", [⟨"format", 'f', .argument⟩, ⟨"separator", 's', .argument⟩,
    ⟨"equal-width", 'w', .nothing⟩], .atNumber⟩
  withCall known 1 arguments fun call => do
    let stop (problem : Bytes) : Action Nat := do
      complain problem
      return 1
    let separator := (call.argument? 's').getD [10]
    let count := call.operands.length
    let quote := Quotation.text (hasWideCharacters (← get))
    if count = 0 then return ← missingOperand "operand"
    if 3 < count then return ← extraOperand (call.operands.getD 3 [])
    let format : Except Bytes (Option Format) := match call.argument? 'f' with
      | none => .ok none
      | some text => match Format.read text with
        | .ok format => .ok (some format)
        | .error problem => .error (utf8 "format " ++ quote text ++ problem)
    match format with
    | .error problem => stop problem
    | .ok format =>
    if format.isSome && call.has 'w' then
      return ← refuse 1 (utf8 "format string may not be specified when printing equal width strings")
    let isPlain := !call.has 'w' && format.isNone && separator.length = 1
    let naturals := call.operands.map natural?
    let exact (first step last : Nat) : Action Nat :=
      printAll separator fun n =>
        let value := first + n * step
        if value ≤ last then some (Bytes.decimal value) else none
    match isPlain, naturals with
    | true, [some last] => return ← exact 1 1 last
    | true, [some first, some last] => return ← exact first 1 last
    | true, [some first, some step, some last] =>
      if 0 < step && step ≤ mostExactStep then return ← exact first step last
    | _, _ => pure ()
    let mut numbers : List Sequence.Number := []
    for text in call.operands do
      match Sequence.Number.read? text with
      | none => return ← refuse 1 (utf8 "invalid floating point argument: " ++ (← quoted text))
      | some number =>
        if number.value.isUndefined then
          return ← refuse 1 (utf8 "invalid " ++ (← quoted (utf8 "not-a-number")) ++ utf8 " argument: " ++
            (← quoted text))
        numbers := numbers ++ [number]
        if numbers.length = 2 && count = 3 && number.value.isZero then
          return ← refuse 1 (utf8 "invalid Zero increment value: " ++ (← quoted text))
    let one : Sequence.Number := ⟨Floating.Range.extended.ofInt 1, 1, some 0⟩
    let (first, step, last) : Sequence.Number × Sequence.Number × Sequence.Number := match numbers with
      | [first, step, last] => (first, step, last)
      | [first, last] => (first, one, last)
      | [last] => (one, one, last)
      | _ => (one, one, one)
    let isEndless := !last.value.isFinite && last.places = some 0 && !last.value.isNegative
    let wholes := [first.value, step.value].filterMap Floating.truncated
    let isWhole := first.places = some 0 && step.places = some 0 && last.places = some 0
    match isPlain && isWhole, wholes with
    | true, [start, stride] =>
      if 0 ≤ start && 0 < stride && stride ≤ mostExactStep && !last.value.isNegative then
        if isEndless then
          return ← printAll separator fun n => some (Bytes.decimal (start.toNat + n * stride.toNat))
        else return ← exact start.toNat stride.toNat (((last.value.truncated).getD 0).toNat)
    | _, _ => pure ()
    let format := format.getD (usualFormat first step last (call.has 'w'))
    printAll separator (shown? format first.value step.value last.value)

end CleanLaunch.Shell.Utility
