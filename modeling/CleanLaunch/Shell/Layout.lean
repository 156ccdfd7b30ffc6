import CleanLaunch.Shell.Floating

/-! How the conversions of formats lay out texts and numbers. -/

namespace CleanLaunch.Shell

/-- How a conversion lays out its text. -/
structure Layout where
  leftAligned : Bool := false
  zeroPadded : Bool := false
  plusSign : Bool := false
  blankSign : Bool := false
  alternate : Bool := false
  width : Nat := 0
  precision : Option Nat := none

namespace Layout

/-- Flags of a conversion and the text after them. -/
def flags : (bound : Nat) → Layout → Bytes → Layout × Bytes
  | 0, layout, text => (layout, text)
  | bound + 1, layout, text =>
    match text with
    | 45 :: rest => flags bound { layout with leftAligned := true } rest
    | 48 :: rest => flags bound { layout with zeroPadded := true } rest
    | 43 :: rest => flags bound { layout with plusSign := true } rest
    | 32 :: rest => flags bound { layout with blankSign := true } rest
    | 35 :: rest => flags bound { layout with alternate := true } rest
    | _ => (layout, text)

/-- The layout with a width; a negative one also aligns to the left. -/
def withWidth (layout : Layout) (width : Int) : Layout :=
  { layout with
    width := width.natAbs, leftAligned := layout.leftAligned || decide (width < 0) }

/-- The layout with a precision; a negative one counts as none. -/
def withPrecision (layout : Layout) (precision : Int) : Layout :=
  { layout with precision := if precision < 0 then none else some precision.toNat }

/-- Pads a text to the width. -/
def pad (layout : Layout) (text : Bytes) : Bytes :=
  let padding := List.replicate (layout.width - text.length) 32
  if layout.leftAligned then text ++ padding else padding ++ text

/-- Lays out a text, cut to the precision. -/
def text (layout : Layout) (text : Bytes) : Bytes :=
  layout.pad (match layout.precision with
    | some precision => text.take precision
    | none => text)

/-- Pads a number, between its sign and its digits if that is asked for. -/
def padNumber (layout : Layout) (withZeros : Bool) (sign digits : Bytes) : Bytes :=
  let zeros :=
    if layout.zeroPadded && withZeros && !layout.leftAligned then
      List.replicate (layout.width - sign.length - digits.length) 48
    else []
  layout.pad (sign ++ zeros ++ digits)

/-- The sign of a number that may be negative. -/
def sign (layout : Layout) (isNegative : Bool) : Bytes :=
  if isNegative then [45] else if layout.plusSign then [43]
  else if layout.blankSign then [32] else []

/-- Digits with zeros before them up to the precision. No digits are needed for a zero of precision
    0. -/
def precise (layout : Layout) (digits : Bytes) : Bytes :=
  match layout.precision with
  | some precision =>
    if precision = 0 && digits = [48] then []
    else List.replicate (precision - digits.length) 48 ++ digits
  | none => digits

/-- Lays out a whole number. -/
def integer (layout : Layout) (value : Int) : Bytes :=
  layout.padNumber layout.precision.isNone (layout.sign (decide (value < 0)))
    (layout.precise (Bytes.decimal value.natAbs))

/-- Digits of a number in a base. -/
def digitsIn (base : Nat) (capital : Bool) (n : Nat) : Bytes :=
  (Nat.toDigits base n).map fun digit =>
    (if capital then digit.toUpper else digit).toNat.toUInt8

/-- Lays out a whole number without a sign, as a conversion letter asks for it. -/
def natural (layout : Layout) (letter : UInt8) (value : Nat) : Bytes :=
  let capital := letter == 88
  let base := if letter == 111 then 8 else if letter == 117 then 10 else 16
  let digits := layout.precise (digitsIn base capital value)
  let digits :=
    if letter == 111 && layout.alternate && digits.head? != some 48 then 48 :: digits else digits
  let sign := if base = 16 && layout.alternate && value ≠ 0 then [48, letter] else []
  layout.padNumber layout.precision.isNone sign digits

/-- Lays out a floating-point number, as a conversion letter asks for it. -/
def floating (layout : Layout) (range : Floating.Range) (letter : UInt8) (value : Floating) :
    Bytes :=
  let capital := 65 ≤ letter && letter ≤ 90
  let small := if capital then letter + 32 else letter
  let text := value.text range small layout.alternate layout.precision
  let isFinite := match value with
    | .finite .. => true
    | _ => false
  let (front, digits) := if small == 97 && isFinite then (text.take 2, text.drop 2) else ([], text)
  let laid := layout.padNumber isFinite (layout.sign value.isNegative ++ front) digits
  if capital then laid.map fun byte => if 97 ≤ byte && byte ≤ 122 then byte - 32 else byte
  else laid

end Layout

end CleanLaunch.Shell
