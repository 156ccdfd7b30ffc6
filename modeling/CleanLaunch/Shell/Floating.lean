import CleanLaunch.Shell.Number

/-! Binary floating-point numbers and their decimal texts.

    A finite number is a whole number times a power of two. Numbers are read from text and written to it
    with exact arithmetic, and a result that does not fit is rounded to the nearest one that does, in
    a tie to the even one. -/

namespace CleanLaunch.Shell

inductive Floating
  | finite (negative : Bool) (mantissa : Nat) (exponent : Int)
  | infinite (negative : Bool)
  | undefined (negative : Bool)

namespace Floating

def isNegative : Floating → Bool
  | .finite negative .. | .infinite negative | .undefined negative => negative

/-- A quotient rounded to the nearest whole number, in a tie to the even one. -/
def roundedQuotient (numerator denominator : Nat) : Nat :=
  let quotient := numerator / denominator
  let twice := 2 * (numerator % denominator)
  if twice < denominator || (twice == denominator && quotient % 2 == 0) then quotient
  else quotient + 1

/-- Which finite numbers there are. -/
structure Range where
  /-- Bits of a mantissa. -/
  bits : Nat
  /-- The least exponent of a mantissa, and the largest one. -/
  least : Int
  largest : Int

namespace Range

def double : Range := ⟨53, -1074, 971⟩

def extended : Range := ⟨64, -16445, 16320⟩

/-- The number nearest to a quotient. -/
def ofQuotient (range : Range) (negative : Bool) (numerator denominator : Nat) : Floating :=
  if numerator = 0 then .finite negative 0 0
  else
    let scaled (exponent : Int) : Nat × Nat :=
      if 0 ≤ exponent then (numerator, denominator * Nat.pow 2 exponent.toNat)
      else (numerator * Nat.pow 2 (-exponent).toNat, denominator)
    let guess : Int := (numerator.log2 : Int) - denominator.log2 - (range.bits - 1)
    let (top, bottom) := scaled guess
    let exponent := if top / bottom < Nat.pow 2 (range.bits - 1) then guess - 1 else guess
    let exponent := max exponent range.least
    let (top, bottom) := scaled exponent
    let mantissa := roundedQuotient top bottom
    if range.largest < exponent ||
        (exponent == range.largest && Nat.pow 2 range.bits ≤ mantissa) then .infinite negative
    else .finite negative mantissa exponent

end Range

/-- What was read of a text as a number. -/
structure Read where
  value : Floating
  rest : Bytes

/-- An exponent behind a mark, if there is one. -/
def exponent? (text : Bytes) : Option (Int × Bytes) :=
  let isNegative := text.head? == some 45
  let unsigned := if isNegative || text.head? == some 43 then text.drop 1 else text
  if unsigned.head?.any Bytes.isDigit then
    let (value, rest) := Number.digits 10 unsigned
    some (if isNegative then -value else value, rest)
  else none

/-- Exponents beyond this are as good as infinite. -/
def farExponent : Int := 100000

/-- A number in digits of a base, perhaps with a point and an exponent of another base. -/
def unsigned? (range : Range) (negative : Bool) (base power : Nat) (mark : UInt8) (text : Bytes) :
    Option Read :=
  let isDigit (byte : UInt8) : Bool := (Number.digit? base byte).isSome
  let whole := text.takeWhile isDigit
  let after := text.drop whole.length
  let fraction := if after.head? == some 46 then (after.drop 1).takeWhile isDigit else []
  if whole.isEmpty && fraction.isEmpty then none
  else
    let rest := if after.head? == some 46 then after.drop (fraction.length + 1) else after
    let (exponent, rest) :=
      if rest.head?.any fun byte => byte == mark || byte == mark - 32 then
        (exponent? (rest.drop 1)).getD (0, rest)
      else (0, rest)
    let (mantissa, _) := Number.digits base (whole ++ fraction)
    let value :=
      if mantissa = 0 then .finite negative 0 0
      else if farExponent < exponent then .infinite negative
      else if exponent < -farExponent - fraction.length then .finite negative 0 0
      else
        let bottom := Nat.pow base fraction.length
        if 0 ≤ exponent then range.ofQuotient negative (mantissa * Nat.pow power exponent.toNat) bottom
        else range.ofQuotient negative mantissa (bottom * Nat.pow power (-exponent).toNat)
    some ⟨value, rest⟩

/-- The number at the head of a text, if there is one. -/
def read? (range : Range) (text : Bytes) : Option Read :=
  let text := text.dropWhile Number.isSpace
  let negative := text.head? == some 45
  let text := if negative || text.head? == some 43 then text.drop 1 else text
  let lower := text.map fun byte => if 65 ≤ byte && byte ≤ 90 then byte + 32 else byte
  let named (name : String) (value : Floating) : Option Read :=
    if (utf8 name).isPrefixOf lower then some ⟨value, text.drop name.length⟩ else none
  let hexadecimal := match lower with
    | 48 :: 120 :: _ => unsigned? range negative 16 2 112 (text.drop 2)
    | _ => none
  (named "infinity" (.infinite negative)).or <| (named "inf" (.infinite negative)).or <|
    (named "nan" (.undefined negative)).or <| hexadecimal.or <|
    unsigned? range negative 10 10 101 text

/-- Decimal digits of a number, at least `width` of them. -/
def digits (width n : Nat) : Bytes :=
  let text := Bytes.decimal n
  List.replicate (width - text.length) 48 ++ text

/-- Digits with a point before the last `places` of them. -/
def pointed (alternate : Bool) (places : Nat) (text : Bytes) : Bytes :=
  let whole := text.take (text.length - places)
  if places = 0 then whole ++ (if alternate then [46] else [])
  else whole ++ 46 :: text.drop whole.length

/-- A mantissa times a power of two, times a power of ten, as a quotient. -/
def quotient (mantissa : Nat) (exponent ten : Int) : Nat × Nat :=
  (mantissa * Nat.pow 2 exponent.toNat * Nat.pow 10 ten.toNat,
    Nat.pow 2 (-exponent).toNat * Nat.pow 10 (-ten).toNat)

/-- Text with a number of places behind the point. -/
def fixed (alternate : Bool) (places mantissa : Nat) (exponent : Int) : Bytes :=
  let (top, bottom) := quotient mantissa exponent places
  pointed alternate places (digits (places + 1) (roundedQuotient top bottom))

/-- The power of ten at or below a positive number. -/
def decimalExponent (mantissa : Nat) (exponent : Int) : Int :=
  let shift := (-(mantissa.log2 + exponent)).toNat / 3 + 2
  let (top, bottom) := quotient mantissa exponent shift
  ((Bytes.decimal (top / bottom)).length : Int) - 1 - shift

/-- All digits of a number with one before the point and some behind it, and its power of ten. -/
def scientificDigits (places mantissa : Nat) (exponent : Int) : Nat × Int :=
  if mantissa = 0 then (0, 0)
  else
    let ten := decimalExponent mantissa exponent
    let (top, bottom) := quotient mantissa exponent (places - ten)
    let rounded := roundedQuotient top bottom
    if Nat.pow 10 (places + 1) ≤ rounded then (rounded / 10, ten + 1) else (rounded, ten)

/-- An exponent with its sign and at least `width` digits. -/
def exponentText (width : Nat) (exponent : Int) : Bytes :=
  (if exponent < 0 then 45 else 43) :: digits width exponent.natAbs

/-- Text with one digit before the point and an exponent. -/
def scientific (alternate : Bool) (places mantissa : Nat) (exponent : Int) : Bytes :=
  let (rounded, ten) := scientificDigits places mantissa exponent
  pointed alternate places (digits (places + 1) rounded) ++ 101 :: exponentText 2 ten

/-- Text without the zeros at its end that mean nothing. -/
def withoutZeros (text : Bytes) : Bytes :=
  if text.contains 46 then
    let shorter := (text.reverse.dropWhile (· == 48)).reverse
    if shorter.getLast? = some 46 then shorter.dropLast else shorter
  else text

/-- Text with a number of digits that count, with an exponent if that is shorter. -/
def general (alternate : Bool) (precision mantissa : Nat) (exponent : Int) : Bytes :=
  let count := max precision 1
  let (rounded, ten) := scientificDigits (count - 1) mantissa exponent
  let tidy (text : Bytes) : Bytes := if alternate then text else withoutZeros text
  if ten < -4 || count ≤ ten then
    tidy (pointed alternate (count - 1) (digits count rounded)) ++ 101 :: exponentText 2 ten
  else
    let places := ((count : Int) - 1 - ten).toNat
    tidy (fixed alternate places mantissa exponent)

/-- Hexadecimal text. A number that is not too small has one bit before the point, or four of them. -/
def hexadecimal (range : Range) (alternate : Bool) (precision : Option Nat) (mantissa : Nat)
    (exponent : Int) : Bytes :=
  let leading := if range.bits % 4 = 0 then 4 else 1
  let places := (range.bits - leading) / 4
  let (mantissa, exponent) :=
    if mantissa = 0 then (0, 0)
    else
      let shift := min (range.bits - 1 - mantissa.log2) (exponent - range.least).toNat
      (mantissa * Nat.pow 2 shift, exponent - shift + 4 * places)
  let kept := precision.getD places
  let shown :=
    if kept < places then roundedQuotient mantissa (Nat.pow 16 (places - kept))
    else mantissa * Nat.pow 16 (kept - places)
  let text := (Nat.toDigits 16 shown).map fun digit => digit.toNat.toUInt8
  let text := List.replicate (kept + 1 - text.length) 48 ++ text
  let text := pointed alternate kept text
  let text := if precision.isNone && !alternate then withoutZeros text else text
  [48, 120] ++ text ++ 112 :: exponentText 1 exponent

/-- Text of a number without its sign, as a conversion letter asks for it. -/
def text (range : Range) (letter : UInt8) (alternate : Bool) (precision : Option Nat) :
    Floating → Bytes
  | .infinite _ => utf8 "inf"
  | .undefined _ => utf8 "nan"
  | .finite _ mantissa exponent =>
    let places := precision.getD 6
    match letter with
    | 97 => hexadecimal range alternate precision mantissa exponent
    | 101 => scientific alternate places mantissa exponent
    | 103 => general alternate places mantissa exponent
    | _ => fixed alternate places mantissa exponent

/-- The whole number a number is, without its fraction. -/
def truncated : Floating → Option Int
  | .finite negative mantissa exponent =>
    let (top, bottom) := quotient mantissa exponent 0
    let whole : Int := top / bottom
    some (if negative then -whole else whole)
  | _ => none

/-- A finite number and another exponent that is no larger, as a whole multiple of that power of two. -/
def scaledTo (exponent : Int) (negative : Bool) (mantissa : Nat) (own : Int) : Int :=
  let size : Int := mantissa * Nat.pow 2 (own - exponent).toNat
  if negative then -size else size

/-- How two numbers compare. What is no number at all is equal to everything. -/
def order : Floating → Floating → Ordering
  | .finite n a x, .finite m b y =>
    if a = 0 && b = 0 then .eq
    else
      let exponent := min x y
      compare (scaledTo exponent n a x) (scaledTo exponent m b y)
  | .infinite n, .infinite m => if n == m then .eq else if n then .lt else .gt
  | .infinite n, .finite .. => if n then .lt else .gt
  | .finite .., .infinite m => if m then .gt else .lt
  | .undefined _, _ | _, .undefined _ => .eq

end Floating

end CleanLaunch.Shell
