import CleanLaunch.Bytes

/-! Numbers for people: few digits and a letter for a power of 1000 or 1024. What is left over counts as
    one more, so that nothing looks smaller than it is. -/

namespace CleanLaunch.Shell

namespace Human

/-- A number as it is divided by its base: its whole part, its tenths, and whether more is left over. -/
structure Scaled where
  whole : Nat
  tenths : Nat := 0
  hasMore : Bool := false
  power : Nat := 0

/-- Divides a number until its whole part is less than the base. -/
def scale (base : Nat) : (bound : Nat) → Scaled → Scaled
  | 0, scaled => scaled
  | bound + 1, scaled =>
    if scaled.whole < base then scaled
    else
      let tens := scaled.whole % base * 10 + scaled.tenths
      scale base bound {
        whole := scaled.whole / base, tenths := tens / base
        hasMore := scaled.hasMore || tens % base ≠ 0, power := scaled.power + 1 }

/-- The largest power that has a letter. -/
def maxPower : Nat := 10

/-- Letters of powers. -/
def letter (base power : Nat) : Bytes :=
  if power = 0 then []
  else if power = 1 && base = 1000 then [107]
  else ((utf8 "KMGTPEZYRQ").drop (power - 1)).take 1

/-- The text of a number. -/
def text (base n : Nat) : Bytes :=
  let { whole, tenths, hasMore, power } := scale base maxPower { whole := n }
  let tenths := if whole < 10 && hasMore then tenths + 1 else tenths
  if power = 0 then Bytes.decimal whole
  else if whole < 10 && tenths < 10 then
    Bytes.decimal whole ++ 46 :: Bytes.decimal tenths ++ letter base power
  else
    let whole := if whole < 10 then 10 else if 0 < tenths || hasMore then whole + 1 else whole
    if whole = base && power < maxPower then utf8 "1.0" ++ letter base (power + 1)
    else Bytes.decimal whole ++ letter base power

end Human

end CleanLaunch.Shell
