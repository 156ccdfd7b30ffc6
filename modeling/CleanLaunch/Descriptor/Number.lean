import CleanLaunch.Bytes

/-! Descriptor numbers and their names.

    A listing names a descriptor by its number in decimal. `Descriptor.parse?` reads such a name up
    to its NUL terminator and gives nothing for any other name, or for a number beyond the largest a
    descriptor can have. `Descriptor.parseWord?` reads it digit by digit in the words that hold number
    and count, where every product and sum is checked. -/

namespace CleanLaunch.Descriptor

/-! ### Reading -/

/-- The largest number a descriptor can have. -/
def maxNumber : Nat := 2147483647

/-- A number no larger than `maxNumber`, or nothing. -/
def bounded (n : Nat) : Option Nat := if n ≤ maxNumber then some n else none

/-- Reads one more digit. Neither intermediate result may leave the range. -/
def pushDigit (n : Nat) (byte : UInt8) : Option Nat :=
  if Bytes.isDigit byte then
    (bounded (n * 10)).bind fun tens => bounded (tens + Bytes.digitValue byte)
  else none

/-- The descriptor a directory entry names. -/
def parse? (name : Bytes) : Option Nat :=
  match name.beforeNul with
  | [] => none
  | digits => digits.foldlM pushDigit 0

/-! ### Reading in words -/

/-- A value as a signed word of 32 bits, if one can hold it. -/
def int32? (value : Int) : Option Int32 :=
  if -2147483648 ≤ value ∧ value < 2147483648 then some (Int32.ofInt value) else none

/-- Reads one more digit. Neither the product nor the sum may leave the word. -/
def pushWord? (number : Int32) (byte : UInt8) : Option Int32 :=
  (int32? (number.toInt * 10)).bind fun tens => int32? (tens.toInt + Bytes.digitValue byte)

/-- The number that was read, if there was a digit. -/
def counted (number count : Int32) : Option Int32 := if count = 0 then none else some number

/-- Reads on behind digits with a number and a count. There is an answer, a number or that there is
    none, unless the count leaves its word. -/
def parseWord? : (name : Bytes) → (number count : Int32) → Option (Option Int32)
  | [], number, count => some (counted number count)
  | byte :: rest, number, count =>
    if byte = 0 then some (counted number count)
    else if Bytes.isDigit byte then
      match pushWord? number byte with
      | none => some none
      | some pushed => (int32? (count.toInt + 1)).bind (parseWord? rest pushed)
    else some none

/-! ### Naming -/

/-- The name of a descriptor in a listing. -/
def nameOf (n : Nat) : Bytes := Bytes.decimal n

end CleanLaunch.Descriptor
