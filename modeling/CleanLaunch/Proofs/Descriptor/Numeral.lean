import CleanLaunch.Proofs.Descriptor.Name
import CleanLaunch.Proofs.Descriptor.Scanning
import Mathlib.Data.Nat.Digits.Defs
import Mathlib.Tactic.Ring

/-! Names that denote a descriptor.

    A name denotes a number if only digits stand before its first NUL, at least one, their decimal
    value is that number, and a descriptor can have it: `Denotes`. That is to say, the decimal text
    of the number stands there, with any zeros in front of it: `denotes_iff_zeros`.

    A name is read with the number so far and the count of its digits in signed words of 32 bits. A
    step in words is a step over numbers, `pushWord?_ofNat`, so by induction on the name the whole
    reading is one over numbers. The count cannot leave its word before the name has as many bytes
    as the word has numbers above zero, `parseWord?_ofNat`, and the name of a record is shorter:
    `length_lt_of_mem_names`. What is read is the number that the name denotes, and nothing if it
    denotes none: `parse_exact`. -/

namespace CleanLaunch.Bytes

/-! ### Digits by their places -/

/-- The decimal value of digits: each counts ten times as much as it would one place further on. -/
def placeValue (digits : Bytes) : Nat := Nat.ofDigits 10 (digits.map digitValue).reverse

theorem numeral_eq_add : ∀ (digits : Bytes) (start : Nat),
    digits.numeral start = digits.placeValue + 10 ^ digits.length * start
  | [], start => by simp [numeral, placeValue]
  | byte :: rest, start => by
    rw [numeral, numeral_eq_add rest, placeValue, placeValue, List.map_cons,
      Nat.ofDigits_reverse_cons, List.length_map, List.length_cons]
    ring

theorem numeral_zero (digits : Bytes) : digits.numeral 0 = digits.placeValue := by
  rw [numeral_eq_add, Nat.mul_zero, Nat.add_zero]

/-! ### Zeros in front -/

theorem numeral_zeros (digits : Bytes) : ∀ zeros : Nat,
    numeral (List.replicate zeros 48 ++ digits) 0 = digits.numeral 0
  | 0 => rfl
  | zeros + 1 => numeral_zeros digits zeros

theorem digitValue_of_isDigit {byte : UInt8} (hdigit : isDigit byte = true) :
    digitValue byte < 10 ∧ 48 + digitValue byte = byte.toNat := by
  have hrange : 48 ≤ byte.toNat ∧ byte.toNat ≤ 57 := by
    simpa [isDigit, UInt8.le_iff_toNat_le] using hdigit
  rw [digitValue]
  omega

theorem decimal_digitValue {byte : UInt8} (hdigit : isDigit byte = true) :
    decimal (digitValue byte) = [byte] := by
  obtain ⟨hten, hbyte⟩ := digitValue_of_isDigit hdigit
  have hcode : (Nat.digitChar (digitValue byte)).toNat = byte.toNat :=
    (Nat.toNat_digitChar_of_lt_ten hten).trans hbyte
  rw [decimal, Nat.toDigits_of_lt_base hten, List.map_singleton, hcode, Nat.toUInt8_eq,
    UInt8.ofNat_toNat]

/-- Digits behind the text of a number other than zero make a longer text. -/
theorem decimal_append : ∀ (digits : Bytes) {start : Nat}, 0 < start →
    (∀ b ∈ digits, isDigit b = true) → decimal start ++ digits = decimal (digits.numeral start)
  | [], start, _, _ => List.append_nil (decimal start)
  | byte :: rest, start, hstart, hdigits => by
    have hbyte : isDigit byte = true := hdigits byte List.mem_cons_self
    obtain ⟨hten, _⟩ := digitValue_of_isDigit hbyte
    calc decimal start ++ byte :: rest
        = decimal start ++ decimal (digitValue byte) ++ rest := by
          rw [decimal_digitValue hbyte, List.append_assoc, List.singleton_append]
      _ = decimal (start * 10 + digitValue byte) ++ rest := by
          rw [decimal, decimal, ← List.map_append,
            Nat.toDigits_append_toDigits (by decide) hstart hten, Nat.mul_comm, decimal]
      _ = decimal (numeral rest (start * 10 + digitValue byte)) :=
          decimal_append rest (by omega) fun b hb => hdigits b (List.mem_cons_of_mem _ hb)

/-- Digits are the text of their number with zeros in front of it. -/
theorem exists_zeros_append : ∀ {digits : Bytes}, digits ≠ [] → (∀ b ∈ digits, isDigit b = true) →
    ∃ zeros, digits = List.replicate zeros 48 ++ decimal (digits.numeral 0)
  | [byte], _, hdigits => by
    -- a zero that stands alone is a text itself
    refine ⟨0, ?_⟩
    rw [numeral, numeral, Nat.zero_mul, Nat.zero_add, decimal_digitValue (hdigits byte (by simp))]
    rfl
  | byte :: next :: rest, _, hdigits => by
    have hrest : ∀ b ∈ next :: rest, isDigit b = true :=
      fun b hb => hdigits b (List.mem_cons_of_mem _ hb)
    have hbyte : isDigit byte = true := hdigits byte List.mem_cons_self
    by_cases hzero : byte = 48
    · obtain ⟨zeros, heq⟩ := exists_zeros_append (List.cons_ne_nil next rest) hrest
      refine ⟨zeros + 1, ?_⟩
      rw [hzero, List.replicate_succ, List.cons_append]
      exact congrArg (48 :: ·) heq
    · have hpos : 0 < digitValue byte := by
        obtain ⟨_, hvalue⟩ := digitValue_of_isDigit hbyte
        have hne : byte.toNat ≠ 48 := fun h => hzero (UInt8.toNat_inj.1 h)
        omega
      refine ⟨0, ?_⟩
      rw [numeral, Nat.zero_mul, Nat.zero_add, ← decimal_append (next :: rest) hpos hrest,
        decimal_digitValue hbyte]
      rfl

theorem isDigit_of_mem_zeros {zeros n : Nat} {b : UInt8}
    (hb : b ∈ List.replicate zeros 48 ++ decimal n) : isDigit b = true := by
  rcases List.mem_append.1 hb with hb | hb
  · rw [List.eq_of_mem_replicate hb]
    rfl
  · exact isDigit_of_mem_decimal hb

/-! ### Up to the first NUL -/

theorem beforeNul_zero (rest : Bytes) : beforeNul (0 :: rest) = [] := rfl

theorem beforeNul_cons {byte : UInt8} (hbyte : byte ≠ 0) (rest : Bytes) :
    beforeNul (byte :: rest) = byte :: rest.beforeNul :=
  List.takeWhile_cons_of_pos (by simpa using hbyte)

theorem beforeNul_append_zero (rest : Bytes) : ∀ name : Bytes,
    beforeNul (name ++ 0 :: rest) = name.beforeNul
  | [] => rfl
  | byte :: name => by
    by_cases hbyte : byte = 0
    · rw [hbyte, List.cons_append, beforeNul_zero, beforeNul_zero]
    · rw [List.cons_append, beforeNul_cons hbyte, beforeNul_cons hbyte,
        beforeNul_append_zero rest name]

theorem beforeNul_of_digits {digits : Bytes} (hdigits : ∀ b ∈ digits, isDigit b = true) :
    digits.beforeNul = digits := by
  have hzero : (0 : UInt8) ∉ digits := fun hmem => absurd (hdigits 0 hmem) (by decide)
  have hself := beforeNul_append_replicate hzero 0
  rwa [List.replicate_zero, List.append_nil] at hself

end CleanLaunch.Bytes

namespace CleanLaunch.Descriptor

/-! ### Names that denote a number -/

/-- Before the first NUL of a name stand digits and nothing else, and their value is a number that a
    descriptor can have. -/
structure Denotes (name : Bytes) (n : Nat) : Prop where
  nonempty : name.beforeNul ≠ []
  digits : ∀ b ∈ name.beforeNul, Bytes.isDigit b = true
  value : name.beforeNul.placeValue = n
  fits : n ≤ 2147483647

theorem parse?_eq_some_iff (name : Bytes) (n : Nat) : parse? name = some n ↔ Denotes name n := by
  rw [parse?_eq, Bytes.numeral_zero]
  constructor
  · intro h
    split at h
    · next hname =>
      obtain rfl := Option.some.inj h
      exact ⟨hname.1, List.all_eq_true.1 hname.2.1, rfl, hname.2.2⟩
    · cases h
  · rintro ⟨hne, hdigits, rfl, hfits⟩
    rw [if_pos ⟨hne, List.all_eq_true.2 hdigits, hfits⟩]

theorem denotes_iff_zeros (name : Bytes) (n : Nat) :
    Denotes name n ↔
      n ≤ 2147483647 ∧ ∃ zeros, name.beforeNul = List.replicate zeros 48 ++ nameOf n := by
  constructor
  · rintro ⟨hne, hdigits, rfl, hfits⟩
    rw [← Bytes.numeral_zero] at hfits ⊢
    exact ⟨hfits, Bytes.exists_zeros_append hne hdigits⟩
  · rintro ⟨hfits, zeros, heq⟩
    refine ⟨?_, fun b hb => ?_, ?_, hfits⟩
    · rw [heq]
      exact List.append_ne_nil_of_right_ne_nil _ (Bytes.decimal_ne_nil n)
    · rw [heq] at hb
      exact Bytes.isDigit_of_mem_zeros hb
    · rw [heq, ← Bytes.numeral_zero, Bytes.numeral_zeros, nameOf, Bytes.numeral_decimal]

theorem parse?_append_zero (name rest : Bytes) : parse? (name ++ 0 :: rest) = parse? name := by
  rw [parse?, parse?, Bytes.beforeNul_append_zero]

/-! ### Reading in words -/

theorem int32?_natCast (n : Nat) : int32? n = (bounded n).map Int32.ofNat := by
  rw [int32?, bounded, maxNumber]
  by_cases hn : n ≤ 2147483647
  · rw [if_pos (by omega), if_pos hn, Option.map_some, Int32.ofInt_eq_ofNat]
  · rw [if_neg (by omega), if_neg hn, Option.map_none]

theorem toInt_ofNat {n : Nat} (hn : n ≤ maxNumber) : (Int32.ofNat n).toInt = n :=
  Int32.toInt_ofNat_of_lt (Nat.lt_succ_of_le hn)

theorem ofNat_eq_zero_iff {n : Nat} (hn : n ≤ maxNumber) : Int32.ofNat n = 0 ↔ n = 0 := by
  rw [← Int32.toInt_inj, toInt_ofNat hn, Int32.toInt_zero, Int.natCast_eq_zero]

theorem pushDigit_le {n pushed : Nat} {byte : UInt8} (hpush : pushDigit n byte = some pushed) :
    pushed ≤ maxNumber := by
  rw [pushDigit_eq] at hpush
  split at hpush
  · next hstep =>
    obtain rfl := Option.some.inj hpush
    exact hstep.2
  · cases hpush

theorem count_succ {count : Nat} (hcount : count < maxNumber) :
    int32? ((Int32.ofNat count).toInt + 1) = some (Int32.ofNat (count + 1)) := by
  rw [toInt_ofNat (Nat.le_of_lt hcount), ← Nat.cast_succ, int32?_natCast, bounded,
    if_pos (Nat.succ_le_of_lt hcount), Option.map_some]

/-- A step in words is a step over numbers. -/
theorem pushWord?_ofNat {n : Nat} (hn : n ≤ maxNumber) {byte : UInt8}
    (hdigit : Bytes.isDigit byte = true) :
    pushWord? (Int32.ofNat n) byte = (pushDigit n byte).map Int32.ofNat := by
  have htens := int32?_natCast (n * 10)
  rw [Nat.cast_mul, Nat.cast_ofNat] at htens
  rw [pushWord?, pushDigit, if_pos hdigit, toInt_ofNat hn, htens, bounded]
  by_cases hfits : n * 10 ≤ maxNumber
  · rw [if_pos hfits, Option.map_some, Option.bind_some, Option.bind_some, toInt_ofNat hfits,
      ← Nat.cast_add, int32?_natCast]
  · rw [if_neg hfits, Option.map_none, Option.bind_none, Option.bind_none, Option.map_none]

theorem counted_ofNat (n : Nat) {count : Nat} (hcount : count ≤ maxNumber) :
    counted (Int32.ofNat n) (Int32.ofNat count) =
      (if count = 0 then none else some n).map Int32.ofNat := by
  rw [counted]
  by_cases hzero : count = 0
  · rw [if_pos ((ofNat_eq_zero_iff hcount).2 hzero), if_pos hzero, Option.map_none]
  · rw [if_neg (mt (ofNat_eq_zero_iff hcount).1 hzero), if_neg hzero, Option.map_some]

/-- Reading in words is reading over numbers, if the count can go up by the length of the name.
    Behind a first digit the count is no longer zero, and what remains may be empty. -/
theorem parseWord?_ofNat : ∀ (name : Bytes) {n count : Nat}, n ≤ maxNumber →
    count + name.length ≤ maxNumber →
    parseWord? name (Int32.ofNat n) (Int32.ofNat count) =
      some ((if name.beforeNul = [] ∧ count = 0 then none
        else name.beforeNul.foldlM pushDigit n).map Int32.ofNat)
  | [], n, count, _, hcount => by
    have hcount : count ≤ maxNumber := hcount
    rw [parseWord?, counted_ofNat n hcount]
    simp [Bytes.beforeNul]
  | byte :: rest, n, count, hn, hcount => by
    rw [List.length_cons] at hcount
    rw [parseWord?]
    by_cases hzero : byte = 0
    · rw [if_pos hzero, counted_ofNat n (by omega), hzero, Bytes.beforeNul_zero]
      simp
    have hmore : ¬(byte :: Bytes.beforeNul rest = [] ∧ count = 0) :=
      fun h => List.cons_ne_nil _ _ h.1
    rw [if_neg hzero, Bytes.beforeNul_cons hzero, if_neg hmore, List.foldlM_cons]
    by_cases hdigit : Bytes.isDigit byte = true
    · rw [if_pos hdigit, pushWord?_ofNat hn hdigit]
      cases hpush : pushDigit n byte with
      | none => rfl
      | some pushed =>
        -- the bound leaves room in the count for this byte
        have hroom : count < maxNumber := by omega
        simp only [Option.map_some, count_succ hroom, Option.bind_some]
        rw [parseWord?_ofNat rest (pushDigit_le hpush) (by omega), if_neg (by simp)]
        rfl
    · rw [if_neg hdigit, pushDigit, if_neg hdigit]
      rfl

theorem parseWord?_zero {name : Bytes} (hlength : name.length < 2 ^ 31) :
    parseWord? name 0 0 = some ((parse? name).map Int32.ofNat) := by
  have hcount : 0 + name.length ≤ maxNumber := by
    rw [maxNumber]
    omega
  have hread := parseWord?_ofNat name (Nat.zero_le maxNumber) hcount
  refine hread.trans (congrArg (fun answer => some (Option.map Int32.ofNat answer)) ?_)
  rw [parse?]
  cases name.beforeNul with
  | nil => rfl
  | cons byte rest => exact if_neg fun h => List.cons_ne_nil _ _ h.1

/-- The length of a record has two bytes, so its name cannot be long. -/
theorem length_lt_of_mem_names {read name : Bytes} (hname : name ∈ Read.names read) :
    name.length < 2 ^ 31 := by
  obtain ⟨span, hspan, rfl⟩ := List.mem_map.1 hname
  have hwhole : Read.WholeAt read span :=
    Read.wholeAt_of_mem (Read.consecutive_spansFrom read read.length 0) span hspan
  have hlow := (read.getD (span.start + lengthOffset) 0).toNat_lt
  have hhigh := (read.getD (span.start + lengthOffset + 1) 0).toNat_lt
  have hlength : Read.word read (span.start + lengthOffset) = span.length := hwhole.length_eq
  rw [Read.word] at hlength
  have hshort : (span.name read).length ≤ span.length - nameOffset := List.length_take_le _ _
  omega

/-- A name is read as a number exactly if it denotes that number, which it does exactly if the
    decimal text of the number stands before the first NUL with any zeros in front of it. Checking
    each product and each sum against a word of 32 bits refuses and accepts the same names, and no
    name of less than 2 ^ 31 bytes, as every record's is, has too many digits to count. Bytes behind
    a NUL do not matter, so a descriptor is read back from its text, whatever zeros and bytes stand
    around it. -/
theorem parse_exact (name : Bytes) :
    (∀ n, parse? name = some n ↔ Denotes name n) ∧
      (∀ n, Denotes name n ↔
        n ≤ 2147483647 ∧ ∃ zeros, name.beforeNul = List.replicate zeros 48 ++ nameOf n) ∧
      (name.length < 2 ^ 31 → parseWord? name 0 0 = some ((parse? name).map Int32.ofNat)) ∧
      (∀ read, name ∈ Read.names read → name.length < 2 ^ 31) ∧
      (∀ rest, parse? (name ++ 0 :: rest) = parse? name) ∧
      ∀ n ≤ 2147483647, ∀ zeros rest,
        parse? (List.replicate zeros 48 ++ nameOf n ++ 0 :: rest) = some n := by
  refine ⟨parse?_eq_some_iff name, denotes_iff_zeros name, parseWord?_zero,
    fun _ => length_lt_of_mem_names, parse?_append_zero name, fun n hn zeros rest => ?_⟩
  rw [parse?_append_zero, parse?_eq_some_iff, denotes_iff_zeros]
  exact ⟨hn, zeros, Bytes.beforeNul_of_digits fun b hb => Bytes.isDigit_of_mem_zeros hb⟩

/-- A record named by the largest number with zeros in front of it, the same number with another
    digit behind its NUL, and the number after it. -/
theorem parse_exact_largest :
    let record := Record.padded 1 1 10 (utf8 "0002147483647")
    let larger := utf8 "2147483648"
    record.name ∈ Read.names record.encode ∧ Denotes record.name 2147483647 ∧
      parse? record.name = some 2147483647 ∧
      parseWord? record.name 0 0 = some (some 2147483647) ∧
      parse? (List.replicate 3 48 ++ nameOf 2147483647 ++ 0 :: utf8 "8") = some 2147483647 ∧
      parse? larger = none ∧ parseWord? larger 0 0 = some none := by
  intro record larger
  obtain ⟨hread, hzeros, hwords, hshort, _, htext⟩ := parse_exact record.name
  obtain ⟨hreadLarger, _, hwordsLarger, _⟩ := parse_exact larger
  have hname : record.name ∈ Read.names record.encode := by decide
  have hdenotes : Denotes record.name 2147483647 := (hzeros _).2 ⟨Nat.le_refl _, 3, by decide⟩
  have hparse : parse? record.name = some 2147483647 := (hread _).2 hdenotes
  have hnone : parse? larger = none := Option.eq_none_iff_forall_ne_some.2 fun n hn => by
    obtain ⟨_, _, hvalue, hfits⟩ := (hreadLarger n).1 hn
    have hnumeral : larger.beforeNul.numeral 0 = 2147483648 := by decide
    rw [Bytes.numeral_zero] at hnumeral
    omega
  refine ⟨hname, hdenotes, hparse, (hwords (hshort _ hname)).trans ?_,
    htext _ (Nat.le_refl _) 3 (utf8 "8"), hnone, (hwordsLarger (by decide)).trans ?_⟩
  · rw [hparse]
    rfl
  · rw [hnone]
    rfl

end CleanLaunch.Descriptor
