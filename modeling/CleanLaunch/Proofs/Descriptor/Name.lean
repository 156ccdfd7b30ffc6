import CleanLaunch.Descriptor.Number
import CleanLaunch.Proofs.Bytes

/-! Descriptor numbers read back from their names.

    `Bytes.numeral` is the number that digits write, without any bound. Reading digits one by one
    with a check at every step gives that number exactly when it is one a descriptor can have:
    `foldlM_pushDigit`. So the name of a descriptor, padded with NUL bytes or not, names that
    descriptor and no other: `parse?_nameOf`. -/

namespace CleanLaunch.Bytes

/-- The number that digits write behind a number already read. -/
def numeral : Bytes → (start : Nat) → Nat
  | [], start => start
  | byte :: rest, start => numeral rest (start * 10 + digitValue byte)

theorem le_numeral : ∀ (digits : Bytes) (start : Nat), start ≤ digits.numeral start
  | [], start => Nat.le_refl start
  | byte :: rest, start => by
    have h := le_numeral rest (start * 10 + digitValue byte)
    rw [numeral]
    omega

theorem beforeNul_append_replicate {bytes : Bytes} (hzero : (0 : UInt8) ∉ bytes) (k : Nat) :
    (bytes ++ List.replicate k 0).beforeNul = bytes := by
  have hpad : (List.replicate k (0 : UInt8)).takeWhile (· != 0) = [] := by
    cases k <;> simp [List.replicate_succ]
  rw [beforeNul, List.takeWhile_append_of_pos (bne_of_not_mem hzero), hpad, List.append_nil]

/-! ### Decimal text -/

/-- The byte of a digit has the digit's own code. -/
theorem toNat_of_isDigit {c : Char} (hc : c.isDigit = true) :
    c.toNat.toUInt8.toNat = c.toNat ∧ 48 ≤ c.toNat ∧ c.toNat ≤ 57 := by
  have hrange : 48 ≤ c.toNat ∧ c.toNat ≤ 57 := by
    simp only [Char.isDigit, Bool.and_eq_true, decide_eq_true_eq] at hc
    exact hc
  refine ⟨?_, hrange⟩
  rw [Nat.toUInt8_eq, UInt8.toNat_ofNat']
  omega

theorem isDigit_of_mem_decimal {n : Nat} {b : UInt8} (hb : b ∈ decimal n) : isDigit b = true := by
  obtain ⟨c, hc, rfl⟩ := List.mem_map.1 hb
  obtain ⟨hcode, hlow, hhigh⟩ := toNat_of_isDigit
    (Nat.isDigit_of_mem_toDigits (by decide) (by decide) hc)
  simp only [isDigit, Bool.and_eq_true, decide_eq_true_eq, UInt8.le_iff_toNat_le, hcode]
  exact ⟨hlow, hhigh⟩

theorem numeral_map_digits : ∀ (digits : List Char) (start : Nat),
    (∀ c ∈ digits, c.isDigit = true) →
    numeral (digits.map fun digit => digit.toNat.toUInt8) start = Nat.ofDigitChars 10 digits start
  | [], start, _ => by simp [numeral]
  | c :: rest, start, hdigit => by
    obtain ⟨hcode, _, _⟩ := toNat_of_isDigit (hdigit c List.mem_cons_self)
    rw [List.map_cons, numeral, Nat.ofDigitChars_cons, digitValue, hcode,
      numeral_map_digits rest _ fun d hd => hdigit d (List.mem_cons_of_mem _ hd), Nat.mul_comm]
    rfl

theorem numeral_decimal (n : Nat) : (decimal n).numeral 0 = n := by
  rw [decimal, numeral_map_digits _ _ fun c hc =>
    Nat.isDigit_of_mem_toDigits (by decide) (by decide) hc]
  exact Nat.ofDigitChars_ten_toDigits

theorem decimal_ne_nil (n : Nat) : decimal n ≠ [] := by
  simp [decimal]

theorem length_decimal_le_ten {n : Nat} (hn : n < 10000000000) : (decimal n).length ≤ 10 := by
  rw [decimal, List.length_map]
  exact (Nat.length_toDigits_le_iff (by decide) (by decide)).2 hn

end CleanLaunch.Bytes

namespace CleanLaunch.Descriptor

/-- One step rejects a byte that is no digit, and a number out of range. -/
theorem pushDigit_eq (n : Nat) (byte : UInt8) :
    pushDigit n byte =
      if Bytes.isDigit byte ∧ n * 10 + Bytes.digitValue byte ≤ maxNumber then
        some (n * 10 + Bytes.digitValue byte)
      else none := by
  rw [pushDigit]
  by_cases hdigit : Bytes.isDigit byte = true
  · rw [if_pos hdigit, bounded]
    by_cases htens : n * 10 ≤ maxNumber
    · rw [if_pos htens, Option.bind_some, bounded]
      simp [hdigit]
    · rw [if_neg htens, if_neg fun h => htens (by omega), Option.bind_none]
  · rw [if_neg hdigit, if_neg fun h => hdigit h.1]

/-- The checks of the single steps come to one check of the whole number. -/
theorem foldlM_pushDigit : ∀ (digits : Bytes) {n : Nat}, n ≤ maxNumber →
    digits.foldlM pushDigit n =
      if digits.all Bytes.isDigit ∧ Bytes.numeral digits n ≤ maxNumber then
        some (Bytes.numeral digits n)
      else none
  | [], n, hn => by simp [Bytes.numeral, hn]
  | byte :: rest, n, hn => by
    rw [List.foldlM_cons, pushDigit_eq, List.all_cons, Bytes.numeral]
    by_cases hstep : Bytes.isDigit byte ∧ n * 10 + Bytes.digitValue byte ≤ maxNumber
    · rw [if_pos hstep]
      show rest.foldlM pushDigit (n * 10 + Bytes.digitValue byte) = _
      rw [foldlM_pushDigit rest hstep.2, hstep.1, Bool.true_and]
    · have hle := Bytes.le_numeral rest (n * 10 + Bytes.digitValue byte)
      rw [if_neg hstep, if_neg fun h => hstep ⟨by simpa using (Bool.and_eq_true _ _ ▸ h.1).1,
        by omega⟩]
      rfl

/-- What a name says is the number its digits write, if it has digits only and the number is one a
    descriptor can have. -/
theorem parse?_eq (name : Bytes) :
    parse? name =
      if name.beforeNul ≠ [] ∧ name.beforeNul.all Bytes.isDigit ∧
          name.beforeNul.numeral 0 ≤ maxNumber then
        some (name.beforeNul.numeral 0)
      else none := by
  rw [parse?]
  cases h : name.beforeNul with
  | nil => simp
  | cons byte rest =>
    simp only [foldlM_pushDigit (byte :: rest) (Nat.zero_le maxNumber), ne_eq, reduceCtorEq,
      not_false_eq_true, true_and]

theorem beforeNul_nameOf (n k : Nat) : (nameOf n ++ List.replicate k 0).beforeNul = nameOf n :=
  Bytes.beforeNul_append_replicate
    (fun hzero => absurd (Bytes.isDigit_of_mem_decimal hzero) (by decide)) k

/-- A descriptor is read back from its name, whatever the padding. -/
theorem parse?_nameOf {n : Nat} (hn : n ≤ maxNumber) (k : Nat) :
    parse? (nameOf n ++ List.replicate k 0) = some n := by
  have hnumeral : (nameOf n).numeral 0 = n := Bytes.numeral_decimal n
  rw [parse?_eq, beforeNul_nameOf, hnumeral, if_pos]
  exact ⟨Bytes.decimal_ne_nil n, List.all_eq_true.2 fun b hb => Bytes.isDigit_of_mem_decimal hb, hn⟩

/-- A number too large for a descriptor is read back as nothing. -/
theorem parse?_nameOf_eq_none {n : Nat} (hn : maxNumber < n) (k : Nat) :
    parse? (nameOf n ++ List.replicate k 0) = none := by
  have hnumeral : (nameOf n).numeral 0 = n := Bytes.numeral_decimal n
  rw [parse?_eq, beforeNul_nameOf, hnumeral, if_neg fun h => absurd h.2.2 (Nat.not_le.2 hn)]

end CleanLaunch.Descriptor
