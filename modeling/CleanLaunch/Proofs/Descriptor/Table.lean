import CleanLaunch.Descriptor.Number
import CleanLaunch.Descriptor.Table

/-! Which number a table gives out next, and what inserting and erasing it does.

    The lowest free number is not open, and every number below it is: `Table.lowestFree_not_mem`,
    `Table.mem_of_lt_lowestFree`. Opening a free number and closing it again leaves the table as it
    was: `Table.erase_insert`. -/

namespace CleanLaunch.Descriptor.Table

/-! ### The lowest free number -/

theorem le_firstGap : ∀ (l : List Nat) (candidate : Nat), candidate ≤ firstGap candidate l
  | [], candidate => Nat.le_refl candidate
  | n :: rest, candidate => by
    rw [firstGap]
    split
    · exact Nat.le_of_succ_le (le_firstGap rest (candidate + 1))
    · exact Nat.le_refl candidate

theorem firstGap_not_mem : ∀ (l : List Nat) (candidate : Nat), l.Pairwise (· < ·) →
    (∀ n ∈ l, candidate ≤ n) → firstGap candidate l ∉ l
  | [], _, _, _ => by simp
  | n :: rest, candidate, hasc, hlow => by
    obtain ⟨hbelow, hrest⟩ := List.pairwise_cons.1 hasc
    have hn : candidate ≤ n := hlow n List.mem_cons_self
    rw [firstGap]
    split
    · next heq =>
      have hgap := firstGap_not_mem rest (candidate + 1) hrest fun m hm => by
        have := hbelow m hm
        omega
      have hle := le_firstGap rest (candidate + 1)
      rw [List.mem_cons, not_or]
      exact ⟨by omega, hgap⟩
    · next hne =>
      rw [List.mem_cons, not_or]
      refine ⟨fun h => hne h.symm, fun hm => ?_⟩
      have := hbelow candidate hm
      omega

theorem mem_of_lt_firstGap : ∀ (l : List Nat) (candidate : Nat) {n : Nat},
    candidate ≤ n → n < firstGap candidate l → n ∈ l
  | [], candidate, n, hle, hlt => by
    rw [firstGap] at hlt
    omega
  | m :: rest, candidate, n, hle, hlt => by
    rw [firstGap] at hlt
    split at hlt
    · next heq =>
      rcases Nat.eq_or_lt_of_le hle with h | h
      · exact List.mem_cons.2 (Or.inl (h.symm.trans heq.symm))
      · exact List.mem_cons_of_mem _ (mem_of_lt_firstGap rest (candidate + 1) h hlt)
    · omega

theorem lowestFree_not_mem (table : Table) : table.lowestFree ∉ table :=
  firstGap_not_mem table.numbers 0 table.ascending fun n _ => Nat.zero_le n

theorem ne_lowestFree {table : Table} {n : Nat} (hn : n ∈ table) : n ≠ table.lowestFree :=
  fun heq => table.lowestFree_not_mem (heq ▸ hn)

theorem mem_of_lt_lowestFree {table : Table} {n : Nat} (hn : n < table.lowestFree) : n ∈ table :=
  mem_of_lt_firstGap table.numbers 0 (Nat.zero_le n) hn

theorem lowestFree_le {table : Table} {n : Nat} (hn : n ∉ table) : table.lowestFree ≤ n :=
  Nat.le_of_not_lt fun hlt => hn (mem_of_lt_lowestFree hlt)

/-! ### Inserting and erasing -/

theorem erase_insert {table : Table} {n : Nat} (hn : n ∉ table) :
    (table.insert n).erase n = table := by
  refine ext_mem fun m => ?_
  rw [mem_erase, mem_insert]
  constructor
  · rintro ⟨hm | hm, hne⟩
    · exact absurd hm hne
    · exact hm
  · intro hm
    exact ⟨Or.inr hm, fun h => hn (h ▸ hm)⟩

/-- Among the numbers other than the inserted one there is nothing new. -/
theorem filter_numbers_insert {table : Table} {n : Nat} (hn : n ∉ table) (p : Nat → Bool) :
    (table.insert n).numbers.filter (fun m => p m && m != n) = table.numbers.filter p := by
  have hnumbers : (table.insert n).numbers.filter (· != n) = table.numbers :=
    congrArg numbers (erase_insert hn)
  rw [← List.filter_filter, hnumbers]

/-- Only the open numbers that a choice lets through matter for what it leaves. -/
theorem filter_numbers_congr {a b : Table} {p : Nat → Bool}
    (same : ∀ n, p n = true → (n ∈ a ↔ n ∈ b)) : a.numbers.filter p = b.numbers.filter p := by
  have htables : (⟨a.numbers.filter p, a.ascending.filter p⟩ : Table) =
      ⟨b.numbers.filter p, b.ascending.filter p⟩ := by
    refine ext_mem fun n => ?_
    rw [← mem_numbers, ← mem_numbers, List.mem_filter, List.mem_filter]
    exact and_congr_left fun hn => same n hn
  exact congrArg numbers htables

theorem nodup_filter_numbers (table : Table) (p : Nat → Bool) : (table.numbers.filter p).Nodup :=
  (table.ascending.filter p).imp Nat.ne_of_lt

/-- Every open number is one that a descriptor can have. -/
def Valid (table : Table) : Prop := ∀ n ∈ table, n ≤ maxNumber

instance (table : Table) : Decidable table.Valid :=
  inferInstanceAs (Decidable (∀ n ∈ table.numbers, n ≤ maxNumber))

end CleanLaunch.Descriptor.Table
