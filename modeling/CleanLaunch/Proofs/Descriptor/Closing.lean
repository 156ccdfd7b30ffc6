import CleanLaunch.Descriptor.Pruning
import Mathlib.Data.List.Basic

/-! What a sequence of close calls does.

    A descriptor is open after the calls exactly if it was open before and none of the calls closed
    it: `Kernel.mem_closeAll`. How a call ends depends on the table before all calls and on the
    numbers called for before it, as `Kernel.answer` says: `Kernel.attempts_closeAll_eq`. When the
    numbers are open and different from each other, each call fails exactly as the kernel says for
    its number: `Kernel.attempts_closeAll`. Closing by range is such a sequence, for the numbers
    between threshold and end: `mem_closeRange`. -/

namespace CleanLaunch.Descriptor

namespace Kernel

variable (kernel : Kernel)

/-! ### One call -/

theorem mem_close (table : Table) (n m : Nat) :
    m ∈ (kernel.close table n).2 ↔ m ∈ table ∧ (m = n → kernel.closeFailure n ≠ none) := by
  rw [close]
  cases hfail : kernel.closeFailure n with
  | some errno => simp
  | none =>
    by_cases hn : n ∈ table
    · simp [hn]
    · rw [if_neg hn]
      exact ⟨fun hm => ⟨hm, fun h => absurd (h ▸ hm) hn⟩, fun h => h.1⟩

/-! ### Calls one after another -/

theorem closeAll_cons (table : Table) (n : Nat) (rest : List Nat) :
    kernel.closeAll table (n :: rest) =
      ((kernel.closeAll (kernel.close table n).2 rest).1,
        ⟨n, (kernel.close table n).1⟩ :: (kernel.closeAll (kernel.close table n).2 rest).2) := rfl

theorem closeAll_append : ∀ (first : List Nat) (table : Table) (rest : List Nat),
    kernel.closeAll table (first ++ rest) =
      ((kernel.closeAll (kernel.closeAll table first).1 rest).1,
        (kernel.closeAll table first).2 ++ (kernel.closeAll (kernel.closeAll table first).1 rest).2)
  | [], table, rest => rfl
  | n :: first, table, rest => by
    rw [List.cons_append, closeAll_cons, closeAll_append first, closeAll_cons, List.cons_append]

theorem mem_closeAll : ∀ (numbers : List Nat) (table : Table) (m : Nat),
    m ∈ (kernel.closeAll table numbers).1 ↔
      m ∈ table ∧ (m ∈ numbers → kernel.closeFailure m ≠ none)
  | [], table, m => by simp [closeAll]
  | n :: rest, table, m => by
    rw [closeAll_cons, mem_closeAll rest, mem_close, List.mem_cons, and_assoc]
    refine and_congr_right fun _ => ⟨?_, fun h => ⟨fun heq => heq ▸ h (Or.inl heq), fun hm =>
      h (Or.inr hm)⟩⟩
    rintro ⟨hhead, hrest⟩ (rfl | hm)
    · exact hhead rfl
    · exact hrest hm

theorem close_sublist (table : Table) (n : Nat) :
    (kernel.close table n).2.numbers.Sublist table.numbers := by
  rw [close]
  split
  · exact List.Sublist.refl _
  · split
    · exact List.filter_sublist
    · exact List.Sublist.refl _

theorem closeAll_sublist : ∀ (numbers : List Nat) (table : Table),
    (kernel.closeAll table numbers).1.numbers.Sublist table.numbers
  | [], _ => List.Sublist.refl _
  | n :: rest, table =>
    (closeAll_sublist rest (kernel.close table n).2).trans (kernel.close_sublist table n)

/-- There is one call for each number, in order. -/
theorem numbers_closeAll : ∀ (numbers : List Nat) (table : Table),
    (kernel.closeAll table numbers).2.map Attempt.number = numbers
  | [], _ => rfl
  | n :: rest, table => by rw [closeAll_cons, List.map_cons, numbers_closeAll rest]

/-! ### How the calls end -/

/-- How the call for a number ends behind calls for some others: as the kernel says if it says
    anything, and otherwise well only for a descriptor that was open and not called for yet. -/
def answer (table : Table) (earlier : List Nat) (n : Nat) : Option Errno :=
  (kernel.closeFailure n).or (if n ∈ table ∧ n ∉ earlier then none else some .EBADF)

/-- The calls for some numbers, one after another, that fail. -/
def failed (table : Table) (numbers : List Nat) : List (Nat × Errno) :=
  numbers.zipIdx.filterMap fun (n, i) => (kernel.answer table (numbers.take i) n).map (n, ·)

theorem close_eq_answer (table : Table) (n : Nat) :
    (kernel.close table n).1 = kernel.answer table [] n := by
  rw [close, answer]
  cases kernel.closeFailure n with
  | some errno => rfl
  | none =>
    by_cases hn : n ∈ table
    · rw [if_pos hn, if_pos ⟨hn, List.not_mem_nil⟩]
      rfl
    · rw [if_neg hn, if_neg fun h => hn h.1]
      rfl

/-- A call that was made counts among the earlier ones. -/
theorem answer_close (table : Table) (n : Nat) (earlier : List Nat) (m : Nat) :
    kernel.answer (kernel.close table n).2 earlier m = kernel.answer table (n :: earlier) m := by
  rw [answer, answer]
  cases hfail : kernel.closeFailure m with
  | some errno => rfl
  | none =>
    have hopen : m ∈ (kernel.close table n).2 ↔ m ∈ table ∧ m ≠ n := by
      rw [mem_close]
      refine and_congr_right fun _ => ⟨fun h heq => h heq (heq ▸ hfail), fun h heq => ?_⟩
      exact absurd heq h
    simp only [hopen, List.mem_cons, not_or, and_assoc]

/-- What is opened under another number makes no difference. -/
theorem answer_insert (table : Table) (earlier : List Nat) {n own : Nat} (hn : n ≠ own) :
    kernel.answer (table.insert own) earlier n = kernel.answer table earlier n := by
  simp only [answer, Table.mem_insert, or_iff_right hn]

/-- Each call ends by the table before all calls and the numbers called for before it. -/
theorem attempts_closeAll_eq (numbers : List Nat) : ∀ table : Table,
    (kernel.closeAll table numbers).2 =
      numbers.mapIdx fun i n => ⟨n, kernel.answer table (numbers.take i) n⟩ := by
  induction numbers with
  | nil => intro table; rfl
  | cons n rest ih =>
    intro table
    rw [closeAll_cons, List.mapIdx_cons, close_eq_answer, ih]
    simp only [answer_close, List.take_zero, List.take_succ_cons]

/-- The calls for numbers that are open and different from each other fail as the kernel says. -/
theorem attempts_closeAll (numbers : List Nat) (table : Table) (hnodup : numbers.Nodup)
    (hopen : ∀ n ∈ numbers, n ∈ table) :
    (kernel.closeAll table numbers).2 = numbers.map fun n => ⟨n, kernel.closeFailure n⟩ := by
  have hanswer (i : Nat) (hi : i < numbers.length) :
      kernel.answer table (numbers.take i) numbers[i] = kernel.closeFailure numbers[i] := by
    have hfirst : numbers[i] ∉ numbers.take i := fun hmem =>
      List.disjoint_take_drop hnodup (Nat.le_refl i) hmem
        (List.drop_eq_getElem_cons hi ▸ List.mem_cons_self)
    rw [answer, if_pos ⟨hopen _ (List.getElem_mem hi), hfirst⟩, Option.or_none]
  rw [attempts_closeAll_eq]
  refine List.ext_getElem (by simp) fun i hi _ => ?_
  rw [List.getElem_mapIdx, hanswer, List.getElem_map]

end Kernel

/-! ### Calls by range -/

/-- A C integer holds itself. -/
theorem wrapped_of_fits {n : Int} (hlow : -2147483648 ≤ n) (hhigh : n ≤ 2147483647) :
    wrapped n = n :=
  Int.bmod_eq_of_le (by omega) (by omega)

theorem mem_numbersAbove {keep : Int} (hlow : -2147483648 ≤ keep) (hhigh : keep < 2147483647)
    {limit n : Nat} : n ∈ numbersAbove keep limit ↔ keep < (n : Int) ∧ n < limit := by
  rw [numbersAbove, wrapped_of_fits (by omega) (by omega), List.mem_range'_1]
  omega

/-- Closing by range closes what can be closed between the threshold and the end of the range. -/
theorem mem_closeRange (kernel : Kernel) {keep : Int} (hlow : -2147483648 ≤ keep)
    (hhigh : keep < 2147483647) (table : Table) (n : Nat) :
    n ∈ closeRange kernel keep table ↔
      n ∈ table ∧ (keep < (n : Int) ∧ n < kernel.rangeEnd → kernel.closeFailure n ≠ none) := by
  rw [closeRange, kernel.mem_closeAll, mem_numbersAbove hlow hhigh]

end CleanLaunch.Descriptor
