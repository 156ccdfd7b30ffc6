import CleanLaunch.Environ.Entry

/-! Which inherited entries reach a command.

    An entry passes if it holds a `=` and the bytes before its first one are short and an allowed
    key: `Entry.Passing`. What passes is decided entry by entry, so it is the same for every
    position an entry may have: `passes_eq`. -/

namespace CleanLaunch

/-- The entry holds a `=`, and the bytes before the first one are fewer than 256 and an allowed
    key. -/
def Entry.Passing (allow : Allowlist) (entry : Bytes) : Prop :=
  Entry.equals ∈ entry ∧ (entry.takeWhile (· != Entry.equals)).length < 256 ∧
    entry.takeWhile (· != Entry.equals) ∈ allow.keys

instance (allow : Allowlist) (entry : Bytes) : Decidable (Entry.Passing allow entry) :=
  inferInstanceAs (Decidable (_ ∧ _ ∧ _))

theorem passes_eq (allow : Allowlist) (entry : Bytes) :
    allow.passes entry = decide (Entry.Passing allow entry) := by
  rw [Allowlist.passes, Entry.key?, Bool.eq_iff_iff, decide_eq_true_eq]
  by_cases hequals : Entry.equals ∈ entry
  · rw [if_pos (List.contains_iff_mem.2 hequals)]
    simp only [Bool.and_eq_true, decide_eq_true_eq, Allowlist.contains, List.contains_iff_mem]
    exact (and_iff_right hequals).symm
  · rw [if_neg (mt List.contains_iff_mem.1 hequals)]
    exact ⟨fun h => (by cases h), fun h => absurd h.1 hequals⟩

/-- Filtering by what passes. -/
theorem filter_passes (allow : Allowlist) (entries : List Bytes) :
    entries.filter allow.passes = entries.filter fun entry => Entry.Passing allow entry :=
  congrArg (List.filter · entries) (funext (passes_eq allow))

end CleanLaunch
