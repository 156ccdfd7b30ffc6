import CleanLaunch.Report.Errno

/-! Descriptor tables.

    A table is the set of open descriptor numbers of a process, kept in ascending order, so equal
    sets are equal tables. -/

namespace CleanLaunch.Descriptor

/-- Inserts into an ascending list. -/
def insertAscending (n : Nat) : List Nat → List Nat
  | [] => [n]
  | m :: rest =>
    if n < m then n :: m :: rest
    else if n = m then m :: rest
    else m :: insertAscending n rest

theorem mem_insertAscending {n x : Nat} {l : List Nat} :
    x ∈ insertAscending n l ↔ x = n ∨ x ∈ l := by
  induction l with
  | nil => simp [insertAscending]
  | cons m rest ih =>
    rw [insertAscending]
    split
    · simp
    · split
      · subst_vars; simp
      · simp only [List.mem_cons, ih]
        constructor <;> rintro (h | h | h) <;> simp [h]

theorem pairwise_insertAscending {n : Nat} {l : List Nat} (ascending : l.Pairwise (· < ·)) :
    (insertAscending n l).Pairwise (· < ·) := by
  induction l with
  | nil => simp [insertAscending]
  | cons m rest ih =>
    obtain ⟨below, rest_ascending⟩ := List.pairwise_cons.1 ascending
    rw [insertAscending]
    split
    · next less =>
      refine List.pairwise_cons.2 ⟨fun x hx => ?_, ascending⟩
      rcases List.mem_cons.1 hx with rfl | hx
      · exact less
      · exact Nat.lt_trans less (below x hx)
    · split
      · exact ascending
      · refine List.pairwise_cons.2 ⟨fun x hx => ?_, ih rest_ascending⟩
        rcases mem_insertAscending.1 hx with rfl | hx
        · omega
        · exact below x hx

/-- The open descriptors of a process. -/
structure Table where
  numbers : List Nat
  ascending : numbers.Pairwise (· < ·) := by simp

namespace Table

instance : Membership Nat Table := ⟨fun table n => n ∈ table.numbers⟩

instance (n : Nat) (table : Table) : Decidable (n ∈ table) :=
  inferInstanceAs (Decidable (n ∈ table.numbers))

instance : DecidableEq Table := fun a b =>
  if h : a.numbers = b.numbers then
    .isTrue (by cases a; cases b; cases h; rfl)
  else .isFalse fun same => h (same ▸ rfl)

def empty : Table := ⟨[], by simp⟩

def insert (table : Table) (n : Nat) : Table :=
  ⟨insertAscending n table.numbers, pairwise_insertAscending table.ascending⟩

def erase (table : Table) (n : Nat) : Table :=
  ⟨table.numbers.filter (· != n), table.ascending.filter _⟩

def ofList (numbers : List Nat) : Table := numbers.foldl insert empty

/-- Standard input, output and error. -/
def standard : Table := ofList [0, 1, 2]

/-- The first number from `candidate` on that an ascending list of larger numbers leaves out. -/
def firstGap (candidate : Nat) : List Nat → Nat
  | [] => candidate
  | n :: rest => if n = candidate then firstGap (candidate + 1) rest else candidate

/-- The lowest number that is not open. -/
def lowestFree (table : Table) : Nat := firstGap 0 table.numbers

@[simp] theorem mem_numbers {n : Nat} {table : Table} : n ∈ table.numbers ↔ n ∈ table := Iff.rfl

@[simp] theorem not_mem_empty (n : Nat) : n ∉ empty := List.not_mem_nil

@[simp] theorem mem_insert {n m : Nat} {table : Table} : m ∈ table.insert n ↔ m = n ∨ m ∈ table :=
  mem_insertAscending

@[simp] theorem mem_erase {n m : Nat} {table : Table} : m ∈ table.erase n ↔ m ∈ table ∧ m ≠ n := by
  simp only [← mem_numbers, erase, List.mem_filter, bne_iff_ne]

/-- Tables with the same members are the same table. -/
theorem ext_mem {a b : Table} (same : ∀ n, n ∈ a ↔ n ∈ b) : a = b := by
  have nodup (table : Table) : table.numbers.Nodup := table.ascending.imp Nat.ne_of_lt
  have numbers_eq : a.numbers = b.numbers :=
    List.Perm.eq_of_pairwise (fun _ _ _ _ less greater => absurd less (Nat.lt_asymm greater))
      a.ascending b.ascending ((List.perm_ext_iff_of_nodup (nodup a) (nodup b)).2 same)
  cases a; cases b; cases numbers_eq; rfl

end Table

end CleanLaunch.Descriptor
