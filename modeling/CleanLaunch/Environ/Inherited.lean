import CleanLaunch.Environ.Entry

/-! The environment table that a process starts with.

    In memory a table is a row of slots, one for each entry and a null one behind them; a process
    without a table has a null pointer in its place. The entries are found by walking along the
    slots: `EnvPointer.next?` is one step, and `EnvPointer.walk` takes steps until there is none.
    What it finds is the entries that were stored, whatever stands in memory behind the null slot:
    `EnvPointer.walk_terminated`, `EnvTable.entries_eq`. -/

namespace CleanLaunch

/-- The environment table of a process: absent, or its entries exactly as stored. -/
abbrev EnvTable := Option (List Bytes)

/-- A pointer into a table: null, or at a slot, with the slots from that one on. A slot is null or
    leads to an entry. -/
abbrev EnvPointer := Option (List (Option Bytes))

namespace EnvPointer

/-- One step of a walk: the entry in the slot that the pointer is at, and the pointer advanced by one
    slot. A null pointer has no step, and neither has a pointer at a null slot. -/
def next? : EnvPointer → Option (Bytes × EnvPointer)
  | some (some entry :: behind) => some (entry, some behind)
  | some (none :: _) | some [] | none => none

/-- The entries of up to `limit` steps. -/
def walk : (limit : Nat) → EnvPointer → List Bytes
  | 0, _ => []
  | limit + 1, pointer =>
    match next? pointer with
    | some (entry, advanced) => entry :: walk limit advanced
    | none => []

theorem walk_null : ∀ limit : Nat, walk limit none = []
  | 0 | _ + 1 => rfl

/-- A walk finds what was stored before the first null slot, and nothing of what stands behind. -/
theorem walk_terminated : ∀ (stored : List Bytes) (behind : List (Option Bytes)) {limit : Nat},
    stored.length < limit → walk limit (some (stored.map some ++ none :: behind)) = stored
  | [], _, _ + 1, _ => rfl
  | entry :: rest, behind, _ + 1, hlimit =>
    congrArg (entry :: ·) (walk_terminated rest behind (Nat.lt_of_succ_lt_succ hlimit))

end EnvPointer

namespace EnvTable

/-- Where a table begins in memory: at the first slot of its entries, with a null slot behind the
    last one. -/
def start (table : EnvTable) : EnvPointer := table.map fun stored => stored.map some ++ [none]

/-- The entries that a walk from the beginning of a table finds. It takes a step for each slot at
    most, so the limit is never what ends it. -/
def entries (table : EnvTable) : List Bytes :=
  EnvPointer.walk (((start table).getD []).length + 1) (start table)

/-- The walk finds the entries as they were stored, and none where there is no table. -/
theorem entries_eq (table : EnvTable) : entries table = table.getD [] := by
  cases table with
  | none => exact EnvPointer.walk_null _
  | some stored =>
    refine EnvPointer.walk_terminated stored [] ?_
    rw [start, Option.map_some, Option.getD_some, List.length_append, List.length_map]
    exact Nat.lt_succ_of_lt (Nat.lt_succ_self _)

/-- Value of the first entry with a key, as a process looks it up. -/
def lookup (table : EnvTable) (key : Bytes) : Option Bytes :=
  (entries table).findSome? fun entry =>
    if Entry.key? entry = some key then Entry.value? entry else none

end EnvTable

end CleanLaunch
