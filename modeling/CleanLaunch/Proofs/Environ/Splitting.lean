import CleanLaunch.Proofs.Environ.Running

/-! Storing in pieces.

    Storing entries in two pieces, the second from the slot that holds the sentinel of the first,
    fills every slot as storing them at once does, and reports the same count: `store_append`. The
    slot where the next append goes on is that of the sentinel, `Counted.insertionPoint_eq`. So an
    append can be split anywhere, and a filtering can leave the rest of its input to an append,
    however much of either piece is cut off: `append_split`. -/

namespace CleanLaunch.EnvArray

/-! ### Two stores in a row -/

/-- What a store writes first into its first slot does not last. -/
theorem store_set (array : EnvArray) (used : Nat) (slot : Option Bytes) (entries : List Bytes) :
    (array.set used slot).store used entries = array.store used entries := by
  have hset (next : Option Bytes) : (array.set used slot).set used next = array.set used next := by
    rw [set, set, set, List.set_set]
  cases entries with
  | nil => rw [store, store, hset]
  | cons entry rest => rw [store, store, last_set, hset, hset]

/-- Behind the last slot nothing is stored. -/
theorem store_last (array : EnvArray) (entries : List Bytes) :
    array.store array.last entries = (array.set array.last none, array.last + 1) := by
  cases entries with
  | nil => rfl
  | cons entry rest => rw [store, if_pos rfl]

/-- Storing goes on from the sentinel as if there had been no break. -/
theorem store_append (first second : List Bytes) : ∀ (array : EnvArray) (used : Nat),
    (array.store used first).1.store ((array.store used first).2 - 1) second =
      array.store used (first ++ second) := by
  induction first with
  | nil =>
    intro array used
    rw [store, Nat.add_sub_cancel, List.nil_append]
    exact store_set array used none second
  | cons entry rest ih =>
    intro array used
    rw [List.cons_append, store, store]
    by_cases hlast : used = array.last
    · rw [if_pos hlast, if_pos hlast, Nat.add_sub_cancel, store_set, hlast, store_last]
    · rw [if_neg hlast, if_neg hlast, ih]

/-! ### Where an append goes on -/

/-- The next append begins at the sentinel, which the count of slots in use includes. -/
theorem Counted.insertionPoint_eq {array : EnvArray} {count : Nat}
    (hcounted : Counted array count) : array.insertionPoint = count - 1 := by
  have hcount := hcounted.count_eq
  have hle := hcounted.le_capacity
  rw [insertionPoint, last]
  omega

/-- An append behind a store goes on where the store ended. -/
theorem append_store {array : EnvArray} (hslots : array.slots ≠ []) {used : Nat}
    (hused : used ≤ array.last) {shown : List Bytes}
    (hshown : array.slots.take used = shown.map some) (first second : List Bytes) :
    (array.store used first).1.append (some second) = .ok (array.store used (first ++ second)) := by
  have hpoint := (counted_store hslots hused hshown first).insertionPoint_eq
  rw [append_eq_ok (store_slots_ne_nil hslots first used), hpoint, Option.getD_some, store_append]

/-- Two appends leave every slot as one append of both lists does, and report its count. Filtering a
    list is filtering its first part and appending what passes of the second. That holds of arrays
    with any slots, with a sentinel among them or without, and wherever the capacity cuts. -/
theorem append_split (array : EnvArray) (first second : List Bytes) (allow : Allowlist)
    (hcapacity : 0 < array.capacity) :
    (∃ middle used whole, array.append (some first) = .ok (middle, used) ∧
        middle.append (some second) = .ok whole ∧
        array.append (some (first ++ second)) = .ok whole) ∧
      ∃ middle used whole, array.filter (some first) allow = .ok (middle, used) ∧
        middle.append (some (second.filter fun entry => Entry.Passing allow entry)) = .ok whole ∧
        array.filter (some (first ++ second)) allow = .ok whole := by
  have hslots := slots_ne_nil hcapacity
  constructor
  · have hpoint : array.insertionPoint ≤ array.last := Nat.min_le_right _ _
    exact ⟨_, _, _, append_eq_ok hslots (some first),
      append_store hslots hpoint (take_insertionPoint array) first second,
      append_eq_ok hslots (some (first ++ second))⟩
  · have hnone : array.slots.take 0 = [].map some := rfl
    have hwhole : array.filter (some (first ++ second)) allow = .ok (array.store 0
        (first.filter allow.passes ++ second.filter allow.passes)) := by
      rw [filter_eq_ok hslots, Option.getD_some, List.filter_append]
    refine ⟨_, _, _, filter_eq_ok hslots (some first) allow, ?_, hwhole⟩
    rw [← filter_passes]
    exact append_store hslots (Nat.zero_le _) hnone _ _

/-- Stale slots behind the sentinel, and a capacity that cuts the second part of both. -/
theorem append_split_cut :
    let array : EnvArray :=
      ⟨[some (utf8 "A=1"), none, some (utf8 "STALE=1"), none, some (utf8 "STALE=2")]⟩
    let first := [utf8 "B=2"]
    let second := [utf8 "C", utf8 "C=3", utf8 "D=4", utf8 "C=5", utf8 "C=6", utf8 "C=7"]
    (∃ middle used, array.append (some first) = .ok (middle, used) ∧
        middle.append (some second) = .ok
          (⟨[some (utf8 "A=1"), some (utf8 "B=2"), some (utf8 "C"), some (utf8 "C=3"), none]⟩, 5)) ∧
      ∃ middle used, array.filter (some first) ⟨[utf8 "C"]⟩ = .ok (middle, used) ∧
        middle.append (some (second.filter fun entry => Entry.Passing ⟨[utf8 "C"]⟩ entry)) = .ok
          (⟨[some (utf8 "C=3"), some (utf8 "C=5"), some (utf8 "C=6"), some (utf8 "C=7"), none]⟩,
            5) := by
  intro array first second
  obtain ⟨⟨middle, used, whole, hfirst, hsecond, hwhole⟩, kept, count, all, hkept, hrest, hall⟩ :=
    append_split array first second ⟨[utf8 "C"]⟩ (by decide)
  refine ⟨⟨middle, used, hfirst, ?_⟩, kept, count, hkept, ?_⟩
  · rw [hsecond, ← hwhole]
    decide
  · rw [hrest, ← hall]
    decide

end CleanLaunch.EnvArray
