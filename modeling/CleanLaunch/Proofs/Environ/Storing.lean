import CleanLaunch.Environ.EnvArray

/-! What the operations on an environment array leave in its slots.

    Storing writes as many entries as fit before the last slot, then the sentinel, and touches no
    other slot: `EnvArray.slots_store`. Filtering and appending are both stores, so what is
    visible afterwards is a prefix of what was to be visible, cut at the last slot:
    `EnvArray.visible_filter`, `EnvArray.visible_append`. -/

namespace CleanLaunch.EnvArray

/-! ### Storing -/

/-- The entries that fit from a slot on. -/
def fitting (array : EnvArray) (used : Nat) (entries : List Bytes) : List Bytes :=
  entries.take (array.last - used)

theorem last_lt {array : EnvArray} (hslots : array.slots ≠ []) :
    array.last < array.slots.length :=
  Nat.sub_lt (List.length_pos_iff.2 hslots) Nat.zero_lt_one

theorem last_set (array : EnvArray) (index : Nat) (slot : Option Bytes) :
    (array.set index slot).last = array.last := by
  rw [last, last, capacity, capacity, set, List.length_set]

theorem slots_set {array : EnvArray} {index : Nat} (hindex : index < array.slots.length)
    (slot : Option Bytes) :
    (array.set index slot).slots =
      array.slots.take index ++ slot :: array.slots.drop (index + 1) := by
  rw [set, List.set_eq_take_append_cons_drop, if_pos hindex]

/-- Storing writes what fits and the sentinel behind it, and leaves every other slot alone. -/
theorem slots_store : ∀ (entries : List Bytes) (array : EnvArray) (used : Nat),
    array.slots ≠ [] → used ≤ array.last →
    (array.store used entries).1.slots =
      array.slots.take used ++ ((array.fitting used entries).map some ++
        none :: array.slots.drop (used + (array.fitting used entries).length + 1))
  | [], array, used, hslots, hused => by
    rw [store, slots_set (Nat.lt_of_le_of_lt hused (last_lt hslots)), fitting, List.take_nil]
    rfl
  | entry :: rest, array, used, hslots, hused => by
    have hlt := Nat.lt_of_le_of_lt hused (last_lt hslots)
    rw [store]
    by_cases hlast : used = array.last
    · rw [if_pos hlast, slots_set hlt, fitting, hlast, Nat.sub_self, List.take_zero]
      rfl
    have hnext : (array.set used (some entry)).slots ≠ [] := by
      rw [slots_set hlt]
      simp
    -- The entry passes from those that fit to the slots in use; the slots behind it are the same.
    have hfit : array.fitting used (entry :: rest) =
        entry :: (array.set used (some entry)).fitting (used + 1) rest := by
      rw [fitting, fitting, last_set]
      obtain ⟨room, hroom⟩ : ∃ room, array.last - used = room + 1 :=
        ⟨array.last - used - 1, by omega⟩
      rw [hroom, List.take_succ_cons, show array.last - (used + 1) = room by omega]
    have htake : (array.set used (some entry)).slots.take (used + 1) =
        array.slots.take used ++ [some entry] := by
      rw [slots_set hlt, List.take_append, List.take_take, List.length_take]
      rw [Nat.min_eq_right (Nat.le_succ used), Nat.min_eq_left (Nat.le_of_lt hlt),
        Nat.add_sub_cancel_left, List.take_succ_cons, List.take_zero]
    have hdrop (k : Nat) : (array.set used (some entry)).slots.drop (used + 1 + k) =
        array.slots.drop (used + 1 + k) := by
      rw [set, List.drop_set_of_lt (by omega)]
    rw [if_neg hlast, slots_store rest _ (used + 1) hnext (by rw [last_set]; omega), htake, hfit,
      Nat.add_assoc (used + 1), hdrop]
    simp only [List.map_cons, List.length_cons, List.append_assoc, List.cons_append, List.nil_append]
    rw [show used + (((array.set used (some entry)).fitting (used + 1) rest).length + 1) + 1 =
      used + 1 + (((array.set used (some entry)).fitting (used + 1) rest).length + 1) by omega]

theorem length_fitting (array : EnvArray) (used : Nat) (entries : List Bytes) :
    (array.fitting used entries).length = min (array.last - used) entries.length := by
  rw [fitting, List.length_take]

/-- Storing reports the slots in use before it, those it filled and the sentinel. -/
theorem count_store : ∀ (entries : List Bytes) (array : EnvArray) (used : Nat),
    used ≤ array.last →
    (array.store used entries).2 = used + (array.fitting used entries).length + 1
  | [], array, used, _ => by
    rw [store, length_fitting, List.length_nil, Nat.min_zero]
  | entry :: rest, array, used, hused => by
    rw [store, length_fitting, List.length_cons]
    by_cases hlast : used = array.last
    · rw [if_pos hlast, hlast, Nat.sub_self, Nat.zero_min]
    · rw [if_neg hlast, count_store rest _ (used + 1) (by rw [last_set]; omega), length_fitting,
        last_set]
      omega

theorem capacity_store : ∀ (entries : List Bytes) (array : EnvArray) (used : Nat),
    (array.store used entries).1.capacity = array.capacity
  | [], array, used => by rw [store, capacity, set, List.length_set, capacity]
  | entry :: rest, array, used => by
    rw [store]
    split
    · rw [capacity, set, List.length_set, capacity]
    · rw [capacity_store rest, capacity, set, List.length_set, capacity]

theorem slots_ne_nil {array : EnvArray} (hcapacity : 0 < array.capacity) : array.slots ≠ [] :=
  List.length_pos_iff.1 hcapacity

theorem capacity_empty (n : Nat) : (empty n).capacity = n := List.length_replicate

/-! ### What is visible -/

theorem visible_of_slots {array : EnvArray} {entries : List Bytes} {rest : List (Option Bytes)}
    (hslots : array.slots = entries.map some ++ none :: rest) : array.visible = entries := by
  have hall : ∀ slot ∈ entries.map some, slot.isSome = true := by
    intro slot hslot
    obtain ⟨entry, _, rfl⟩ := List.mem_map.1 hslot
    rfl
  rw [visible, hslots, List.takeWhile_append_of_pos hall, List.takeWhile_cons_of_neg (by simp),
    List.append_nil, List.filterMap_map]
  exact List.filterMap_some

theorem takeWhile_isSome : ∀ (slots : List (Option Bytes)),
    slots.takeWhile Option.isSome = (visible ⟨slots⟩).map some
  | [] => rfl
  | none :: _ => rfl
  | some entry :: rest => congrArg (some entry :: ·) (takeWhile_isSome rest)

/-- The first empty slot stands right behind what is visible. -/
theorem findIdx_isNone (array : EnvArray) :
    array.slots.findIdx Option.isNone = array.visible.length ∧
      array.slots.take array.visible.length = array.visible.map some := by
  have hshown := takeWhile_isSome array.slots
  have hidx : array.slots.findIdx Option.isNone = array.visible.length := by
    have hlength := congrArg List.length hshown
    rw [List.length_map] at hlength
    rw [← hlength]
    generalize array.slots = slots
    induction slots with
    | nil => rfl
    | cons slot rest ih => cases slot <;> simp [List.findIdx_cons, ih]
  refine ⟨hidx, ?_⟩
  rw [← hshown, ← hidx, List.takeWhile_eq_take_findIdx_not]
  congr 2
  funext slot
  cases slot <;> rfl

theorem insertionPoint_eq (array : EnvArray) :
    array.insertionPoint = min array.visible.length array.last := by
  rw [insertionPoint, (findIdx_isNone array).1]

theorem take_insertionPoint (array : EnvArray) :
    array.slots.take array.insertionPoint = (array.visible.take array.last).map some := by
  rw [insertionPoint_eq, Nat.min_comm, ← List.take_take, (findIdx_isNone array).2, List.map_take]

/-- A store behind slots in use shows these and what fits behind them. -/
theorem visible_store {array : EnvArray} (hslots : array.slots ≠ []) {used : Nat}
    (hused : used ≤ array.last) {shown : List Bytes}
    (hshown : array.slots.take used = shown.map some) (entries : List Bytes) :
    (array.store used entries).1.visible = shown ++ array.fitting used entries := by
  have hstored := slots_store entries array used hslots hused
  rw [hshown, ← List.append_assoc, ← List.map_append] at hstored
  exact visible_of_slots hstored

/-! ### Filtering and appending -/

theorem filter_eq_ok {array : EnvArray} (hslots : array.slots ≠ []) (input : Option (List Bytes))
    (allow : Allowlist) : array.filter input allow =
      .ok (array.store 0 ((input.getD []).filter allow.passes)) := by
  rw [filter, if_neg (by simpa using hslots)]

theorem append_eq_ok {array : EnvArray} (hslots : array.slots ≠ [])
    (extra : Option (List Bytes)) : array.append extra =
      .ok (array.store array.insertionPoint (extra.getD [])) := by
  rw [append, if_neg (by simpa using hslots)]

theorem visible_filter {array : EnvArray} (hslots : array.slots ≠ []) (entries : List Bytes) :
    (array.store 0 entries).1.visible = entries.take array.last :=
  visible_store hslots (Nat.zero_le _) (show array.slots.take 0 = [].map some from rfl) entries

theorem visible_append {array : EnvArray} (hslots : array.slots ≠ []) (entries : List Bytes) :
    (array.store array.insertionPoint entries).1.visible =
      (array.visible ++ entries).take array.last := by
  have hpoint := insertionPoint_eq array
  rw [visible_store hslots (by omega) (take_insertionPoint array), fitting, List.take_append, hpoint]
  congr 2
  omega

theorem store_slots_ne_nil {array : EnvArray} (hslots : array.slots ≠ []) (entries : List Bytes)
    (used : Nat) : (array.store used entries).1.slots ≠ [] :=
  slots_ne_nil ((capacity_store entries array used).symm ▸ List.length_pos_iff.2 hslots)

theorem last_store (entries : List Bytes) (array : EnvArray) (used : Nat) :
    (array.store used entries).1.last = array.last := by
  rw [last, capacity_store, last]

/-- Cutting some first entries before the whole is cut makes no difference. -/
theorem take_take_append (n : Nat) (first rest : List Bytes) :
    (first.take n ++ rest).take n = (first ++ rest).take n := by
  rw [List.take_append, List.take_append, List.take_take, Nat.min_self, List.length_take]
  congr 2
  omega

/-- What was cut off the first entries leaves no room for others. -/
theorem visible_filter_append {array : EnvArray} (hslots : array.slots ≠ [])
    (first extra : List Bytes) :
    ((array.store 0 first).1.store (array.store 0 first).1.insertionPoint extra).1.visible =
      (first ++ extra).take array.last := by
  rw [visible_append (store_slots_ne_nil hslots first 0), visible_filter hslots, last_store,
    take_take_append]

end CleanLaunch.EnvArray
