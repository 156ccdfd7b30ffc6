import CleanLaunch.Proofs.Environ.Running

/-! Which slots an operation on an environment array touches.

    A store fills the slots from where it begins up to its count, the last of them with the
    sentinel, and leaves those in front and the stale ones behind as they are: `Framed`,
    `framed_store`. A filtering begins at the first slot, an append at the first empty one or, where
    none is empty, at the last: `appendsAt_insertionPoint`. An append of nothing does nothing to an
    array with a sentinel, and an operation that fails does nothing to any array: `step_frame`. -/

namespace CleanLaunch.EnvArray

/-! ### Slots of a store -/

/-- The array `left` is `array` with some of the entries, from the first on, in the slots from
    `point` on, the sentinel behind them as the last of `count` slots, and nothing else changed.
    Entries are left out only where the slots before the last one are filled. -/
structure Framed (array : EnvArray) (point : Nat) (entries : List Bytes) (count : Nat)
    (left : EnvArray) : Prop where
  before : ∀ i < point, left.slots[i]? = array.slots[i]?
  written : ∀ i, point + i + 1 < count →
    ∃ entry, entries[i]? = some entry ∧ left.slots[point + i]? = some (some entry)
  sentinel : left.slots[count - 1]? = some none
  behind : ∀ i, count ≤ i → left.slots[i]? = array.slots[i]?
  count_eq : count = point + min (array.capacity - 1 - point) entries.length + 1

section
variable {array : EnvArray} {point : Nat}

theorem length_take_point (hslots : array.slots ≠ []) (hpoint : point ≤ array.last) :
    (array.slots.take point).length = point := by
  have hlast := last_lt hslots
  rw [List.length_take]
  omega

theorem getElem?_store_before (hslots : array.slots ≠ []) (hpoint : point ≤ array.last)
    (entries : List Bytes) {i : Nat} (hi : i < point) :
    (array.store point entries).1.slots[i]? = array.slots[i]? := by
  rw [slots_store entries array point hslots hpoint,
    List.getElem?_append_left (by rwa [length_take_point hslots hpoint]),
    List.getElem?_take_of_lt hi]

/-- What stands behind the slots that were in use. -/
theorem getElem?_store_add (hslots : array.slots ≠ []) (hpoint : point ≤ array.last)
    (entries : List Bytes) (i : Nat) : (array.store point entries).1.slots[point + i]? =
      ((array.fitting point entries).map some ++ none :: array.slots.drop
        (point + (array.fitting point entries).length + 1))[i]? := by
  have hfront := length_take_point hslots hpoint
  rw [slots_store entries array point hslots hpoint, List.getElem?_append_right (by omega), hfront,
    Nat.add_sub_cancel_left]

theorem framed_store (hslots : array.slots ≠ []) (hpoint : point ≤ array.last)
    (entries : List Bytes) :
    Framed array point entries (array.store point entries).2 (array.store point entries).1 := by
  have hcount := count_store entries array point hpoint
  have hbehind := getElem?_store_add hslots hpoint entries
  refine ⟨fun i hi => getElem?_store_before hslots hpoint entries hi, fun i hi => ?_, ?_,
    fun i hi => ?_, ?_⟩
  · have hfit : i < (array.fitting point entries).length := by omega
    have hroom : i < array.last - point := by
      rw [length_fitting] at hfit
      omega
    refine ⟨(array.fitting point entries)[i], ?_, ?_⟩
    · rw [← List.getElem?_eq_getElem hfit, fitting, List.getElem?_take_of_lt hroom]
    · rw [hbehind, List.getElem?_append_left (by rwa [List.length_map]), List.getElem?_map,
        List.getElem?_eq_getElem hfit, Option.map_some]
  · rw [hcount, Nat.add_sub_cancel, hbehind,
      List.getElem?_append_right (by rw [List.length_map]), List.length_map, Nat.sub_self,
      List.getElem?_cons_zero]
  · obtain ⟨k, rfl⟩ : ∃ k, i = point + ((array.fitting point entries).length + (k + 1)) :=
      ⟨i - (array.store point entries).2, by omega⟩
    rw [hbehind, List.getElem?_append_right (by rw [List.length_map]; omega), List.length_map,
      Nat.add_sub_cancel_left, List.getElem?_cons_succ, List.getElem?_drop]
    congr 1
    omega
  · rw [hcount, length_fitting, last]

end

/-! ### Where an append begins -/

/-- The slot is the first empty one, or the last slot of an array without an empty one. -/
def AppendsAt (array : EnvArray) (point : Nat) : Prop :=
  (array.slots[point]? = some none ∧ ∀ i < point, array.slots[i]? ≠ some none) ∨
    (none ∉ array.slots ∧ point + 1 = array.capacity)

theorem findIdx_lt_iff (array : EnvArray) :
    array.slots.findIdx Option.isNone < array.slots.length ↔ none ∈ array.slots := by
  rw [List.findIdx_lt_length]
  exact ⟨fun ⟨slot, hslot, hnone⟩ => Option.isNone_iff_eq_none.1 hnone ▸ hslot,
    fun hnone => ⟨none, hnone, rfl⟩⟩

theorem getElem?_findIdx {array : EnvArray} (hnone : none ∈ array.slots) :
    array.slots[array.slots.findIdx Option.isNone]? = some none := by
  have hlt := (findIdx_lt_iff array).2 hnone
  rw [List.getElem?_eq_getElem hlt, Option.isNone_iff_eq_none.1 (List.findIdx_getElem (w := hlt))]

/-- To an array with a sentinel an append begins there, to any other at the last slot. -/
theorem insertionPoint_of_mem {array : EnvArray} (hnone : none ∈ array.slots) :
    array.insertionPoint = array.slots.findIdx Option.isNone := by
  have hlt := (findIdx_lt_iff array).2 hnone
  rw [insertionPoint, last, capacity]
  omega

theorem insertionPoint_of_not_mem {array : EnvArray} (hnone : none ∉ array.slots) :
    array.insertionPoint = array.last := by
  have hlt := mt (findIdx_lt_iff array).1 hnone
  rw [insertionPoint, last, capacity]
  omega

theorem appendsAt_insertionPoint {array : EnvArray} (hcapacity : 0 < array.capacity) :
    array.AppendsAt array.insertionPoint := by
  by_cases hnone : none ∈ array.slots
  · rw [insertionPoint_of_mem hnone]
    refine Or.inl ⟨getElem?_findIdx hnone, fun i hi hempty => ?_⟩
    obtain ⟨hlength, hslot⟩ := List.getElem?_eq_some_iff.1 hempty
    have hnot := List.not_of_lt_findIdx hi
    rw [hslot] at hnot
    cases hnot
  · rw [insertionPoint_of_not_mem hnone, AppendsAt, last]
    exact Or.inr ⟨hnone, by omega⟩

/-! ### Operations -/

/-- Storing nothing where an array has its sentinel already changes nothing. -/
theorem set_findIdx (array : EnvArray) (hnone : none ∈ array.slots) :
    array.set (array.slots.findIdx Option.isNone) none = array := by
  obtain ⟨hlt, hslot⟩ := List.getElem?_eq_some_iff.1 (getElem?_findIdx hnone)
  rw [set]
  congr 1
  conv_lhs => rw [← hslot]
  exact List.set_getElem_self hlt

theorem step_append_nothing {array : EnvArray} (hslots : array.slots ≠ [])
    {extra : Option (List Bytes)} (hextra : extra.getD [] = []) :
    array.step (.append extra) = (.ok (some (array.insertionPoint + 1)),
      if none ∈ array.slots then array else array.set array.last none) := by
  rw [step, append_eq_ok hslots, hextra, store, step.outcome]
  split
  · next hnone => rw [insertionPoint_of_mem hnone, set_findIdx array hnone]
  · next hnone => rw [insertionPoint_of_not_mem hnone]

theorem step_of_no_slots {array : EnvArray} (hcapacity : array.capacity = 0)
    (input extra : Option (List Bytes)) (allow : Allowlist) :
    array.step (.filter input allow) = (.error .noCapacity, array) ∧
      array.step (.append extra) = (.error .noCapacity, array) := by
  have hempty : array.slots.isEmpty = true := List.isEmpty_iff_length_eq_zero.2 hcapacity
  constructor
  · rw [step, filter, if_pos hempty, step.outcome]
  · rw [step, append, if_pos hempty, step.outcome]

theorem step_of_failure (array : EnvArray) (step : Step) {error : LaunchError}
    (hfailure : (array.step step).1 = .error error) : (array.step step).2 = array := by
  have houtcome : ∀ result : Except LaunchError (EnvArray × Nat),
      (EnvArray.step.outcome array result).1 = .error error →
        (EnvArray.step.outcome array result).2 = array
    | .error _, _ => rfl
    | .ok _, h => by cases h
  cases step with
  | filter input allow => exact houtcome _ hfailure
  | append extra => exact houtcome _ hfailure
  | appendEntry key value =>
    cases hmake : Entry.make key value with
    | error cause => rw [EnvArray.step, hmake]
    | ok entry =>
      rw [step_appendEntry array hmake] at hfailure ⊢
      exact houtcome _ hfailure
  | set index slot => cases hfailure

/-- A filtering fills slots from the first one on, with what passes of its input; an append fills
    slots from the first empty one or the last on, with its entries. Both put their sentinel behind
    that and leave every other slot as it was. An append of nothing gives an array without a
    sentinel one in its last slot and leaves every other array alone. Filtering and appending fail
    only without any slot, and an operation that fails changes nothing. -/
theorem step_frame (array : EnvArray) (input extra : Option (List Bytes)) (allow : Allowlist) :
    (0 < array.capacity →
      (∃ count left, array.step (.filter input allow) = (.ok (some count), left) ∧
        Framed array 0 ((input.getD []).filter fun entry => Entry.Passing allow entry) count
          left) ∧
      (∃ point count left, array.step (.append extra) = (.ok (some count), left) ∧
        array.AppendsAt point ∧ Framed array point (extra.getD []) count left) ∧
      ∀ nothing, nothing = none ∨ nothing = some [] →
        ∃ count, array.step (.append nothing) = (.ok (some count),
          if none ∈ array.slots then array else array.set (array.capacity - 1) none)) ∧
    (array.capacity = 0 → array.step (.filter input allow) = (.error .noCapacity, array) ∧
      array.step (.append extra) = (.error .noCapacity, array)) ∧
    (∀ key value error, Entry.make key value = .error error →
      array.step (.appendEntry key value) = (.error error, array)) ∧
    ∀ step error, (array.step step).1 = .error error → (array.step step).2 = array := by
  refine ⟨fun hcapacity => ⟨?_, ?_, ?_⟩,
    fun hcapacity => step_of_no_slots hcapacity input extra allow,
    fun key value error hmake => by rw [step, hmake],
    fun step error hfailure => step_of_failure array step hfailure⟩
  · refine ⟨_, _, by rw [step, filter_eq_ok (slots_ne_nil hcapacity)]; rfl, ?_⟩
    rw [← filter_passes]
    exact framed_store (slots_ne_nil hcapacity) (Nat.zero_le _) _
  · exact ⟨_, _, _, by rw [step, append_eq_ok (slots_ne_nil hcapacity)]; rfl,
      appendsAt_insertionPoint hcapacity,
      framed_store (slots_ne_nil hcapacity) (Nat.min_le_right _ _) _⟩
  · intro nothing hnothing
    have hextra : nothing.getD [] = [] := by rcases hnothing with rfl | rfl <;> rfl
    exact ⟨_, step_append_nothing (slots_ne_nil hcapacity) hextra⟩

/-- Stale slots behind the sentinel and behind the entry that is appended, an array without any
    slot, and an entry that cannot be built. -/
theorem step_frame_stale :
    let array : EnvArray :=
      ⟨[some (utf8 "A=1"), none, some (utf8 "STALE=1"), none, some (utf8 "STALE=2")]⟩
    let input := some [utf8 "C", utf8 "B=2", utf8 "D=4"]
    let extra := some [utf8 "E=5"]
    (∃ left, array.step (.filter input ⟨[utf8 "B"]⟩) = (.ok (some 2), left) ∧
        left.slots[1]? = some none ∧ left.slots[2]? = some (some (utf8 "STALE=1"))) ∧
      (∃ left, array.step (.append extra) = (.ok (some 3), left) ∧
        left.slots[0]? = some (some (utf8 "A=1")) ∧
        left.slots[4]? = some (some (utf8 "STALE=2"))) ∧
      (∃ count, array.step (.append none) = (.ok (some count), array)) ∧
      (⟨[]⟩ : EnvArray).step (.append extra) = (.error .noCapacity, ⟨[]⟩) ∧
      (array.step (.appendEntry (utf8 "F=") (utf8 "6"))).2 = array := by
  intro array input extra
  obtain ⟨hstores, _, hunbuilt, hfailed⟩ := step_frame array input extra ⟨[utf8 "B"]⟩
  obtain ⟨⟨count, left, hfilter, hkept⟩, ⟨point, used, longer, happend, _, hadded⟩, hnothing⟩ :=
    hstores (by decide)
  obtain ⟨_, hempty, _⟩ := step_frame ⟨[]⟩ input extra ⟨[utf8 "B"]⟩
  have hcount : count = 2 := hkept.count_eq.trans (by decide)
  have hused : used = 3 := by
    have hreport : (array.step (.append extra)).1 = .ok (some 3) := by decide
    rw [happend] at hreport
    exact Option.some.inj (Except.ok.inj hreport)
  have hpoint := hadded.count_eq
  rw [show array.capacity = 5 from rfl, show (extra.getD []).length = 1 from rfl] at hpoint
  subst hcount hused
  refine ⟨⟨left, hfilter, hkept.sentinel, hkept.behind 2 (Nat.le_refl 2)⟩,
    ⟨longer, happend, hadded.before 0 (by omega), hadded.behind 4 (by omega)⟩,
    hnothing none (Or.inl rfl), (hempty rfl).2, hfailed _ .equalsInKey ?_⟩
  rw [hunbuilt _ _ .equalsInKey (by decide)]

end CleanLaunch.EnvArray
