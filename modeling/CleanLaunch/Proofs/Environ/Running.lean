import CleanLaunch.Proofs.Environ.Passing
import CleanLaunch.Proofs.Environ.Storing
import Mathlib.Data.List.DropRight

/-! What a run of operations leaves visible in an environment array.

    An array without bounds would show what the last filtering let through and behind it
    everything added since: `EnvArray.base`, `EnvArray.added`. An array with bounds shows as much
    of that as fits before its last slot, whatever stood in its slots and however often it was
    cut: `visible_run`. One operation keeps to this as `take_visible_step` says; the run follows
    by induction on its last operation. A count that an operation reports is that of the slots up
    to the sentinel: `Counted`. -/

namespace CleanLaunch.EnvArray

/-! ### What an array without bounds shows -/

/-- The entries that a filtering lets through; no other operation sets all visible entries. -/
def Step.filtered? : Step → Option (List Bytes)
  | .filter input allow => some ((input.getD []).filter fun entry => Entry.Passing allow entry)
  | .append .. | .appendEntry .. | .set .. => none

/-- The entries that an operation adds behind the visible ones. An entry that cannot be built adds
    nothing. -/
def Step.added : Step → List Bytes
  | .append extra => extra.getD []
  | .appendEntry key value => (Entry.make key value).toOption.toList
  | .filter .. | .set .. => []

/-- What the last filtering lets through; without one, what is visible in the beginning. -/
def base (array : EnvArray) (steps : List Step) : List Bytes :=
  (steps.reverse.findSome? Step.filtered?).getD array.visible

/-- Everything that is added after the last filtering. -/
def added (steps : List Step) : List Bytes :=
  (steps.rtakeWhile fun step => step.filtered?.isNone).flatMap Step.added

/-- The array after a run. -/
def final (array : EnvArray) (steps : List Step) : EnvArray :=
  ((array.run steps).getLast?.map Prod.snd).getD array

/-- A count of slots in use: up to the first empty slot, which there is, and no more than there are
    slots. -/
structure Counted (array : EnvArray) (count : Nat) : Prop where
  sentinel : none ∈ array.slots
  count_eq : count = array.slots.findIdx Option.isNone + 1
  le_capacity : count ≤ array.capacity
  visible : array.visible.length + 1 = count

/-! ### One operation -/

/-- The count that storing reports is that of the slots up to the sentinel. -/
theorem counted_store {array : EnvArray} (hslots : array.slots ≠ []) {used : Nat}
    (hused : used ≤ array.last) {shown : List Bytes}
    (hshown : array.slots.take used = shown.map some) (entries : List Bytes) :
    Counted (array.store used entries).1 (array.store used entries).2 := by
  have hlast := last_lt hslots
  have hlength : shown.length = used := by
    rw [← List.length_map (f := some), ← hshown, List.length_take]
    omega
  have hvisible := congrArg List.length (visible_store hslots hused hshown entries)
  rw [List.length_append, hlength] at hvisible
  have hfit := length_fitting array used entries
  have hcount := count_store entries array used hused
  refine ⟨?_, ?_, ?_, ?_⟩
  · rw [slots_store entries array used hslots hused]
    exact List.mem_append_right _ (List.mem_append_right _ List.mem_cons_self)
  · rw [(findIdx_isNone _).1, hvisible, hcount]
  · rw [hcount, capacity_store, capacity]
    omega
  · rw [hvisible, hcount]

/-- What storing an operation's entries reports and leaves. -/
structure Stored (array : EnvArray) (entries : List Bytes) (count : Nat) (stored : EnvArray) :
    Prop where
  counted : Counted stored count
  capacity : stored.capacity = array.capacity
  visible : stored.visible = entries.take array.last

theorem step_filter {array : EnvArray} (hslots : array.slots ≠ []) (input : Option (List Bytes))
    (allow : Allowlist) :
    ∃ count stored, array.step (.filter input allow) = (.ok (some count), stored) ∧
      Stored array ((input.getD []).filter fun entry => Entry.Passing allow entry) count
        stored := by
  refine ⟨_, _, by rw [step, filter_eq_ok hslots]; rfl,
    counted_store hslots (Nat.zero_le _) (show array.slots.take 0 = [].map some from rfl) _,
    capacity_store _ _ _, ?_⟩
  rw [visible_filter hslots, filter_passes]

theorem step_append {array : EnvArray} (hslots : array.slots ≠ []) (extra : Option (List Bytes)) :
    ∃ count stored, array.step (.append extra) = (.ok (some count), stored) ∧
      Stored array (array.visible ++ extra.getD []) count stored := by
  have hpoint : array.insertionPoint ≤ array.last := Nat.min_le_right _ _
  exact ⟨_, _, by rw [step, append_eq_ok hslots]; rfl,
    counted_store hslots hpoint (take_insertionPoint array) _, capacity_store _ _ _,
    visible_append hslots _⟩

theorem step_appendEntry (array : EnvArray) {key value entry : Bytes}
    (hmake : Entry.make key value = .ok entry) :
    array.step (.appendEntry key value) = array.step (.append (some [entry])) := by
  simp only [step, hmake]

/-- An operation that is no write of one slot either does nothing, since its entry cannot be built,
    or stores what an array without bounds would show after it. -/
theorem step_cases {array : EnvArray} (hslots : array.slots ≠ []) {step : Step}
    (hset : ∀ index slot, step ≠ .set index slot) :
    (∃ error, array.step step = (.error error, array) ∧ step.filtered? = none ∧ step.added = []) ∨
      ∃ count stored, array.step step = (.ok (some count), stored) ∧
        Stored array (step.filtered?.getD array.visible ++ step.added) count stored := by
  cases step with
  | filter input allow =>
    obtain ⟨count, stored, hstep, hstored⟩ := step_filter hslots input allow
    rw [Step.filtered?, Step.added, List.append_nil]
    exact Or.inr ⟨count, stored, hstep, hstored⟩
  | append extra => exact Or.inr (step_append hslots extra)
  | appendEntry key value =>
    cases hmake : Entry.make key value with
    | error error =>
      refine Or.inl ⟨error, by rw [EnvArray.step, hmake], rfl, ?_⟩
      rw [Step.added, hmake]
      rfl
    | ok entry =>
      rw [step_appendEntry array hmake, Step.added, hmake]
      exact Or.inr (step_append hslots (some [entry]))
  | set index slot => exact absurd rfl (hset index slot)

/-! ### Runs -/

theorem final_cons (array : EnvArray) (first : Step) (rest : List Step) :
    array.final (first :: rest) = (array.step first).2.final rest := by
  rw [final, run, List.getLast?_cons, final]
  cases ((array.step first).2.run rest).getLast? <;> rfl

/-- A run goes on where it stands. -/
theorem run_concat : ∀ (steps : List Step) (array : EnvArray) (step : Step),
    array.run (steps ++ [step]) = array.run steps ++ [(array.final steps).step step]
  | [], _, _ => rfl
  | first :: rest, array, step => by
    rw [List.cons_append, run, run_concat rest, final_cons, run, List.cons_append]

theorem final_concat (array : EnvArray) (steps : List Step) (step : Step) :
    array.final (steps ++ [step]) = ((array.final steps).step step).2 := by
  rw [final, run_concat, List.getLast?_concat]
  rfl

/-- One operation more replaces what is to be visible, or adds to it. -/
theorem base_append_added_concat (array : EnvArray) (steps : List Step) (step : Step) :
    array.base (steps ++ [step]) ++ added (steps ++ [step]) =
      step.filtered?.getD (array.base steps ++ added steps) ++ step.added := by
  rw [base, added, List.reverse_append, List.reverse_singleton, List.singleton_append,
    List.findSome?_cons, List.rtakeWhile_concat]
  cases step with
  | filter input allow => rfl
  | _ => simp [Step.filtered?, base, added, List.flatMap_append]

/-- What holds after a run: every count that was reported is right, no slot has come or gone, and
    up to the last slot the array shows what one without bounds would show. Once something was
    stored, it shows no more than that. -/
structure Reached (array : EnvArray) (steps : List Step) : Prop where
  counted : ∀ outcome ∈ array.run steps, outcome.2.capacity = array.capacity ∧
    ∀ count, outcome.1 = .ok (some count) → Counted outcome.2 count
  capacity : (array.final steps).capacity = array.capacity
  visible : (array.final steps).visible.take array.last =
    (array.base steps ++ added steps).take array.last
  length_le : (∃ outcome ∈ array.run steps, ∃ count, outcome.1 = .ok (some count)) →
    (array.final steps).visible.length ≤ array.last

theorem reached_nil (array : EnvArray) : array.Reached [] where
  counted _ houtcome := absurd houtcome List.not_mem_nil
  capacity := rfl
  visible := by
    rw [show array.base [] ++ added [] = array.visible from List.append_nil _]
    rfl
  length_le := fun ⟨_, houtcome, _⟩ => absurd houtcome List.not_mem_nil

theorem mem_run_concat {array : EnvArray} {steps : List Step} {step : Step}
    {outcome : Except LaunchError (Option Nat) × EnvArray} :
    outcome ∈ array.run (steps ++ [step]) ↔
      outcome ∈ array.run steps ∨ outcome = (array.final steps).step step := by
  rw [run_concat, List.mem_append, List.mem_singleton]

/-- An operation that does nothing leaves it so. -/
theorem Reached.of_nothing {array : EnvArray} {steps : List Step} (hreached : array.Reached steps)
    {step : Step} {error : LaunchError}
    (hstep : (array.final steps).step step = (.error error, array.final steps))
    (hfiltered : step.filtered? = none) (hadded : step.added = []) :
    array.Reached (steps ++ [step]) := by
  have hfinal : array.final (steps ++ [step]) = array.final steps := by rw [final_concat, hstep]
  have hshown := base_append_added_concat array steps step
  rw [hfiltered, hadded, Option.getD_none, List.append_nil] at hshown
  refine ⟨fun outcome houtcome => ?_, ?_, ?_, ?_⟩
  · rcases mem_run_concat.1 houtcome with hbefore | rfl
    · exact hreached.counted outcome hbefore
    · rw [hstep]
      exact ⟨hreached.capacity, fun count hok => by cases hok⟩
  · rw [hfinal, hreached.capacity]
  · rw [hfinal, hshown, hreached.visible]
  · rintro ⟨outcome, houtcome, count, hok⟩
    rw [hfinal]
    rcases mem_run_concat.1 houtcome with hbefore | rfl
    · exact hreached.length_le ⟨outcome, hbefore, count, hok⟩
    · rw [hstep] at hok
      cases hok

/-- An operation that stores shows what an array without bounds would show, however much of that was
    cut before. -/
theorem Reached.of_stored {array : EnvArray} {steps : List Step} (hreached : array.Reached steps)
    {step : Step} {count : Nat} {stored : EnvArray}
    (hstep : (array.final steps).step step = (.ok (some count), stored))
    (hstored : Stored (array.final steps)
      (step.filtered?.getD (array.final steps).visible ++ step.added) count stored) :
    array.Reached (steps ++ [step]) := by
  have hfinal : array.final (steps ++ [step]) = stored := by rw [final_concat, hstep]
  have hlast : (array.final steps).last = array.last := by rw [last, hreached.capacity, last]
  have hvisible := hstored.visible
  rw [hlast] at hvisible
  refine ⟨fun outcome houtcome => ?_, ?_, ?_, fun _ => ?_⟩
  · rcases mem_run_concat.1 houtcome with hbefore | rfl
    · exact hreached.counted outcome hbefore
    · rw [hstep]
      refine ⟨hstored.capacity.trans hreached.capacity, fun other hok => ?_⟩
      obtain rfl := Option.some.inj (Except.ok.inj hok)
      exact hstored.counted
  · rw [hfinal, hstored.capacity, hreached.capacity]
  · rw [hfinal, hvisible, base_append_added_concat, List.take_take, Nat.min_self]
    cases hfiltered : step.filtered? with
    | some entries => rfl
    | none =>
      rw [Option.getD_none, Option.getD_none, ← take_take_append, hreached.visible,
        take_take_append]
  · rw [hfinal, hvisible]
    exact List.length_take_le _ _

/-- One operation more keeps to what holds after a run. -/
theorem reached_concat {array : EnvArray} (hcapacity : 0 < array.capacity) {steps : List Step}
    (hreached : array.Reached steps) {step : Step} (hset : ∀ index slot, step ≠ .set index slot) :
    array.Reached (steps ++ [step]) := by
  have hslots : (array.final steps).slots ≠ [] := slots_ne_nil (hreached.capacity.symm ▸ hcapacity)
  rcases step_cases hslots hset with
    ⟨error, hstep, hfiltered, hadded⟩ | ⟨count, stored, hstep, hstored⟩
  · exact hreached.of_nothing hstep hfiltered hadded
  · exact hreached.of_stored hstep hstored

/-- What holds after a run of operations none of which is a write of one slot. -/
theorem reached {array : EnvArray} (hcapacity : 0 < array.capacity) {steps : List Step}
    (hsteps : ∀ index slot, Step.set index slot ∉ steps) : array.Reached steps := by
  induction steps using List.reverseRecOn with
  | nil => exact reached_nil array
  | append_singleton steps step ih =>
    refine reached_concat hcapacity
      (ih fun index slot h => hsteps index slot (List.mem_append_left _ h)) fun index slot h => ?_
    exact hsteps index slot (h ▸ List.mem_concat_self)

/-- After a run that filters, appends and builds entries in any order, and stores at least once, an
    array of any contents shows what the last filtering let through and everything added since, as
    many as fit before its last slot. Each count that was reported on the way is that of the slots
    up to the sentinel, and the number of slots stays the same. -/
theorem visible_run (array : EnvArray) (steps : List Step) (hcapacity : 0 < array.capacity)
    (hsteps : ∀ index slot, Step.set index slot ∉ steps)
    (hstored : ∃ outcome ∈ array.run steps, ∃ count, outcome.1 = .ok (some count)) :
    (array.final steps).visible =
        (array.base steps ++ added steps).take (array.capacity - 1) ∧
      ∀ outcome ∈ array.run steps, outcome.2.capacity = array.capacity ∧
        ∀ count, outcome.1 = .ok (some count) →
          none ∈ outcome.2.slots ∧ count = outcome.2.slots.findIdx Option.isNone + 1 ∧
            count ≤ array.capacity ∧ outcome.2.visible.length + 1 = count := by
  have hreached := reached hcapacity hsteps
  refine ⟨?_, fun outcome houtcome => ?_⟩
  · rw [← List.take_of_length_le (hreached.length_le hstored)]
    exact hreached.visible
  · obtain ⟨hsame, hcounted⟩ := hreached.counted outcome houtcome
    refine ⟨hsame, fun count hok => ?_⟩
    obtain ⟨hsentinel, hcount, hle, hvisible⟩ := hcounted count hok
    exact ⟨hsentinel, hcount, hsame ▸ hle, hvisible⟩

/-- An array without a sentinel, an entry that cannot be built, and more entries than slots. -/
theorem visible_run_unterminated :
    let array : EnvArray := ⟨[some (utf8 "A=1"), some (utf8 "STALE=1"), some (utf8 "STALE=2")]⟩
    let steps : List Step :=
      [.appendEntry (utf8 "B=") (utf8 "2"), .filter (some [utf8 "B=3", utf8 "C=4"]) ⟨[utf8 "C"]⟩,
        .append none, .append (some [utf8 "D=5", utf8 "E=6"]), .appendEntry (utf8 "F") (utf8 "7")]
    (array.final steps).visible = [utf8 "C=4", utf8 "D=5", utf8 "E=6", utf8 "F=7"].take 2 ∧
      ∃ outcome ∈ array.run steps, outcome.1 = .ok (some 3) ∧ none ∈ outcome.2.slots := by
  intro array steps
  have hlast : (array.run steps)[4]? = some (.ok (some 3), ⟨[some (utf8 "C=4"),
    some (utf8 "D=5"), none]⟩) := by decide
  have hmem := List.mem_of_getElem? hlast
  obtain ⟨hvisible, hcounts⟩ := visible_run array steps (by decide) (fun index slot h => by
    simp [steps] at h) ⟨_, hmem, 3, rfl⟩
  exact ⟨hvisible.trans (by decide), _, hmem, rfl, ((hcounts _ hmem).2 3 rfl).1⟩

end CleanLaunch.EnvArray
