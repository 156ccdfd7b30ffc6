import CleanLaunch.Proofs.Launch.Child

/-! What a launched command inherits: descriptors and environment.

    A descriptor above standard error reaches the command only past a listing that does not open or
    fails before it has reported that descriptor, and only if its number is at or above the end of the
    range: `exec_descriptors`. That does happen: `descriptor_beyond_range_reaches_command`. The
    environment is the passing entries of the launcher, then the extra ones, cut at the capacity of the
    array: `exec_environment`. -/

namespace CleanLaunch

open Descriptor (Table)

/-! ### Descriptors -/

/-- What is open when the shell is called, if no close of an open descriptor fails: of the launcher's
    descriptors those up to standard error, and those at or above the reported limit, or 1024 where
    none is reported, that are unlisted, so that no read that was heard names them. Nothing above
    standard error is open exactly if the launcher has no such descriptor, in particular if the
    listing says all of its descriptors, or if all of them lie below the limit. -/
theorem exec_descriptors (launcher : Launcher) (kernel : LaunchKernel) (request : Request) {pid : Nat}
    (hshell : (0 : UInt8) ∉ request.shell) (hcommand : (0 : UInt8) ∉ request.command)
    (hfork : kernel.fork = .ok pid) (hvalid : launcher.table.Valid)
    (hlive : kernel.listing.scripted = none)
    (hclose : kernel.toKernel.ClosesAll launcher.table) :
    let table := launcher.table
    let limit := match kernel.reportedLimit with
      | some reported => ((reported : Int).bmod 4294967296).toNat
      | none => 1024
    ∃ run, (launcher.spawn kernel request).fork = .created pid run ∧
      (∀ n, n ∈ run.call.descriptors ↔
        n ∈ table ∧ (n ≤ 2 ∨ limit ≤ n ∧ kernel.Unlisted table n)) ∧
      (∀ n ∈ table, 2 < n → (kernel.Unlisted table n ↔
        ∀ read ∈ (kernel.transcript 2 table).reads, n ∉ Descriptor.Read.numbers read)) ∧
      ((∀ n ∈ run.call.descriptors, n ≤ 2) ↔
        ¬∃ n ∈ table, 2 < n ∧ limit ≤ n ∧ kernel.Unlisted table n) ∧
      (kernel.ListsAll table → ∀ n ∈ run.call.descriptors, n ≤ 2) ∧
      ((∀ n ∈ table, n < limit) → ∀ n ∈ run.call.descriptors, n ≤ 2) := by
  intro table limit
  have hlimit : limit = kernel.rangeEnd := rfl
  let run := Child.run kernel.toKernel kernel.execFailure table launcher.environ request
  have hmem (n : Nat) : n ∈ run.call.descriptors ↔
      n ∈ table ∧ (n ≤ 2 ∨ limit ≤ n ∧ kernel.Unlisted table n) := by
    rw [Child.run_call, hlimit]
    exact Child.mem_cleanup hlive hvalid hclose n
  have hnone : (∀ n ∈ run.call.descriptors, n ≤ 2) ↔
      ¬∃ n ∈ table, 2 < n ∧ limit ≤ n ∧ kernel.Unlisted table n := by
    constructor
    · rintro hall ⟨n, hn, habove, hend⟩
      exact Nat.not_lt.2 (hall n ((hmem n).2 ⟨hn, Or.inr hend⟩)) habove
    · intro hnot n hn
      obtain ⟨hopen, hle | hend⟩ := (hmem n).1 hn
      · exact hle
      · exact Nat.le_of_not_lt fun habove => hnot ⟨n, hopen, habove, hend⟩
  refine ⟨run, fork_spawn hshell hcommand hfork, hmem, fun n hn habove =>
    Descriptor.unlisted_iff hlive hvalid hn (Int.ofNat_lt.2 habove), hnone, fun hlists => hnone.2 ?_,
    fun hbelow => hnone.2 ?_⟩
  · rintro ⟨n, hn, _, _, hunlisted⟩
    exact Descriptor.not_unlisted_of_listsAll hlists hn hunlisted
  · rintro ⟨n, hn, _, hend, _⟩
    exact Nat.not_lt.2 hend (hbelow n hn)

/-- The listing breaks off behind the entry for a descriptor above a lowered limit, so the one for
    the next is not reported. -/
theorem exec_descriptors_listing_breaks_off :
    let launcher : Launcher := ⟨some [], Table.ofList [0, 1, 2, 5, 20, 30]⟩
    let kernel : LaunchKernel :=
      { limit := 10, listing := { failure := some (8, .EIO), cut := fun _ => 1 }
        fork := .ok 3, execFailure := fun _ => none }
    let request : Request := { command := utf8 "true" }
    ∃ run, (launcher.spawn kernel request).fork = .created 3 run ∧
      5 ∉ run.call.descriptors ∧ 20 ∉ run.call.descriptors ∧ 30 ∈ run.call.descriptors := by
  intro launcher kernel request
  obtain ⟨run, hcreated, hmem, _⟩ :=
    exec_descriptors launcher kernel request (by decide) (by decide) rfl (by decide) rfl
      fun _ _ => rfl
  have hopen : kernel.openListing launcher.table = .ok 3 := by decide
  have hunlisted := Descriptor.unlisted_of_failure hopen (rfl : _ = some (8, Errno.EIO))
  simp only [hunlisted] at hmem
  refine ⟨run, hcreated, ?_, ?_, ?_⟩
  · rw [hmem]
    decide
  · rw [hmem]
    decide
  · rw [hmem]
    decide

/-- Without a listing, a descriptor above a lowered limit reaches the command. -/
theorem descriptor_beyond_range_reaches_command :
    let launcher : Launcher := ⟨some [], Table.ofList [0, 1, 2, 3, 4, 5, 6, 7, 8, 9, 15]⟩
    let kernel : LaunchKernel :=
      { limit := 10, openFailure := some .EACCES, fork := .ok 3, execFailure := fun _ => none }
    let request : Request := { command := utf8 "true" }
    (0 : UInt8) ∉ request.shell ∧ (0 : UInt8) ∉ request.command ∧ launcher.table.Valid ∧
      (∀ n ≤ 2, n ∈ launcher.table) ∧ kernel.listing.scripted = none ∧
      kernel.toKernel.ClosesAll launcher.table ∧
      ∃ run, (launcher.spawn kernel request).fork = .created 3 run ∧
        ∃ n ∈ run.call.descriptors, 2 < n := by
  refine ⟨by decide, by decide, by decide, by decide, rfl, fun _ _ => rfl, _,
    fork_spawn (by decide) (by decide) rfl, 15, ?_, by decide⟩
  rw [Child.run_call]
  decide

/-! ### Environment -/

/-- The environment array at the call: 1024 slots, of which the first hold those of the entries stored
    in the launcher's table that pass and then the extra ones, byte for byte and in order, as many as
    leave a slot empty, and all others are empty. -/
theorem exec_environment (kernel : Descriptor.Kernel) (execFailure : ExecCall → Option Errno)
    (table : Table) (environ : EnvTable) (request : Request) :
    let array := (Child.run kernel execFailure table environ request).call.environment
    let stored := environ.getD []
    let passing := stored.filter fun entry => Entry.Passing request.allowlist entry
    let entries := (passing ++ request.extra.getD []).take 1023
    array.capacity = 1024 ∧ none ∈ array.slots ∧ array.visible = entries ∧
      array.slots = entries.map some ++ List.replicate (1024 - entries.length) none := by
  intro array stored passing entries
  have harray : array = Child.environment environ request :=
    congrArg ExecCall.environment (Child.run_call kernel execFailure table environ request)
  have hslots : array.slots = entries.map some ++ List.replicate (1024 - entries.length) none :=
    harray ▸ Child.slots_environment environ request
  have hsentinel : array.slots =
      entries.map some ++ none :: List.replicate (1023 - entries.length) none :=
    harray ▸ Child.slots_environment_sentinel environ request
  have hlength : entries.length ≤ 1023 := List.length_take_le 1023 _
  refine ⟨?_, ?_, EnvArray.visible_of_slots hsentinel, hslots⟩
  · rw [EnvArray.capacity, hslots, List.length_append, List.length_map, List.length_replicate]
    omega
  · rw [hsentinel]
    exact List.mem_append_right _ List.mem_cons_self

end CleanLaunch
