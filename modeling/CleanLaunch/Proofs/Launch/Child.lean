import CleanLaunch.Launch.Launcher
import CleanLaunch.Proofs.Bytes
import CleanLaunch.Proofs.Descriptor.Coverage
import CleanLaunch.Proofs.Environ.Passing
import CleanLaunch.Proofs.Environ.Storing

/-! The run of a child, piece by piece.

    A request without NUL bytes and a process that can be created give a child: `fork_spawn`,
    `run_of_created`. Its run is its cleanup, one call and, if the call fails, one line more:
    `Child.run_call`, `Child.run_lines`. The cleanup closes by the listing, and by range where
    the listing cannot be read to its end; `Child.mem_cleanup` says what that leaves open. The
    environment array holds the entries that pass and the extra ones, as many as its capacity
    lets through, and nothing else: `Child.slots_environment`. -/

namespace CleanLaunch

open Descriptor (Table)

namespace Child

/-! ### What a run consists of -/

variable (kernel : Descriptor.Kernel) (execFailure : ExecCall → Option Errno) (table : Table)
  (environ : EnvTable) (request : Request)

theorem run_call : (run kernel execFailure table environ request).call =
    call (cleanup kernel table) environ request := by
  rw [run]
  split <;> rfl

/-- The child writes what its cleanup says, and one line more if the call fails. -/
theorem run_lines : (run kernel execFailure table environ request).lines =
    (cleanup kernel table).lines ++
      (execFailure (run kernel execFailure table environ request).call).toList.map
        (execFailedLine request.command) := by
  rw [run_call, run]
  cases execFailure (call (cleanup kernel table) environ request) with
  | none => rw [Option.toList_none, List.map_nil, List.append_nil]
  | some errno => rw [Option.toList_some, List.map_singleton]

theorem run_ending : (run kernel execFailure table environ request).ending =
    match execFailure (run kernel execFailure table environ request).call with
    | none => .replaced
    | some _ => .exited execFailedStatus := by
  rw [run_call, run]
  cases execFailure (call (cleanup kernel table) environ request) <;> rfl

/-! ### Cleaning up -/

variable {kernel table}

theorem cleanup_of_ok (hresult : (Descriptor.prune kernel standardError table).result = .ok ()) :
    (cleanup kernel table).table = (Descriptor.prune kernel standardError table).table ∧
      (cleanup kernel table).lines =
        (Descriptor.failures (Descriptor.prune kernel standardError table).attempts).map
          closeFailedLine := by
  rw [cleanup, hresult]
  exact ⟨rfl, rfl⟩

theorem cleanup_of_error {errno : Errno}
    (hresult : (Descriptor.prune kernel standardError table).result = .error errno) :
    (cleanup kernel table).table =
      Descriptor.closeRange kernel standardError
        (Descriptor.prune kernel standardError table).table := by
  rw [cleanup, hresult]

/-- What is open after a cleanup in which every close succeeds: the descriptors up to standard
    error, and those that closing by range does not reach of the ones that no listing reported. -/
theorem mem_cleanup (hlive : kernel.listing.scripted = none) (hvalid : table.Valid)
    (hclose : kernel.ClosesAll table) (n : Nat) :
    n ∈ (cleanup kernel table).table ↔ n ∈ table ∧
      (n ≤ standardError ∨ kernel.rangeEnd ≤ n ∧ kernel.Unlisted table n) := by
  have hcalled (hn : n ∈ table) (habove : ¬n ≤ standardError) :
      n ∉ (Descriptor.prune kernel standardError table).called ↔ kernel.Unlisted table n :=
    Descriptor.not_mem_called_iff hlive hvalid hn (Int.ofNat_lt.2 (Nat.lt_of_not_le habove))
  cases hresult : (Descriptor.prune kernel standardError table).result with
  | ok =>
    rw [(cleanup_of_ok hresult).1, Descriptor.mem_prune_of_closesAll hclose]
    refine and_congr_right fun hn => ?_
    have hall := Descriptor.mem_called_of_ok hlive hvalid hresult n
    by_cases hle : n ≤ standardError
    · simp only [hall, hle, true_or, iff_true]
      exact fun h => absurd (Int.ofNat_lt.1 h.2) (Nat.not_lt.2 hle)
    · have hlisted : n ∈ (Descriptor.prune kernel standardError table).called :=
        hall.2 ⟨hn, Int.ofNat_lt.2 (Nat.lt_of_not_le hle)⟩
      rw [← hcalled hn hle]
      exact ⟨fun h => absurd hlisted h, fun h => (h.resolve_left hle).2⟩
  | error errno =>
    -- What the listing had named before it failed is closed already, whatever the range leaves out.
    rw [cleanup_of_error hresult, Descriptor.mem_closeRange kernel (by decide) (by decide),
      Descriptor.mem_prune_of_closesAll hclose, and_assoc, Int.ofNat_lt]
    refine and_congr_right fun hn => ?_
    rw [hclose n (Table.mem_insert.2 (Or.inr hn))]
    by_cases hle : n ≤ standardError
    · simp only [hle, true_or, iff_true]
      exact ⟨fun hcall => Nat.not_lt.2 hle (Int.ofNat_lt.1 (Descriptor.lt_of_mem_called hcall).1),
        fun hrange => absurd hrange.1 (Nat.not_lt.2 hle)⟩
    · have habove : standardError < n := Nat.lt_of_not_le hle
      rw [← hcalled hn hle, or_iff_right hle, and_comm]
      refine and_congr_left fun _ => ⟨fun hrange => ?_, fun hend hrange => ?_⟩
      · exact Nat.le_of_not_lt fun hlt => hrange ⟨habove, hlt⟩ rfl
      · exact absurd hrange.2 (Nat.not_lt.2 hend)

/-- A cleanup by a working listing, with no close that fails, writes nothing and leaves open what
    stood up to standard error. -/
theorem cleanup_of_works (hworks : kernel.ListingWorks) (hvalid : table.Valid)
    (hfree : ∃ n, n < kernel.limit ∧ n ∉ table) (hclose : kernel.ClosesAll table) :
    (cleanup kernel table).lines = [] ∧
      ∀ n, n ∈ (cleanup kernel table).table ↔ n ∈ table ∧ n ≤ standardError := by
  obtain ⟨hresult, hcalled, hattempts⟩ :=
    Descriptor.prune_of_works standardError hworks hvalid hfree
  refine ⟨?_, fun n => ?_⟩
  · have hquiet : Descriptor.failures
        (Descriptor.prune kernel standardError table).attempts = [] := by
      rw [Descriptor.failures, hattempts, List.filterMap_map, List.filterMap_eq_nil_iff]
      intro n hn
      rw [hcalled, List.mem_filter] at hn
      exact congrArg (Option.map (n, ·)) (hclose n (Table.mem_insert.2 (Or.inr hn.1)))
    rw [(cleanup_of_ok hresult).2, hquiet, List.map_nil]
  · have hlists := hworks.listsAll hfree
    rw [mem_cleanup hworks.live hvalid hclose]
    exact and_congr_right fun hn => or_iff_left fun h =>
      Descriptor.not_unlisted_of_listsAll hlists hn h.2

/-! ### Building the environment -/

/-- Both operations succeed, since the array has slots. -/
theorem environment_eq (environ : EnvTable) (request : Request) :
    environment environ request =
      (let inherited := ((EnvArray.empty envCapacity).store 0
        (environ.entries.filter fun entry => Entry.Passing request.allowlist entry)).1
      (inherited.store inherited.insertionPoint (request.extra.getD [])).1.exported) := by
  have hempty : (EnvArray.empty envCapacity).slots ≠ [] :=
    EnvArray.slots_ne_nil (by rw [EnvArray.capacity_empty]; decide)
  have hinherited := EnvArray.store_slots_ne_nil hempty
    (environ.entries.filter fun entry => Entry.Passing request.allowlist entry) 0
  rw [environment, EnvArray.filter_eq_ok hempty, Option.getD_some, filter_passes]
  simp only [EnvArray.append_eq_ok hinherited]

/-- The slots of the environment array: the inherited entries that pass, then the extra ones, as many
    as fit before the last slot, and behind them empty slots only. -/
theorem slots_environment (environ : EnvTable) (request : Request) :
    let stored := environ.getD []
    let entries := ((stored.filter fun entry => Entry.Passing request.allowlist entry) ++
      request.extra.getD []).take 1023
    (environment environ request).slots =
      entries.map some ++ List.replicate (1024 - entries.length) none := by
  intro stored entries
  have hempty : (EnvArray.empty envCapacity).slots ≠ [] :=
    EnvArray.slots_ne_nil (by rw [EnvArray.capacity_empty]; decide)
  have hlast : (EnvArray.empty envCapacity).last = 1023 := by
    rw [EnvArray.last, EnvArray.capacity_empty, envCapacity]
  rw [environment_eq, EnvTable.entries_eq, EnvArray.exported, EnvArray.visible_filter_append hempty, hlast,
    EnvArray.capacity_store, EnvArray.capacity_store, EnvArray.capacity_empty, envCapacity]

/-- The slot behind the last entry is empty, since there are at most 1023 entries. -/
theorem slots_environment_sentinel (environ : EnvTable) (request : Request) :
    let stored := environ.getD []
    let entries := ((stored.filter fun entry => Entry.Passing request.allowlist entry) ++
      request.extra.getD []).take 1023
    (environment environ request).slots =
      entries.map some ++ none :: List.replicate (1023 - entries.length) none := by
  intro stored entries
  have hlength : entries.length ≤ 1023 := List.length_take_le 1023 _
  have hslots : (environment environ request).slots =
      entries.map some ++ List.replicate (1024 - entries.length) none :=
    slots_environment environ request
  rw [hslots, ← List.replicate_succ, ← Nat.sub_add_comm hlength]

/-- The environment of a command: the entries that pass, then the extra ones, as many as fit. -/
theorem visible_environment (environ : EnvTable) (request : Request) :
    (environment environ request).visible = (((environ.getD []).filter fun entry =>
      Entry.Passing request.allowlist entry) ++ request.extra.getD []).take 1023 :=
  EnvArray.visible_of_slots (slots_environment_sentinel environ request)

end Child

/-! ### Creating the child -/

theorem Launcher.nulPosition?_eq_none_iff (request : Request) :
    nulPosition? request = none ↔
      (0 : UInt8) ∉ request.shell ∧ (0 : UInt8) ∉ request.command := by
  rw [nulPosition?, Option.or_eq_none_iff, nulOffset?_eq_none_iff, nulOffset?_eq_none_iff]

theorem fork_spawn {launcher : Launcher} {kernel : LaunchKernel} {request : Request} {pid : Nat}
    (hshell : (0 : UInt8) ∉ request.shell) (hcommand : (0 : UInt8) ∉ request.command)
    (hfork : kernel.fork = .ok pid) :
    (launcher.spawn kernel request).fork = .created pid
      (Child.run kernel.toKernel kernel.execFailure launcher.table launcher.environ request) := by
  rw [Launcher.spawn, (Launcher.nulPosition?_eq_none_iff request).2 ⟨hshell, hcommand⟩, hfork]

/-- The run of a child that was created. -/
theorem run_of_created {launcher : Launcher} {kernel : LaunchKernel} {request : Request} {pid : Nat}
    {run : Child.Run} (hcreated : (launcher.spawn kernel request).fork = .created pid run) :
    run = Child.run kernel.toKernel kernel.execFailure launcher.table launcher.environ request := by
  rw [Launcher.spawn] at hcreated
  split at hcreated
  · cases hcreated
  · split at hcreated
    · cases hcreated
    · exact (Fork.created.inj hcreated).2.symm

end CleanLaunch
