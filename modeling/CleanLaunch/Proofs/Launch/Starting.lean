import CleanLaunch.Launch.Session
import CleanLaunch.Proofs.Files.Image
import CleanLaunch.Proofs.Launch.Keeping

/-! The process in which a command starts.

    Starting a program closes the listing's own descriptor where the child could not close it, so a
    command has descriptors of the launcher only, whatever failed before: `Child.mem_inherited`. In
    its surroundings it is a process with these descriptors, the standard ones on files of its own,
    and with the entries of the environment array: `Session.process_inherits`. If every close
    succeeds, `Session.mem_process_descriptors` says which of the launcher's descriptors it has. It
    finds its command behind whatever scripts lead to it: `Session.process_arguments`. A child either
    goes on as such a process or ends with its own line: `Session.outcome_cases`. -/

namespace CleanLaunch

open Descriptor (Kernel Table)
open Files (Image)

/-! ### The listing's own descriptor -/

namespace Descriptor

variable {kernel : Kernel} {keep : Int} {table : Table}

theorem Kernel.close_eq_none_iff (kernel : Kernel) (table : Table) (n : Nat) :
    (kernel.close table n).1 = none ↔ kernel.closeFailure n = none ∧ n ∈ table := by
  rw [close]
  cases kernel.closeFailure n with
  | some errno => simp
  | none => by_cases hn : n ∈ table <;> simp [hn]

theorem pruneReads_leftover (kernel : Kernel) (keep : Int) (own : Nat) :
    ∀ (bound : Nat) (cursor : Cursor) (table : Table),
    (pruneReads kernel keep own bound cursor table).leftover = none
  | 0, _, _ => rfl
  | bound + 1, cursor, table => by
    rcases read_cases kernel.listing table cursor with
      ⟨errno, hread⟩ | ⟨next, hread⟩ | ⟨read, next, hne, hread⟩
    · rw [pruneReads_of_error hread]
    · rw [pruneReads_of_end hread]
    · rw [pruneReads_of_read hne hread]
      exact pruneReads_leftover kernel keep own bound next _

/-- Pruning leaves the listing's own descriptor exactly if it does not close. Reading on never calls
    for it, so it is open when it is closed in the end. -/
theorem leftover_prune {own : Nat} : (prune kernel keep table).leftover = some own ↔
    kernel.openListing table = .ok own ∧ kernel.closeFailure own ≠ none := by
  cases hopen : kernel.openListing table with
  | error errno =>
    rw [prune_of_error hopen]
    simp
  | ok opened =>
    obtain ⟨hcalled, htable, _⟩ := pruneReads_calls kernel keep opened
      (kernel.listing.bound (table.insert opened)) {} (table.insert opened)
    have hmem : opened ∈ (pruneReads kernel keep opened
        (kernel.listing.bound (table.insert opened)) {} (table.insert opened)).table := by
      rw [htable, kernel.mem_closeAll]
      exact ⟨Table.mem_insert.2 (Or.inl rfl), fun hcall => absurd rfl (hcalled opened hcall).2⟩
    have hclosed := (kernel.close_eq_none_iff _ opened).trans (and_iff_left hmem)
    rw [prune, hopen, Except.ok.injEq]
    simp only
    split
    · next h =>
      rw [h] at hclosed
      have hfail : kernel.closeFailure opened ≠ none := fun hnone =>
        Option.some_ne_none _ (hclosed.2 hnone)
      exact ⟨fun heq => Option.some.inj heq ▸ ⟨rfl, hfail⟩, fun heq => congrArg some heq.1⟩
    · next h =>
      rw [h] at hclosed
      rw [pruneReads_leftover]
      exact ⟨fun heq => absurd heq.symm (Option.some_ne_none own),
        fun heq => absurd (hclosed.1 rfl) (heq.1 ▸ heq.2)⟩

end Descriptor

namespace Child

theorem leftover_run (kernel : Kernel) (execFailure : ExecCall → Option Errno) (table : Table)
    (environ : EnvTable) (request : Request) :
    (run kernel execFailure table environ request).leftover =
      (Descriptor.prune kernel standardError table).leftover := by
  have hcleanup : (cleanup kernel table).leftover =
      (Descriptor.prune kernel standardError table).leftover := by
    rw [cleanup]
    split <;> rfl
  rw [run]
  split <;> exact hcleanup

/-- What is open when the shell is called was open in the launcher, or is the listing's own. -/
theorem of_mem_cleanup {kernel : Kernel} {table : Table} {n : Nat}
    (hn : n ∈ (cleanup kernel table).table) :
    n ∈ table ∨ (Descriptor.prune kernel standardError table).leftover = some n := by
  have hpruned : n ∈ (Descriptor.prune kernel standardError table).table := by
    cases hresult : (Descriptor.prune kernel standardError table).result with
    | ok => rwa [(cleanup_of_ok hresult).1] at hn
    | error errno =>
      rw [cleanup_of_error hresult] at hn
      exact ((Descriptor.mem_closeRange kernel (by decide) (by decide) _ n).1 hn).1
  rw [Descriptor.leftover_prune]
  exact ((Descriptor.mem_prune kernel standardError table n).1 hpruned).imp_left And.left

/-- A command inherits what is open at the call and was open in the launcher. -/
theorem mem_inherited (kernel : Kernel) (execFailure : ExecCall → Option Errno) (table : Table)
    (environ : EnvTable) (request : Request) (n : Nat) :
    n ∈ (run kernel execFailure table environ request).inherited ↔
      n ∈ (run kernel execFailure table environ request).call.descriptors ∧ n ∈ table := by
  generalize hrun : run kernel execFailure table environ request = run
  have hcall : n ∈ run.call.descriptors → n ∈ table ∨ run.leftover = some n := by
    rw [← hrun, run_call, leftover_run]
    exact of_mem_cleanup
  rw [Run.inherited]
  cases hleft : run.leftover with
  | none =>
    rw [hleft] at hcall
    exact (and_iff_left_of_imp fun hn =>
      (hcall hn).resolve_right fun heq => Option.some_ne_none n heq.symm).symm
  | some own =>
    rw [hleft] at hcall
    have hfree : own ∉ table := by
      rw [← hrun, leftover_run, Descriptor.leftover_prune] at hleft
      exact Descriptor.not_mem_of_openListing hleft.1
    rw [Table.mem_erase]
    refine and_congr_right fun hn => ⟨fun hne => (hcall hn).resolve_right fun heq => ?_,
      fun hopen heq => hfree (heq ▸ hopen)⟩
    exact hne (Option.some.inj heq).symm

end Child

namespace Session

/-! ### The process -/

variable {session : Session} {request : Request} {pid : Nat} {run : Child.Run}

theorem mem_inherited_of_created (hcreated : (session.spawn request).fork = .created pid run)
    (n : Nat) :
    n ∈ run.inherited ↔ n ∈ run.call.descriptors ∧ n ∈ session.launcher.table := by
  rw [run_of_created hcreated]
  exact Child.mem_inherited _ _ _ _ _ n

theorem mem_process_descriptors_iff (image : Image) (n : Nat) :
    (∃ descriptor ∈ (session.process run image).descriptors, descriptor.number = n) ↔
      n ∈ run.inherited := by
  simp [process]

/-- Whatever fails, a command starts without a descriptor that was not open in the launcher, with the
    standard descriptors of the launcher on files of its own, and with the environment entries of the
    launcher that pass and the extra ones behind them, as many as the array holds. -/
theorem process_inherits (hcreated : (session.spawn request).fork = .created pid run) (image : Image) :
    let process := session.process run image
    (∀ descriptor ∈ process.descriptors, descriptor.number ∈ session.launcher.table) ∧
      (∀ n ≤ 2, n ∈ session.launcher.table → { number := n, file := n } ∈ process.descriptors) ∧
      process.environment = (((session.launcher.environ.getD []).filter fun entry =>
        Entry.Passing request.allowlist entry) ++ request.extra.getD []).take 1023 := by
  intro process
  have hmem := mem_inherited_of_created hcreated
  have hdescriptors : process.descriptors =
      run.inherited.numbers.map fun n => { number := n, file := fileOf n } := rfl
  refine ⟨fun descriptor hdescriptor => ?_, fun n hstandard hn => ?_, ?_⟩
  · rw [hdescriptors] at hdescriptor
    obtain ⟨n, hn, rfl⟩ := List.mem_map.1 hdescriptor
    exact ((hmem n).1 hn).2
  · have hfile : fileOf n = n := if_pos (Nat.lt_succ_of_le hstandard)
    rw [hdescriptors, List.mem_map]
    exact ⟨n, (hmem n).2 ⟨standard_mem_call hcreated hstandard hn, hn⟩, by rw [hfile]⟩
  · have henvironment : process.environment =
        (Child.environment session.launcher.environ request).visible := by
      rw [show process.environment = run.call.environment.visible from rfl, run_of_created hcreated,
        Child.run_call]
      rfl
    rw [henvironment, Child.visible_environment]

/-- If every close succeeds, a command starts with the launcher's descriptors up to standard error, and
    with those that closing by range does not reach of the ones that no listing reported. -/
theorem mem_process_descriptors (hcreated : (session.spawn request).fork = .created pid run)
    (hvalid : session.launcher.table.Valid) (hlive : session.faults.reads = none)
    (hclose : session.faults.close = []) (image : Image) (n : Nat) :
    (∃ descriptor ∈ (session.process run image).descriptors, descriptor.number = n) ↔
      n ∈ session.launcher.table ∧ (n ≤ 2 ∨ session.kernel.rangeEnd ≤ n ∧
        session.kernel.Unlisted session.launcher.table n) := by
  have hcloses : session.kernel.ClosesAll session.launcher.table := fun n _ => by
    show session.faults.close.lookup n = none
    rw [hclose, List.lookup_nil]
  have hcleanup : n ∈ run.call.descriptors ↔ n ∈ session.launcher.table ∧
      (n ≤ 2 ∨ session.kernel.rangeEnd ≤ n ∧
        session.kernel.Unlisted session.launcher.table n) := by
    rw [run_of_created hcreated, Child.run_call]
    exact Child.mem_cleanup hlive hvalid hcloses n
  rw [mem_process_descriptors_iff, mem_inherited_of_created hcreated, hcleanup]
  exact and_iff_left_of_imp And.left

/-- What starts in place of a child gets the command behind `-c`, byte for byte, whatever scripts lead
    to it, and starts only if the command is not too long. -/
theorem process_arguments (hcreated : (session.spawn request).fork = .created pid run) {image : Image}
    (hload : session.load run.call = .ok image) :
    request.command.length ≤ Image.maxStringLength ∧
      ∃ front, (session.process run image).arguments = front ++ [utf8 "-c", request.command] := by
  have harguments : run.call.arguments = [utf8 "sh", utf8 "-c", request.command] := by
    rw [run_of_created hcreated, Child.run_call]
    rfl
  obtain ⟨hstrings, _, ⟨front, hkept⟩, _⟩ := Image.load_started hload
  rw [harguments] at hstrings hkept
  exact ⟨hstrings _ (by simp), front, hkept⟩

theorem execFailure_eq_some_iff {call : ExecCall} {errno : Errno} :
    session.kernel.execFailure call = some errno ↔ session.faults.exec = some errno ∨
      session.faults.exec = none ∧ session.load call = .error errno := by
  simp only [kernel, Option.or_eq_some_iff]
  cases session.load call <;> simp

theorem execFailure_eq_none_iff {call : ExecCall} :
    session.kernel.execFailure call = none ↔
      session.faults.exec = none ∧ ∃ image, session.load call = .ok image := by
  simp only [kernel, Option.or_eq_none_iff]
  cases session.load call <;> simp

/-- A child ends with its own status and line, because a failure of its call was forced or the call
    starts nothing, or goes on as the process of the image that its call starts. -/
theorem outcome_cases (hcreated : (session.spawn request).fork = .created pid run) :
    (∃ errno, (session.faults.exec = some errno ∨
        session.faults.exec = none ∧ session.load run.call = .error errno) ∧
      session.outcome run = ⟨.exited 5, [], run.stderr⟩ ∧
      run.lines.getLast? = some (Child.execFailedLine request.command errno)) ∨
    session.faults.exec = none ∧ ∃ image, session.load run.call = .ok image ∧
      session.outcome run = runProgram (session.process run image) image := by
  have hending := Child.run_ending session.kernel.toKernel session.kernel.execFailure
    session.launcher.table session.launcher.environ request
  have hlines := Child.run_lines session.kernel.toKernel session.kernel.execFailure
    session.launcher.table session.launcher.environ request
  rw [← run_of_created hcreated] at hending hlines
  cases hfail : session.kernel.execFailure run.call with
  | some errno =>
    rw [hfail] at hending hlines
    refine Or.inl ⟨errno, execFailure_eq_some_iff.1 hfail, ?_, ?_⟩
    · rw [outcome, hending]
      rfl
    · rw [hlines, Option.toList_some, List.map_singleton, List.getLast?_concat]
  | none =>
    rw [hfail] at hending
    obtain ⟨hforced, image, hload⟩ := execFailure_eq_none_iff.1 hfail
    refine Or.inr ⟨hforced, image, hload, ?_⟩
    rw [outcome, hending]
    simp only [hload]

end Session

end CleanLaunch
