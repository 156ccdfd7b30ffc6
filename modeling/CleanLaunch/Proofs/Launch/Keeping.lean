import CleanLaunch.Proofs.Descriptor.Decoding
import CleanLaunch.Proofs.Launch.Child

/-! Which descriptors are never lost.

    Neither pruning nor closing by range touches a descriptor at or below the threshold, whatever
    the listing says and whatever fails: `Descriptor.mem_prune_of_le`,
    `Descriptor.mem_closeRange_of_le`. So the standard descriptors of a launcher are open when
    its command starts: `Child.standard_mem_cleanup`. A descriptor that no record names stays
    open as well, and nothing becomes open except the listing's own descriptor, where that does
    not close: `kept_descriptors_stay_open`. -/

namespace CleanLaunch.Descriptor

variable {kernel : Kernel} {keep : Int} {table : Table} {n : Nat}

theorem mem_prune_of_not_called (hn : n ∈ table) (hcalled : n ∉ (prune kernel keep table).called) :
    n ∈ (prune kernel keep table).table :=
  (mem_prune kernel keep table n).2 (Or.inl ⟨hn, fun h => absurd h hcalled⟩)

theorem mem_prune_of_le (hn : n ∈ table) (hkeep : (n : Int) ≤ keep) :
    n ∈ (prune kernel keep table).table :=
  mem_prune_of_not_called hn fun hcalled => Int.not_lt.2 hkeep (lt_of_mem_called hcalled).1

theorem mem_closeRange_of_le (hn : n ∈ table) (hkeep : (n : Int) ≤ keep)
    (hhigh : keep < 2147483647) : n ∈ closeRange kernel keep table :=
  (mem_closeRange kernel (by omega) hhigh table n).2
    ⟨hn, fun h => absurd h.1 (Int.not_lt.2 hkeep)⟩

/-- After pruning, the listing's own descriptor is open exactly if it does not close. -/
theorem own_mem_prune {own : Nat} (hopen : kernel.openListing table = .ok own) :
    own ∉ table ∧ (own ∈ (prune kernel keep table).table ↔ kernel.closeFailure own ≠ none) := by
  have hfree := not_mem_of_openListing hopen
  refine ⟨hfree, ?_⟩
  rw [mem_prune, hopen]
  constructor
  · rintro (⟨hn, _⟩ | ⟨_, hfail⟩)
    · exact absurd hn hfree
    · exact hfail
  · intro hfail
    exact Or.inr ⟨rfl, hfail⟩

end CleanLaunch.Descriptor

namespace CleanLaunch

open Descriptor (Kernel Table)

/-- A child goes on with the standard descriptors it had, also where the listing failed. -/
theorem Child.standard_mem_cleanup {kernel : Kernel} {table : Table} {n : Nat} (hn : n ∈ table)
    (hstandard : n ≤ 2) : n ∈ (Child.cleanup kernel table).table := by
  have hkeep : (n : Int) ≤ Child.standardError := Int.ofNat_le.2 hstandard
  have hpruned : n ∈ (Descriptor.prune kernel Child.standardError table).table :=
    Descriptor.mem_prune_of_le hn hkeep
  cases hresult : (Descriptor.prune kernel Child.standardError table).result with
  | ok => rwa [(Child.cleanup_of_ok hresult).1]
  | error errno =>
    rw [Child.cleanup_of_error hresult]
    exact Descriptor.mem_closeRange_of_le hpruned hkeep (by decide)

/-- The standard descriptors that a launcher has open are open when the shell is called. -/
theorem standard_mem_call {launcher : Launcher} {kernel : LaunchKernel} {request : Request}
    {pid : Nat} {run : Child.Run}
    (hcreated : (launcher.spawn kernel request).fork = .created pid run) {n : Nat}
    (hstandard : n ≤ 2) (hn : n ∈ launcher.table) : n ∈ run.call.descriptors := by
  rw [run_of_created hcreated, Child.run_call]
  exact Child.standard_mem_cleanup hn hstandard

/-- Pruning loses no descriptor at or below the threshold and none that no record of the listing
    names, and opens nothing but the listing's own, which stays exactly if it does not close. The
    listing may say anything, as long as no record is shorter than a head: a script of reads is heard
    from its first read on, and what is heard is a division of records. Closing by range loses nothing
    at or below the threshold either, so a child calls the shell with the standard descriptors of its
    launcher. -/
theorem kept_descriptors_stay_open (launcher : Launcher) (kernel : LaunchKernel) (request : Request)
    (keep : Int) (hscan : kernel.listing.Scannable) :
    let table := launcher.table
    let heard := (kernel.transcript keep table).reads
    let pruned := (Descriptor.prune kernel.toKernel keep table).table
    (∀ reads, kernel.listing.scripted = some reads → heard <+: reads) ∧
      (∀ n ∈ table, (n : Int) ≤ keep → n ∈ pruned) ∧
      (∀ n ∈ table, (∀ read ∈ heard, n ∉ Descriptor.Read.numbers read) → n ∈ pruned) ∧
      (∃ division : List Descriptor.RecordRead,
        heard = division.map Descriptor.RecordRead.bytes ∧
          ∀ n ∈ table, n ∉ Descriptor.recordNumbers division → n ∈ pruned) ∧
      (∀ n ∈ pruned, n ∈ table ∨ kernel.openListing table = .ok n) ∧
      (∀ own, kernel.openListing table = .ok own →
        own ∉ table ∧ (own ∈ pruned ↔ kernel.closeFailure own ≠ none)) ∧
      (keep < 2147483647 → ∀ n ∈ table, (n : Int) ≤ keep →
        n ∈ Descriptor.closeRange kernel.toKernel keep table) ∧
      ∀ pid run, (launcher.spawn kernel request).fork = .created pid run →
        ∀ n ≤ 2, n ∈ table → n ∈ run.call.descriptors := by
  intro table heard pruned
  obtain ⟨division, hreads, hnumbers⟩ := Descriptor.exists_division hscan keep table
  have hunnamed (n : Nat) (hn : n ∈ table) (hnot : n ∉ heard.flatMap Descriptor.Read.numbers) :
      n ∈ pruned := by
    refine Descriptor.mem_prune_of_not_called hn fun hcalled => hnot ?_
    exact List.mem_flatMap.2 (Descriptor.mem_called.1 hcalled).1
  refine ⟨fun reads hscripted => Descriptor.reads_transcript_prefix hscripted keep table,
    fun n hn hkeep => Descriptor.mem_prune_of_le hn hkeep, fun n hn hnone => hunnamed n hn ?_,
    ⟨division, hreads, fun n hn hnone => hunnamed n hn (hnumbers ▸ hnone)⟩, fun n hn => ?_,
    fun own hopen => Descriptor.own_mem_prune hopen,
    fun hhigh n hn hkeep => Descriptor.mem_closeRange_of_le hn hkeep hhigh,
    fun pid run hcreated n hstandard hn => standard_mem_call hcreated hstandard hn⟩
  · intro hmem
    obtain ⟨read, hread, hnamed⟩ := List.mem_flatMap.1 hmem
    exact hnone read hread hnamed
  · rcases (Descriptor.mem_prune _ _ _ n).1 hn with ⟨hmem, _⟩ | ⟨hopen, _⟩
    · exact Or.inl hmem
    · exact Or.inr hopen

/-- A read names an open descriptor twice, one that is not open and the listing's own, then breaks
    off; the next read fails, and the listing's own descriptor does not close. -/
theorem kept_descriptors_stay_open_garbled :
    let record (name : String) := (Descriptor.Record.padded 1 1 10 (utf8 name)).encode
    let garbled := record "5" ++ record "5" ++ record "30" ++ record "3" ++ [0, 0, 0]
    let launcher : Launcher := ⟨some [], Table.ofList [0, 1, 2, 5, 9]⟩
    let kernel : LaunchKernel :=
      { listing := { scripted := some [garbled, [1, 2, 3]], failure := some (1, .EIO) }
        closeFailure := fun n => if n = 3 then some .EIO else none
        fork := .ok 8, execFailure := fun _ => none }
    let pruned := (Descriptor.prune kernel.toKernel 2 launcher.table).table
    kernel.listing.Scannable ∧ 2 ∈ pruned ∧ 9 ∈ pruned ∧ 3 ∈ pruned ∧ 5 ∉ pruned ∧
      ∃ run, (launcher.spawn kernel { command := utf8 "true" }).fork = .created 8 run ∧
        2 ∈ run.call.descriptors := by
  intro record garbled launcher kernel pruned
  have hscan : kernel.listing.Scannable := by
    rintro _ ⟨⟩
    decide
  obtain ⟨_, hkept, hunnamed, _, _, hown, _, hlaunch⟩ :=
    kept_descriptors_stay_open launcher kernel { command := utf8 "true" } 2 hscan
  refine ⟨hscan, hkept 2 (by decide) (by decide), hunnamed 9 (by decide) (by decide),
    (hown 3 (by decide)).2.2 (by decide), by decide, _, rfl,
    hlaunch 8 _ rfl 2 (by decide) (by decide)⟩

end CleanLaunch
