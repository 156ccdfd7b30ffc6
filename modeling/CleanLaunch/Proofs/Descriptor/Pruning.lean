import CleanLaunch.Proofs.Descriptor.Closing
import CleanLaunch.Proofs.Descriptor.Reading
import CleanLaunch.Proofs.Descriptor.Table

/-! What pruning does to a table.

    Whatever the listing says, pruning calls close for numbers above the threshold only, and
    leaves open what it did not call for and what does not close: `lt_of_mem_called`,
    `mem_prune`. As long as the reads are the kernel's own, it calls for the open descriptors
    above the threshold in ascending order, for all of them unless a read fails: `prune_live`.
    The place of the listing's own descriptor changes nothing in that. When nothing goes wrong
    with the listing, exactly the descriptors above the threshold that can be closed are gone:
    `prune_exact`. -/

namespace CleanLaunch.Descriptor

/-- The listing opens while a number is free, its reads are the kernel's own, and none fails. -/
structure Kernel.ListingWorks (kernel : Kernel) : Prop where
  opens : kernel.openFailure = none
  live : kernel.listing.scripted = none
  reads : kernel.listing.failure = none

/-- No close of an open descriptor fails, of the listing's own neither. -/
def Kernel.ClosesAll (kernel : Kernel) (table : Table) : Prop :=
  ∀ n ∈ table.insert table.lowestFree, kernel.closeFailure n = none

/-- The numbers that pruning called close for, in order. -/
def Pruning.called (pruning : Pruning) : List Nat := pruning.attempts.map Attempt.number

variable {kernel : Kernel} {keep : Int} {own bound : Nat} {cursor : Cursor} {table : Table}

/-! ### Reading on from a cursor -/

theorem pruneReads_of_error {errno : Errno}
    (hread : kernel.listing.read table cursor = .error errno) :
    pruneReads kernel keep own (bound + 1) cursor table = ⟨table, [], .error errno, none⟩ := by
  rw [pruneReads, hread]

theorem pruneReads_of_end {next : Cursor}
    (hread : kernel.listing.read table cursor = .ok ([], next)) :
    pruneReads kernel keep own (bound + 1) cursor table = ⟨table, [], .ok (), none⟩ := by
  rw [pruneReads, hread]

theorem pruneReads_of_read {read : Bytes} {next : Cursor} (hne : read ≠ [])
    (hread : kernel.listing.read table cursor = .ok (read, next)) :
    pruneReads kernel keep own (bound + 1) cursor table =
      { pruneReads kernel keep own bound next
          (kernel.closeAll table (targets keep own read)).1 with
        attempts := (kernel.closeAll table (targets keep own read)).2 ++
          (pruneReads kernel keep own bound next
            (kernel.closeAll table (targets keep own read)).1).attempts } := by
  obtain ⟨byte, rest, rfl⟩ := List.exists_cons_of_ne_nil hne
  rw [pruneReads, hread]

theorem called_of_read {read : Bytes} {next : Cursor} (hne : read ≠ [])
    (hread : kernel.listing.read table cursor = .ok (read, next)) :
    (pruneReads kernel keep own (bound + 1) cursor table).called = targets keep own read ++
      (pruneReads kernel keep own bound next
        (kernel.closeAll table (targets keep own read)).1).called := by
  rw [pruneReads_of_read hne hread, Pruning.called, List.map_append, kernel.numbers_closeAll]
  rfl

theorem result_of_read {read : Bytes} {next : Cursor} (hne : read ≠ [])
    (hread : kernel.listing.read table cursor = .ok (read, next)) :
    (pruneReads kernel keep own (bound + 1) cursor table).result =
      (pruneReads kernel keep own bound next
        (kernel.closeAll table (targets keep own read)).1).result := by
  rw [pruneReads_of_read hne hread]

theorem mem_targets {read : Bytes} {n : Nat} (hn : n ∈ targets keep own read) :
    keep < (n : Int) ∧ n ≠ own := by
  simpa using (List.mem_filter.1 hn).2

/-- Whatever the listing says, reading on calls for numbers above the threshold only, never for the
    listing's own, and does nothing but make these calls. -/
theorem pruneReads_calls (kernel : Kernel) (keep : Int) (own : Nat) :
    ∀ (bound : Nat) (cursor : Cursor) (table : Table),
    (∀ n ∈ (pruneReads kernel keep own bound cursor table).called, keep < (n : Int) ∧ n ≠ own) ∧
      (pruneReads kernel keep own bound cursor table).table =
        (kernel.closeAll table (pruneReads kernel keep own bound cursor table).called).1 ∧
      (pruneReads kernel keep own bound cursor table).attempts =
        (kernel.closeAll table (pruneReads kernel keep own bound cursor table).called).2
  | 0, _, _ => ⟨fun _ hn => absurd hn List.not_mem_nil, rfl, rfl⟩
  | bound + 1, cursor, table => by
    rcases read_cases kernel.listing table cursor with
      ⟨errno, hread⟩ | ⟨next, hread⟩ | ⟨read, next, hne, hread⟩
    · rw [pruneReads_of_error hread]
      exact ⟨fun _ hn => absurd hn List.not_mem_nil, rfl, rfl⟩
    · rw [pruneReads_of_end hread]
      exact ⟨fun _ hn => absurd hn List.not_mem_nil, rfl, rfl⟩
    · obtain ⟨habove, htable, hattempts⟩ := pruneReads_calls kernel keep own bound next
        (kernel.closeAll table (targets keep own read)).1
      rw [called_of_read hne hread, kernel.closeAll_append, pruneReads_of_read hne hread]
      refine ⟨fun n hn => ?_, htable, congrArg (_ ++ ·) hattempts⟩
      rcases List.mem_append.1 hn with hn | hn
      · exact mem_targets hn
      · exact habove n hn

/-! ### Reading on in the kernel's own listing -/

/-- A read of the kernel's own listing fails as was arranged, or takes what comes next. -/
theorem read_live (hlive : kernel.listing.scripted = none) (table : Table) (cursor : Cursor) :
    (∃ count errno, kernel.listing.failure = some (count, errno) ∧
      kernel.listing.read table cursor = .error errno) ∨
    kernel.listing.read table cursor = .ok ((kernel.listing.liveRead table cursor).1,
      ⟨cursor.reads + 1, (kernel.listing.liveRead table cursor).2⟩) := by
  rw [Listing.read, Listing.read.succeed, hlive]
  cases hfail : kernel.listing.failure with
  | none => exact Or.inr rfl
  | some failure =>
    obtain ⟨count, errno⟩ := failure
    by_cases hcount : count ≤ cursor.reads
    · exact Or.inl ⟨count, errno, rfl, if_pos hcount⟩
    · exact Or.inr (if_neg hcount)

/-- Only descriptors from a place on matter for what is pending there. -/
theorem Listing.pending_congr {a b : Table} {position : Nat}
    (hsame : ∀ n, position ≤ placeOf n → (n ∈ a ↔ n ∈ b)) :
    pending a position = pending b position := by
  have hnumbers : (a.numbers.map fun n => (placeOf n, nameOf n)).filter (position ≤ ·.1) =
      (b.numbers.map fun n => (placeOf n, nameOf n)).filter (position ≤ ·.1) := by
    rw [List.filter_map, List.filter_map]
    exact congrArg _ (Table.filter_numbers_congr fun n hn => hsame n (of_decide_eq_true hn))
  simp only [pending, entries, List.filter_cons, hnumbers]

/-- Closing what a read names does not touch what goes on pending. -/
theorem pending_closeAll (kernel : Kernel) (keep : Int) (own : Nat) (hshort : table.ShortNamed)
    (cursor : Cursor) :
    Listing.pending
        (kernel.closeAll table (targets keep own (kernel.listing.liveRead table cursor).1)).1
        (kernel.listing.liveRead table cursor).2 =
      Listing.pending table (kernel.listing.liveRead table cursor).2 := by
  refine Listing.pending_congr fun n hplace => ?_
  rw [kernel.mem_closeAll]
  refine ⟨fun h => h.1, fun hmem => ⟨hmem, fun htarget => ?_⟩⟩
  have hchosen := ((kernel.listing.mem_targets_liveRead hshort cursor n).1 htarget).2
  exact absurd (Listing.lt_next_of_mem_chosen hchosen) (Nat.not_lt.2 hplace)

/-- Reading on calls for the awaiting descriptors in order, for all of them unless a read fails. -/
theorem pruneReads_live (keep : Int) (own : Nat) (hlive : kernel.listing.scripted = none) :
    ∀ (bound : Nat) (cursor : Cursor) (table : Table), table.ShortNamed →
      kernel.listing.remaining table cursor < bound →
      ∃ rest, Listing.awaiting keep own table cursor.position =
          (pruneReads kernel keep own bound cursor table).called ++ rest ∧
        ((pruneReads kernel keep own bound cursor table).result = .ok () → rest = []) ∧
        (kernel.listing.failure = none →
          (pruneReads kernel keep own bound cursor table).result = .ok ())
  | 0, _, _, _, hbound => absurd hbound (Nat.not_lt_zero _)
  | bound + 1, cursor, table, hshort, hbound => by
    rcases read_live hlive table cursor with ⟨count, errno, hfail, hread⟩ | hread
    · rw [pruneReads_of_error hread, hfail]
      exact ⟨_, rfl, fun h => (by cases h), fun h => (by cases h)⟩
    by_cases hpending : Listing.pending table cursor.position = []
    · rw [Listing.liveRead_eq_nil hpending] at hread
      rw [pruneReads_of_end hread, Listing.awaiting, hpending]
      exact ⟨[], rfl, fun _ => rfl, fun _ => rfl⟩
    have hchosen := kernel.listing.chosen_ne_nil hshort hpending
    -- The table changes under the listing, but only in what the read has passed.
    have hsame := pending_closeAll kernel keep own hshort cursor
    have hsub := kernel.closeAll_sublist
      (targets keep own (kernel.listing.liveRead table cursor).1) table
    have hfewer := remaining_decreases (Listing.liveRead_ne_nil hchosen) hread hsub
    obtain ⟨rest, hcalled, hok, hfail⟩ := pruneReads_live keep own hlive bound
      ⟨cursor.reads + 1, (kernel.listing.liveRead table cursor).2⟩ _
      (fun n hn => hshort n (hsub.subset hn)) (by omega)
    rw [called_of_read (Listing.liveRead_ne_nil hchosen) hread,
      result_of_read (Listing.liveRead_ne_nil hchosen) hread]
    refine ⟨rest, ?_, hok, hfail⟩
    rw [kernel.listing.awaiting_eq keep own hshort, Listing.awaiting, ← hsame, ← Listing.awaiting,
      hcalled, List.append_assoc]

/-! ### Pruning -/

theorem openListing_eq_ok (hopen : kernel.openListing table = .ok own) :
    own = table.lowestFree := by
  rw [Kernel.openListing] at hopen
  split at hopen
  · cases hopen
  · split at hopen
    · exact (Except.ok.inj hopen).symm
    · cases hopen

/-- The listing opens on a number that was free. -/
theorem not_mem_of_openListing (hopen : kernel.openListing table = .ok own) : own ∉ table :=
  openListing_eq_ok hopen ▸ table.lowestFree_not_mem

/-- With a number free below the limit, a working listing opens. -/
theorem openListing_of_free (hworks : kernel.openFailure = none)
    (hfree : ∃ n, n < kernel.limit ∧ n ∉ table) :
    kernel.openListing table = .ok table.lowestFree := by
  obtain ⟨n, hlimit, hn⟩ := hfree
  rw [Kernel.openListing, hworks]
  exact if_pos (Nat.lt_of_le_of_lt (Table.lowestFree_le hn) hlimit)

theorem prune_of_error {errno : Errno} (hopen : kernel.openListing table = .error errno) :
    prune kernel keep table = ⟨table, [], .error errno, none⟩ := by
  rw [prune, hopen]

/-- Pruning through an open listing reads it on, then closes it. -/
theorem prune_of_ok (keep : Int) (hopen : kernel.openListing table = .ok own) {reads : Pruning}
    (hreads : pruneReads kernel keep own (kernel.listing.bound (table.insert own)) {}
      (table.insert own) = reads) :
    (prune kernel keep table).table = (kernel.close reads.table own).2 ∧
      (prune kernel keep table).attempts = reads.attempts ∧
      (prune kernel keep table).result = reads.result := by
  rw [prune, hopen]
  simp only [hreads]
  split
  · next h => exact ⟨by rw [h], rfl, rfl⟩
  · next h => exact ⟨by rw [h], rfl, rfl⟩

/-- A valid table with the listing's own descriptor in it has short names only. -/
theorem shortNamed_insert (hvalid : table.Valid) :
    (table.insert table.lowestFree).ShortNamed := by
  -- The listing's own number is at most the one past the largest, which has ten digits too.
  have hlarge : maxNumber + 1 ∉ table := fun h => absurd (hvalid _ h) (Nat.not_succ_le_self _)
  have hfree := Table.lowestFree_le hlarge
  intro n hn
  rw [Table.mem_insert] at hn
  rcases hn with rfl | hn
  · exact Nat.lt_of_le_of_lt hfree (by decide)
  · exact Nat.lt_of_le_of_lt (hvalid n hn) (by decide)

/-- When the listing begins, the open descriptors above the threshold are awaiting, and not its
    own. -/
theorem awaiting_opened (hvalid : table.Valid) :
    Listing.awaiting keep table.lowestFree (table.insert table.lowestFree) 0 =
      table.numbers.filter fun n : Nat => keep < (n : Int) := by
  rw [Listing.awaiting_eq_filter, ← Table.filter_numbers_insert table.lowestFree_not_mem]
  refine List.filter_congr fun n hn => ?_
  rcases Table.mem_insert.1 hn with rfl | hmem
  · simp
  · simp [hvalid n hmem]

/-- Pruning calls for numbers above the threshold only, and never for the listing's own. -/
theorem lt_of_mem_called {n : Nat} (hn : n ∈ (prune kernel keep table).called) :
    keep < (n : Int) ∧ n ≠ table.lowestFree := by
  cases hopen : kernel.openListing table with
  | error errno =>
    rw [prune_of_error hopen] at hn
    exact absurd hn List.not_mem_nil
  | ok own =>
    rw [Pruning.called, (prune_of_ok keep hopen rfl).2.1] at hn
    rw [← openListing_eq_ok hopen]
    exact (pruneReads_calls _ _ _ _ _ _).1 n hn

/-- A descriptor is open after pruning if it was open and not called for, or does not close. The
    listing's own stays only if it does not close. -/
theorem mem_prune (kernel : Kernel) (keep : Int) (table : Table) (n : Nat) :
    n ∈ (prune kernel keep table).table ↔
      n ∈ table ∧ (n ∈ (prune kernel keep table).called → kernel.closeFailure n ≠ none) ∨
        kernel.openListing table = .ok n ∧ kernel.closeFailure n ≠ none := by
  cases hopen : kernel.openListing table with
  | error errno =>
    rw [prune_of_error hopen]
    simp [Pruning.called]
  | ok own =>
    obtain ⟨htable, hattempts, _⟩ := prune_of_ok keep hopen rfl
    obtain ⟨_, hreads, _⟩ := pruneReads_calls kernel keep own
      (kernel.listing.bound (table.insert own)) {} (table.insert own)
    have hfree := not_mem_of_openListing hopen
    rw [Pruning.called, hattempts, ← Pruning.called, htable, kernel.mem_close, hreads,
      kernel.mem_closeAll, Table.mem_insert]
    constructor
    · rintro ⟨⟨rfl | hn, hcall⟩, hown⟩
      · exact Or.inr ⟨rfl, hown rfl⟩
      · exact Or.inl ⟨hn, hcall⟩
    · rintro (⟨hn, hcall⟩ | ⟨heq, hfail⟩)
      · exact ⟨⟨Or.inr hn, hcall⟩, fun h => absurd (h ▸ hn) hfree⟩
      · obtain rfl := Except.ok.inj heq
        exact ⟨⟨Or.inl rfl, fun _ => hfail⟩, fun _ => hfail⟩

/-- Pruning by the kernel's own listing calls for the open descriptors above the threshold in
    ascending order, for all of them unless a read fails. -/
theorem prune_live (keep : Int) (hlive : kernel.listing.scripted = none) (hvalid : table.Valid)
    (hopen : kernel.openListing table = .ok own) :
    ∃ rest, (table.numbers.filter fun n : Nat => keep < (n : Int)) =
        (prune kernel keep table).called ++ rest ∧
      (prune kernel keep table).attempts =
        ((prune kernel keep table).called.map fun n => ⟨n, kernel.closeFailure n⟩) ∧
      ((prune kernel keep table).result = .ok () → rest = []) ∧
      (kernel.listing.failure = none → (prune kernel keep table).result = .ok ()) := by
  obtain rfl := openListing_eq_ok hopen
  obtain ⟨rest, hcalled, hok, hfail⟩ := pruneReads_live keep
    table.lowestFree hlive _ {} _ (shortNamed_insert hvalid) (remaining_lt_bound _ _)
  obtain ⟨_, hattempts, hresult⟩ := prune_of_ok keep hopen rfl
  have hcalls := (pruneReads_calls kernel keep table.lowestFree
    (kernel.listing.bound (table.insert table.lowestFree)) {} (table.insert table.lowestFree)).2.2
  rw [awaiting_opened hvalid] at hcalled
  rw [Pruning.called, hattempts, hresult, ← Pruning.called]
  refine ⟨rest, hcalled, hcalls.trans ?_, hok, hfail⟩
  -- No number is called for twice and all were open, so no call finds its number closed.
  have hnodup := (List.nodup_append.1 (hcalled ▸ table.nodup_filter_numbers _)).1
  refine kernel.attempts_closeAll _ _ hnodup fun n hn => Table.mem_insert.2 (Or.inr ?_)
  exact (List.mem_filter.1 (hcalled ▸ List.mem_append_left rest hn)).1

theorem mem_prune_of_closesAll (hclose : kernel.ClosesAll table) (n : Nat) :
    n ∈ (prune kernel keep table).table ↔ n ∈ table ∧ n ∉ (prune kernel keep table).called := by
  have hlisting : ¬(kernel.openListing table = .ok n ∧ kernel.closeFailure n ≠ none) := fun h =>
    h.2 (hclose n (Table.mem_insert.2 (Or.inl (openListing_eq_ok h.1))))
  rw [mem_prune, or_iff_left hlisting]
  refine and_congr_right fun hn => imp_congr_right fun _ => ?_
  rw [hclose n (Table.mem_insert.2 (Or.inr hn))]
  exact ⟨fun h => h rfl, False.elim⟩

/-- A listing read to its end names every open descriptor above the threshold. -/
theorem mem_called_of_ok (hlive : kernel.listing.scripted = none) (hvalid : table.Valid)
    (hresult : (prune kernel keep table).result = .ok ()) (n : Nat) :
    n ∈ (prune kernel keep table).called ↔ n ∈ table ∧ keep < (n : Int) := by
  cases hopen : kernel.openListing table with
  | error errno =>
    rw [prune_of_error hopen] at hresult
    cases hresult
  | ok own =>
    obtain ⟨rest, hcalled, _, hok, _⟩ := prune_live keep hlive hvalid hopen
    rw [hok hresult, List.append_nil] at hcalled
    rw [← hcalled, List.mem_filter, decide_eq_true_eq, Table.mem_numbers]

/-- A working listing ends well and names exactly the open descriptors above the threshold, and each
    call for one fails as the kernel says. -/
theorem prune_of_works (keep : Int) (hworks : kernel.ListingWorks) (hvalid : table.Valid)
    (hfree : ∃ n, n < kernel.limit ∧ n ∉ table) :
    (prune kernel keep table).result = .ok () ∧
      (prune kernel keep table).called = (table.numbers.filter fun n : Nat => keep < (n : Int)) ∧
      (prune kernel keep table).attempts =
        ((prune kernel keep table).called.map fun n => ⟨n, kernel.closeFailure n⟩) := by
  obtain ⟨rest, hcalled, hattempts, hok, hresult⟩ := prune_live keep
    hworks.live hvalid (openListing_of_free hworks.opens hfree)
  rw [hok (hresult hworks.reads), List.append_nil] at hcalled
  exact ⟨hresult hworks.reads, hcalled.symm, hattempts⟩

end CleanLaunch.Descriptor
