import CleanLaunch.Proofs.Descriptor.Transcript

/-! Which open descriptors a listing reports before it fails.

    The entries that some reads bring are first ones of those pending: `Listing.prefix_reported`. They
    are said by the listing and the table it began with, since what is closed between two reads has
    been passed by the first of them: `Listing.reported_congr`. A descriptor is `Unlisted` if the
    listing does not open, or a read of it fails before the entry for that descriptor was reported.
    Of the open descriptors above the threshold pruning calls for exactly the others,
    `not_mem_called_iff`, so the unlisted ones are those that no read names which it hears:
    `unlisted_iff`. -/

namespace CleanLaunch.Descriptor

namespace Listing

/-- The entries that the next reads of the kernel's own listing of a table bring. -/
def reported (listing : Listing) (table : Table) : (count : Nat) → Cursor → List (Nat × Bytes)
  | 0, _ => []
  | count + 1, cursor =>
    listing.chosen table cursor ++
      listing.reported table count ⟨cursor.reads + 1, (listing.liveRead table cursor).2⟩

theorem prefix_reported (listing : Listing) (table : Table) : ∀ (count : Nat) (cursor : Cursor),
    listing.reported table count cursor <+: pending table cursor.position
  | 0, _ => List.nil_prefix
  | count + 1, cursor => by
    rw [reported, listing.pending_next, List.prefix_append_right_inj]
    exact listing.prefix_reported table count _

/-- A table with the same pending entries has the same ones reported. -/
theorem reported_congr (listing : Listing) {a b : Table} : ∀ (count : Nat) {cursor : Cursor},
    pending a cursor.position = pending b cursor.position →
    listing.reported a count cursor = listing.reported b count cursor
  | 0, _, _ => rfl
  | count + 1, cursor, hsame => by
    have hchosen : listing.chosen a cursor = listing.chosen b cursor := by
      rw [chosen, chosen, hsame]
    have hnext : (listing.liveRead a cursor).2 = (listing.liveRead b cursor).2 := by
      rw [liveRead, liveRead, hchosen]
    have hlater : pending a (listing.liveRead b cursor).2 =
        pending b (listing.liveRead b cursor).2 := by
      have hle := listing.position_le_next b cursor
      rw [pending_of_le hle, pending_of_le hle, hsame]
    rw [reported, reported, hchosen, hnext]
    exact congrArg _ (listing.reported_congr count hlater)

end Listing

variable {kernel : Kernel} {keep : Int} {table : Table}

/-- Until a read fails, reading on calls for the descriptors that are reported before that read. -/
theorem mem_called_of_failure (keep : Int) (own : Nat) (hlive : kernel.listing.scripted = none)
    {count : Nat} {errno : Errno} (hfail : kernel.listing.failure = some (count, errno)) (n : Nat) :
    ∀ (bound : Nat) (cursor : Cursor) (table : Table), table.ShortNamed →
      kernel.listing.remaining table cursor < bound → cursor.reads ≤ count →
      (n ∈ (pruneReads kernel keep own bound cursor table).called ↔
        (n ≤ maxNumber ∧ keep < (n : Int) ∧ n ≠ own) ∧
          (Listing.placeOf n, nameOf n) ∈
            kernel.listing.reported table (count - cursor.reads) cursor)
  | 0, _, _, _, hbound, _ => absurd hbound (Nat.not_lt_zero _)
  | bound + 1, cursor, table, hshort, hbound, hcount => by
    rcases read_live hlive table cursor with ⟨_, cause, _, hread⟩ | hread
    · obtain ⟨reads, hreads, hat⟩ := (read_eq_error_iff _ _ _ _).1 hread
      obtain ⟨rfl, rfl⟩ := Prod.mk.inj (Option.some.inj (hfail.symm.trans hat))
      rw [pruneReads_of_error hread, Nat.sub_eq_zero_of_le hreads, Listing.reported]
      exact ⟨fun h => absurd h List.not_mem_nil, fun h => absurd h.2 List.not_mem_nil⟩
    by_cases hpending : Listing.pending table cursor.position = []
    · have hnone := kernel.listing.prefix_reported table (count - cursor.reads) cursor
      rw [hpending, List.prefix_nil] at hnone
      rw [Listing.liveRead_eq_nil hpending] at hread
      rw [pruneReads_of_end hread, hnone]
      exact ⟨fun h => absurd h List.not_mem_nil, fun h => absurd h.2 List.not_mem_nil⟩
    have hchosen := kernel.listing.chosen_ne_nil hshort hpending
    have hne := Listing.liveRead_ne_nil hchosen
    have hless : cursor.reads < count := lt_of_read_eq_ok hread hfail
    obtain ⟨later, hlater⟩ : ∃ later, count - cursor.reads = later + 1 :=
      ⟨count - cursor.reads - 1, by omega⟩
    have hsub := kernel.closeAll_sublist
      (targets keep own (kernel.listing.liveRead table cursor).1) table
    have hfewer := remaining_decreases hne hread hsub
    have hrest := mem_called_of_failure keep own hlive hfail n bound
      ⟨cursor.reads + 1, (kernel.listing.liveRead table cursor).2⟩ _
      (fun n hn => hshort n (hsub.subset hn)) (by omega) hless
    have hremaining : count - (cursor.reads + 1) = later := by omega
    rw [hremaining, kernel.listing.reported_congr later
      (pending_closeAll kernel keep own hshort cursor)] at hrest
    rw [called_of_read hne hread, List.mem_append, hrest,
      kernel.listing.mem_targets_liveRead hshort, hlater, Listing.reported, List.mem_append,
      and_or_left]

/-- The listing of a table does not open, or a read of it fails and none before that one reported the
    descriptor. -/
def Kernel.Unlisted (kernel : Kernel) (table : Table) (n : Nat) : Prop :=
  (∃ errno, kernel.openListing table = .error errno) ∨
    ∃ own count errno, kernel.openListing table = .ok own ∧
      kernel.listing.failure = some (count, errno) ∧
      (Listing.placeOf n, nameOf n) ∉ kernel.listing.reported (table.insert own) count {}

/-- Where the listing opens and a read fails, what was reported before that read decides. -/
theorem unlisted_of_failure {own count : Nat} {errno : Errno}
    (hopen : kernel.openListing table = .ok own)
    (hfail : kernel.listing.failure = some (count, errno)) (n : Nat) :
    kernel.Unlisted table n ↔ (Listing.placeOf n, nameOf n) ∉
      kernel.listing.reported (table.insert own) count {} := by
  constructor
  · rintro (⟨cause, herror⟩ | ⟨_, _, _, hother, hsame, hnot⟩)
    · rw [hopen] at herror
      cases herror
    · obtain rfl := Except.ok.inj (hopen.symm.trans hother)
      obtain ⟨rfl, rfl⟩ := Prod.mk.inj (Option.some.inj (hfail.symm.trans hsame))
      exact hnot
  · exact fun hnot => Or.inr ⟨own, count, errno, hopen, hfail, hnot⟩

/-- The listing of a table opens, and no read of it fails before all of its entries are reported. -/
def Kernel.ListsAll (kernel : Kernel) (table : Table) : Prop :=
  ∃ own, kernel.openListing table = .ok own ∧ ∀ count errno,
    kernel.listing.failure = some (count, errno) →
    kernel.listing.reported (table.insert own) count {} = Listing.entries (table.insert own)

theorem not_unlisted_of_listsAll (hlists : kernel.ListsAll table) {n : Nat} (hn : n ∈ table) :
    ¬kernel.Unlisted table n := by
  obtain ⟨own, hopen, hall⟩ := hlists
  rintro (⟨errno, herror⟩ | ⟨_, count, errno, hother, hfail, hnot⟩)
  · rw [hopen] at herror
    cases herror
  · obtain rfl := Except.ok.inj (hopen.symm.trans hother)
    rw [hall count errno hfail] at hnot
    exact hnot (Listing.mem_entries (Table.mem_insert.2 (Or.inr hn)))

theorem Kernel.ListingWorks.listsAll (hworks : kernel.ListingWorks)
    (hfree : ∃ n, n < kernel.limit ∧ n ∉ table) : kernel.ListsAll table := by
  refine ⟨_, openListing_of_free hworks.opens hfree, fun count errno hfail => ?_⟩
  rw [hworks.reads] at hfail
  cases hfail

/-- Of the open descriptors above the threshold pruning does not call for the unlisted ones. -/
theorem not_mem_called_iff (hlive : kernel.listing.scripted = none) (hvalid : table.Valid) {n : Nat}
    (hn : n ∈ table) (hkeep : keep < (n : Int)) :
    n ∉ (prune kernel keep table).called ↔ kernel.Unlisted table n := by
  cases hopen : kernel.openListing table with
  | error errno =>
    rw [prune_of_error hopen]
    exact ⟨fun _ => Or.inl ⟨errno, hopen⟩, fun _ => List.not_mem_nil⟩
  | ok own =>
    obtain rfl := openListing_eq_ok hopen
    have hown : n ≠ table.lowestFree := Table.ne_lowestFree hn
    cases hfail : kernel.listing.failure with
    | none =>
      obtain ⟨_, _, _, _, hok⟩ := prune_live keep hlive hvalid hopen
      have hlists : kernel.ListsAll table := ⟨_, hopen, fun _ _ h => by rw [hfail] at h; cases h⟩
      rw [mem_called_of_ok hlive hvalid (hok hfail)]
      exact ⟨fun h => absurd ⟨hn, hkeep⟩ h, fun h => absurd h (not_unlisted_of_listsAll hlists hn)⟩
    | some failure =>
      rw [unlisted_of_failure hopen hfail, Pruning.called, (prune_of_ok keep hopen rfl).2.1,
        ← Pruning.called, mem_called_of_failure keep _ hlive hfail n _ {} _
          (shortNamed_insert hvalid) (remaining_lt_bound _ _) (Nat.zero_le _),
        and_iff_right ⟨hvalid n hn, hkeep, hown⟩]
      rfl

/-- An open descriptor above the threshold is unlisted exactly if no read that is heard names it. -/
theorem unlisted_iff (hlive : kernel.listing.scripted = none) (hvalid : table.Valid) {n : Nat}
    (hn : n ∈ table) (hkeep : keep < (n : Int)) :
    kernel.Unlisted table n ↔
      ∀ read ∈ (kernel.transcript keep table).reads, n ∉ Read.numbers read := by
  have hown : n ≠ table.lowestFree := Table.ne_lowestFree hn
  rw [← not_mem_called_iff hlive hvalid hn hkeep, mem_called, and_iff_left ⟨hkeep, hown⟩]
  exact ⟨fun hnot read hread hnamed => hnot ⟨read, hread, hnamed⟩,
    fun hnone ⟨read, hread, hnamed⟩ => hnone read hread hnamed⟩

end CleanLaunch.Descriptor
