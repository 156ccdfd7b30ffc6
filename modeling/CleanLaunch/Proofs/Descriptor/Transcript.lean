import CleanLaunch.Proofs.Descriptor.Pruning

/-! What a process hears while it prunes its descriptors.

    The transcript of a pruning holds the reads that it got from the listing, in order, and the
    failure that kept it from reading on. Pruning calls for what the records of these reads name,
    above the threshold and apart from the listing's own descriptor, and for nothing else:
    `called_eq_filter`, `mem_called`; how each call ends, `attempts_prune` says. It ends as its
    transcript does: `result_eq`. The transcript has a failure exactly if the listing does not open
    or the read after the last one that was got is one that fails: `failure_transcript`. So it is
    never the bound on the number of reads that ends a pruning. Of a script it has every read up to
    there: `reads_transcript`. -/

namespace CleanLaunch.Descriptor

/-- The descriptors that the records of a read name, in its order. -/
def Read.numbers (read : Bytes) : List Nat := (Read.names read).filterMap parse?

/-- The reads that a process gets from a listing, and the error that keeps it from reading on. -/
structure Transcript where
  reads : List Bytes
  failure : Option Errno

/-- The transcript of reading on from a cursor, while what each read names is closed. -/
def transcriptFrom (kernel : Kernel) (keep : Int) (own : Nat) :
    (bound : Nat) → Cursor → Table → Transcript
  | 0, _, _ => ⟨[], none⟩
  | bound + 1, cursor, table =>
    match kernel.listing.read table cursor with
    | .error errno => ⟨[], some errno⟩
    | .ok ([], _) => ⟨[], none⟩
    | .ok (read, next) =>
      let closed := (kernel.closeAll table (targets keep own read)).1
      let later := transcriptFrom kernel keep own bound next closed
      { later with reads := read :: later.reads }

/-- The transcript of pruning a table; a listing that does not open is a failure before any read. -/
def Kernel.transcript (kernel : Kernel) (keep : Int) (table : Table) : Transcript :=
  match kernel.openListing table with
  | .error errno => ⟨[], some errno⟩
  | .ok own =>
    transcriptFrom kernel keep own (kernel.listing.bound (table.insert own)) {} (table.insert own)

variable {kernel : Kernel} {keep : Int} {own bound : Nat} {cursor : Cursor} {table : Table}

/-! ### Reading on from a cursor -/

theorem transcriptFrom_of_error {errno : Errno}
    (hread : kernel.listing.read table cursor = .error errno) :
    transcriptFrom kernel keep own (bound + 1) cursor table = ⟨[], some errno⟩ := by
  rw [transcriptFrom, hread]

theorem transcriptFrom_of_end {next : Cursor}
    (hread : kernel.listing.read table cursor = .ok ([], next)) :
    transcriptFrom kernel keep own (bound + 1) cursor table = ⟨[], none⟩ := by
  rw [transcriptFrom, hread]

theorem transcriptFrom_of_read {read : Bytes} {next : Cursor} (hne : read ≠ [])
    (hread : kernel.listing.read table cursor = .ok (read, next)) :
    transcriptFrom kernel keep own (bound + 1) cursor table =
      ⟨read :: (transcriptFrom kernel keep own bound next
          (kernel.closeAll table (targets keep own read)).1).reads,
        (transcriptFrom kernel keep own bound next
          (kernel.closeAll table (targets keep own read)).1).failure⟩ := by
  obtain ⟨byte, rest, rfl⟩ := List.exists_cons_of_ne_nil hne
  rw [transcriptFrom, hread]

/-- The outcome of a pruning with this transcript. -/
def Transcript.result (transcript : Transcript) : Except Errno Unit :=
  match transcript.failure with
  | some errno => .error errno
  | none => .ok ()

/-- Reading on calls for what the reads name, and ends as they do. -/
theorem pruneReads_eq (kernel : Kernel) (keep : Int) (own : Nat) :
    ∀ (bound : Nat) (cursor : Cursor) (table : Table),
    (pruneReads kernel keep own bound cursor table).called =
        (transcriptFrom kernel keep own bound cursor table).reads.flatMap (targets keep own) ∧
      (pruneReads kernel keep own bound cursor table).result =
        (transcriptFrom kernel keep own bound cursor table).result
  | 0, _, _ => ⟨rfl, rfl⟩
  | bound + 1, cursor, table => by
    rcases read_cases kernel.listing table cursor with
      ⟨errno, hread⟩ | ⟨next, hread⟩ | ⟨read, next, hne, hread⟩
    · rw [pruneReads_of_error hread, transcriptFrom_of_error hread]
      exact ⟨rfl, rfl⟩
    · rw [pruneReads_of_end hread, transcriptFrom_of_end hread]
      exact ⟨rfl, rfl⟩
    · obtain ⟨hcalled, hresult⟩ := pruneReads_eq kernel keep own bound next
        (kernel.closeAll table (targets keep own read)).1
      rw [called_of_read hne hread, result_of_read hne hread, transcriptFrom_of_read hne hread,
        hcalled, hresult, List.flatMap_cons]
      exact ⟨rfl, rfl⟩

/-- Of a script everything is heard up to the read that fails or, before it, the first empty one. -/
theorem reads_transcriptFrom {reads : List Bytes}
    (hscripted : kernel.listing.scripted = some reads) (keep : Int) (own : Nat) :
    ∀ (bound : Nat) (cursor : Cursor) (table : Table),
    kernel.listing.remaining table cursor < bound →
    (transcriptFrom kernel keep own bound cursor table).reads =
      ((kernel.listing.untilFailure reads).drop cursor.reads).takeWhile (· ≠ [])
  | 0, _, _, hbound => absurd hbound (Nat.not_lt_zero _)
  | bound + 1, cursor, table, hbound => by
    rcases read_cases kernel.listing table cursor with
      ⟨errno, hread⟩ | ⟨next, hread⟩ | ⟨read, next, hne, hread⟩
    · rw [transcriptFrom_of_error hread, drop_untilFailure_of_error reads hread]
      rfl
    · have hget := getD_untilFailure hscripted hread
      rw [transcriptFrom_of_end hread]
      cases hdrop : (kernel.listing.untilFailure reads).drop cursor.reads with
      | nil => rfl
      | cons first rest =>
        rw [List.getD_eq_getElem?_getD, ← List.head?_drop, hdrop] at hget
        exact (List.takeWhile_cons_of_neg (by simpa using hget)).symm
    · have hfewer := remaining_decreases hne hread
        (kernel.closeAll_sublist (targets keep own read) table)
      rw [transcriptFrom_of_read hne hread, drop_eq_cons hne (getD_untilFailure hscripted hread),
        List.takeWhile_cons_of_pos (by simpa using hne), ← reads_next hread]
      exact congrArg (read :: ·) (reads_transcriptFrom hscripted keep own bound next _ (by omega))

/-- Reading on fails exactly if the read after the last one that was got is one that fails. -/
theorem failure_transcriptFrom (kernel : Kernel) (keep : Int) (own : Nat) (errno : Errno) :
    ∀ (bound : Nat) (cursor : Cursor) (table : Table),
    kernel.listing.remaining table cursor < bound →
    (∀ failure, kernel.listing.failure = some failure → cursor.reads ≤ failure.1) →
    ((transcriptFrom kernel keep own bound cursor table).failure = some errno ↔
      kernel.listing.failure = some (cursor.reads +
        (transcriptFrom kernel keep own bound cursor table).reads.length, errno))
  | 0, _, _, hbound, _ => absurd hbound (Nat.not_lt_zero _)
  | bound + 1, cursor, table, hbound, hahead => by
    rcases read_cases kernel.listing table cursor with
      ⟨cause, hread⟩ | ⟨next, hread⟩ | ⟨read, next, hne, hread⟩
    · obtain ⟨count, hcount, hfail⟩ := (read_eq_error_iff _ _ _ _).1 hread
      have heq : count = cursor.reads := Nat.le_antisymm hcount (hahead _ hfail)
      rw [transcriptFrom_of_error hread, hfail, heq]
      simp
    · rw [transcriptFrom_of_end hread]
      refine ⟨fun h => (by cases h), fun h => ?_⟩
      exact absurd (lt_of_read_eq_ok hread h) (Nat.lt_irrefl _)
    · have hfewer := remaining_decreases hne hread
        (kernel.closeAll_sublist (targets keep own read) table)
      have hnext := reads_next hread
      rw [transcriptFrom_of_read hne hread, List.length_cons,
        failure_transcriptFrom kernel keep own errno bound next _ (by omega)
          fun failure hfail => hnext ▸ lt_of_read_eq_ok hread hfail, hnext,
        Nat.add_assoc, Nat.add_comm 1]

/-! ### Pruning -/

theorem transcript_of_error {errno : Errno} (keep : Int)
    (hopen : kernel.openListing table = .error errno) :
    kernel.transcript keep table = ⟨[], some errno⟩ := by
  rw [Kernel.transcript, hopen]

theorem transcript_of_ok (keep : Int) (hopen : kernel.openListing table = .ok own) :
    kernel.transcript keep table = transcriptFrom kernel keep own
      (kernel.listing.bound (table.insert own)) {} (table.insert own) := by
  rw [Kernel.transcript, hopen]

/-- Pruning ends as its transcript does. -/
theorem result_eq (kernel : Kernel) (keep : Int) (table : Table) :
    (prune kernel keep table).result = (kernel.transcript keep table).result := by
  cases hopen : kernel.openListing table with
  | error errno =>
    rw [prune_of_error hopen, transcript_of_error keep hopen]
    rfl
  | ok own =>
    rw [(prune_of_ok keep hopen rfl).2.2, (pruneReads_eq _ _ _ _ _ _).2,
      transcript_of_ok keep hopen]

/-- Pruning calls for what the records of its reads name, in their order, if it is above the
    threshold and not the listing's own. -/
theorem called_eq_filter (kernel : Kernel) (keep : Int) (table : Table) :
    (prune kernel keep table).called =
      ((kernel.transcript keep table).reads.flatMap Read.numbers).filter
        fun n : Nat => keep < (n : Int) && n != table.lowestFree := by
  cases hopen : kernel.openListing table with
  | error errno =>
    rw [prune_of_error hopen, transcript_of_error keep hopen]
    rfl
  | ok own =>
    rw [Pruning.called, (prune_of_ok keep hopen rfl).2.1, ← Pruning.called,
      (pruneReads_eq _ _ _ _ _ _).1, transcript_of_ok keep hopen, List.filter_flatMap,
      ← openListing_eq_ok hopen]
    rfl

theorem mem_called {n : Nat} : n ∈ (prune kernel keep table).called ↔
    (∃ read ∈ (kernel.transcript keep table).reads, n ∈ Read.numbers read) ∧
      keep < (n : Int) ∧ n ≠ table.lowestFree := by
  rw [called_eq_filter, List.mem_filter, List.mem_flatMap, Bool.and_eq_true, decide_eq_true_eq,
    bne_iff_ne]

/-- The calls of a pruning, made one after another with the listing's descriptor open. -/
theorem attempts_eq_closeAll (kernel : Kernel) (keep : Int) (table : Table) :
    (prune kernel keep table).attempts =
      (kernel.closeAll (table.insert table.lowestFree) (prune kernel keep table).called).2 := by
  cases hopen : kernel.openListing table with
  | error errno => rw [prune_of_error hopen, Pruning.called, List.map_nil, Kernel.closeAll]
  | ok own =>
    rw [Pruning.called, (prune_of_ok keep hopen rfl).2.1, ← openListing_eq_ok hopen]
    exact (pruneReads_calls _ _ _ _ _ _).2.2

/-- The listing fails exactly if it does not open, or if the read after the last one that was got is
    one that fails. -/
theorem failure_transcript (kernel : Kernel) (keep : Int) (table : Table) (errno : Errno) :
    (kernel.transcript keep table).failure = some errno ↔
      kernel.openListing table = .error errno ∨
        (∃ own, kernel.openListing table = .ok own) ∧
          kernel.listing.failure =
            some ((kernel.transcript keep table).reads.length, errno) := by
  cases hopen : kernel.openListing table with
  | error cause =>
    rw [transcript_of_error keep hopen]
    simp
  | ok own =>
    rw [transcript_of_ok keep hopen, failure_transcriptFrom kernel keep own errno _ _ _
      (remaining_lt_bound _ _) fun _ _ => Nat.zero_le _]
    simp

/-- What is heard of a script through an open listing. -/
theorem reads_transcript {reads : List Bytes} (hscripted : kernel.listing.scripted = some reads)
    (keep : Int) (hopen : kernel.openListing table = .ok own) :
    (kernel.transcript keep table).reads =
      (kernel.listing.untilFailure reads).takeWhile (· ≠ []) := by
  rw [transcript_of_ok keep hopen, reads_transcriptFrom hscripted keep own _ {} _
    (remaining_lt_bound _ _)]
  rfl

theorem reads_transcript_prefix {reads : List Bytes}
    (hscripted : kernel.listing.scripted = some reads) (keep : Int) (table : Table) :
    (kernel.transcript keep table).reads <+: reads := by
  cases hopen : kernel.openListing table with
  | error errno =>
    rw [transcript_of_error keep hopen]
    exact List.nil_prefix
  | ok own =>
    rw [reads_transcript hscripted keep hopen]
    exact (List.takeWhile_prefix _).trans (prefix_untilFailure kernel.listing reads)

/-- Each call of a pruning ends by the table before it and the numbers called for before. -/
theorem attempts_prune (kernel : Kernel) (keep : Int) (table : Table) :
    (prune kernel keep table).attempts = (prune kernel keep table).called.mapIdx
      fun i n => ⟨n, kernel.answer table ((prune kernel keep table).called.take i) n⟩ := by
  rw [attempts_eq_closeAll, kernel.attempts_closeAll_eq, List.mapIdx_eq_mapIdx_iff]
  intro i hi
  rw [kernel.answer_insert table _ (lt_of_mem_called (List.getElem_mem hi)).2]

/-- The calls of a pruning that fail, in order. -/
theorem failures_prune (kernel : Kernel) (keep : Int) (table : Table) :
    failures (prune kernel keep table).attempts =
      kernel.failed table (prune kernel keep table).called := by
  rw [attempts_prune, failures, List.mapIdx_eq_zipIdx_map, List.filterMap_map, Kernel.failed]
  rfl

end CleanLaunch.Descriptor
