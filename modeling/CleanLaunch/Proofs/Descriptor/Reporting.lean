import CleanLaunch.Proofs.Descriptor.Decoding

/-! What a caller learns of pruning its own descriptors.

    A pruning succeeds or fails as its transcript says: `closeAbove_of_heard`,
    `closeAbove_of_failure`. Its log has a warning for every close that failed, in the order of the
    calls, and behind them one error if the listing failed, and its table is what closing the
    descriptors named so far leaves. What is named is read off the records that the reads are made of.
    `Reported` says all of it, and it holds of every pruning whose listing has no record shorter than
    a head: `closeAbove_reported`. -/

namespace CleanLaunch.Descriptor

/-- The numbers that the records of some reads name, above the threshold and apart from the
    listing's own. -/
def namedAbove (keep : Int) (own : Nat) (reads : List Bytes) : List Nat :=
  (reads.flatMap Read.numbers).filter fun n : Nat => keep < (n : Int) && n != own

/-- The level and the message of every record in a log. -/
def recordsOf (log : List LogEvent) : List (Level × Bytes) :=
  log.map fun event => (event.level, event.message)

/-- The record of a close that failed. -/
def warningOf (failed : Nat × Errno) : Level × Bytes :=
  (.warn, utf8 "error closing fd=" ++ Bytes.decimal failed.1 ++ utf8 ": " ++ failed.2.text)

theorem recordsOf_closeFailed (failed : List (Nat × Errno)) :
    recordsOf (failed.map fun failure => .closeFailed failure.1 failure.2) =
      failed.map warningOf := by
  rw [recordsOf, List.map_map]
  rfl

variable {kernel : Kernel} {keep : Int} {table : Table}

theorem called_eq_namedAbove (kernel : Kernel) (keep : Int) (table : Table) :
    (prune kernel keep table).called =
      namedAbove keep table.lowestFree (kernel.transcript keep table).reads :=
  called_eq_filter kernel keep table

/-- Pruning by a listing that was read to its end. -/
theorem closeAbove_of_heard (hfail : (kernel.transcript keep table).failure = none) :
    closeAbove kernel keep table =
      ⟨(prune kernel keep table).table,
        (kernel.failed table (prune kernel keep table).called).map fun failed =>
          .closeFailed failed.1 failed.2, .ok ()⟩ := by
  have hresult := result_eq kernel keep table
  rw [Transcript.result, hfail] at hresult
  simp only [closeAbove, hresult, failures_prune]

/-- Pruning by a listing that failed. -/
theorem closeAbove_of_failure {errno : Errno}
    (hfail : (kernel.transcript keep table).failure = some errno) :
    closeAbove kernel keep table =
      ⟨(prune kernel keep table).table,
        (kernel.failed table (prune kernel keep table).called).map
          (fun failed => .closeFailed failed.1 failed.2) ++ [.listingUnavailable errno],
        .error (.enumerationUnavailable errno)⟩ := by
  have hresult := result_eq kernel keep table
  rw [Transcript.result, hfail] at hresult
  simp only [closeAbove, hresult, failures_prune]

theorem closeAbove_table (kernel : Kernel) (keep : Int) (table : Table) :
    (closeAbove kernel keep table).table = (prune kernel keep table).table := by
  cases hfail : (kernel.transcript keep table).failure with
  | none => rw [closeAbove_of_heard hfail]
  | some errno => rw [closeAbove_of_failure hfail]

/-- A pruning fails exactly as its transcript does. -/
theorem closeAbove_result_iff (errno : Errno) :
    (closeAbove kernel keep table).result = .error (.enumerationUnavailable errno) ↔
      (kernel.transcript keep table).failure = some errno := by
  cases hfail : (kernel.transcript keep table).failure with
  | none => simp [closeAbove_of_heard hfail]
  | some cause => simp [closeAbove_of_failure hfail]

/-- What a pruning reports and leaves, by what was heard of the listing. -/
structure Reported (kernel : Kernel) (keep : Int) (table : Table) (heard : Transcript)
    (report : PruneReport) : Prop where
  /-- What was heard is whole records, read after read with bytes behind them that form none, and it
      names what the names of these records give. -/
  decoded : ∃ division : List RecordRead, heard.reads = division.map RecordRead.bytes ∧
    namedAbove keep table.lowestFree heard.reads =
      (recordNumbers division).filter fun n : Nat => keep < (n : Int) && n != table.lowestFree
  /-- Of a script everything is heard up to the read that fails or, before it, the first empty
      one. -/
  script : ∀ own reads, kernel.openListing table = .ok own →
    kernel.listing.scripted = some reads →
    heard.reads = (kernel.listing.untilFailure reads).takeWhile (· ≠ [])
  /-- It fails with an error exactly if the listing does not open, or the read behind those that
      were heard fails, with that error. -/
  error_iff : ∀ errno, report.result = .error (.enumerationUnavailable errno) ↔
    kernel.openListing table = .error errno ∨ (∃ own, kernel.openListing table = .ok own) ∧
      kernel.listing.failure = some (heard.reads.length, errno)
  ok_or_error : report.result = .ok () ∨
    ∃ errno, report.result = .error (.enumerationUnavailable errno)
  log_of_ok : report.result = .ok () → recordsOf report.log =
    (kernel.failed table (namedAbove keep table.lowestFree heard.reads)).map warningOf
  log_of_error : ∀ errno, report.result = .error (.enumerationUnavailable errno) →
    recordsOf report.log =
      (kernel.failed table (namedAbove keep table.lowestFree heard.reads)).map warningOf ++
        [(.error, utf8 "cannot open /proc/self/fd: " ++ errno.text)]
  /-- Only what was named by the reads that were heard is closed, and the listing's own, each unless
      it does not close. -/
  mem_table : ∀ n, n ∈ report.table ↔
    n ∈ table ∧ (n ∈ namedAbove keep table.lowestFree heard.reads → kernel.closeFailure n ≠ none) ∨
      kernel.openListing table = .ok n ∧ kernel.closeFailure n ≠ none
  unopened : ∀ errno, kernel.openListing table = .error errno →
    report.table = table ∧ report.log = [.listingUnavailable errno]
  table_eq : report.table = (prune kernel keep table).table

/-- Every pruning of a caller's own descriptors reports what went wrong with it, all of it and in
    order, and leaves the table that its calls lead to. -/
theorem closeAbove_reported (kernel : Kernel) (keep : Int) (table : Table)
    (hscan : kernel.listing.Scannable) :
    Reported kernel keep table (kernel.transcript keep table) (closeAbove kernel keep table) where
  decoded := by
    obtain ⟨division, hreads, hnumbers⟩ := exists_division hscan keep table
    exact ⟨division, hreads, congrArg _ hnumbers⟩
  script _ _ hopen hscripted := reads_transcript hscripted keep hopen
  error_iff errno := by rw [closeAbove_result_iff, failure_transcript]
  ok_or_error := by
    cases hfail : (kernel.transcript keep table).failure with
    | none => exact Or.inl (by rw [closeAbove_of_heard hfail])
    | some errno => exact Or.inr ⟨errno, by rw [closeAbove_of_failure hfail]⟩
  log_of_ok hok := by
    cases hfail : (kernel.transcript keep table).failure with
    | none => rw [closeAbove_of_heard hfail, recordsOf_closeFailed, called_eq_namedAbove]
    | some errno =>
      rw [closeAbove_of_failure hfail] at hok
      cases hok
  log_of_error errno herror := by
    rw [closeAbove_of_failure (closeAbove_result_iff errno |>.1 herror), recordsOf,
      List.map_append, ← recordsOf, recordsOf_closeFailed, called_eq_namedAbove]
    rfl
  mem_table n := by rw [closeAbove_table, mem_prune, called_eq_namedAbove]
  unopened errno hopen := by
    have hfail : (kernel.transcript keep table).failure = some errno := by
      rw [transcript_of_error keep hopen]
    rw [closeAbove_of_failure hfail, prune_of_error hopen]
    exact ⟨rfl, rfl⟩
  table_eq := closeAbove_table kernel keep table

/-- Two reads are heard before one fails; the second names what the first closed, a kept descriptor,
    and one that does not close. What the third names stays open. -/
theorem closeAbove_reported_breaking_off :
    let record (name : String) := (Record.padded 1 1 10 (utf8 name)).encode
    let reads := [record "5", record "5" ++ record "1" ++ record "7", record "9"]
    let kernel : Kernel :=
      { listing := { scripted := some reads, failure := some (2, .EIO) }
        closeFailure := fun n => if n = 7 then some .EINTR else none }
    let table := Table.ofList [0, 1, 2, 5, 7, 9]
    let report := closeAbove kernel 2 table
    kernel.listing.Scannable ∧ report.result = .error (.enumerationUnavailable .EIO) ∧
      recordsOf report.log =
        [(.warn, utf8 "error closing fd=5: EBADF: Bad file number"),
          (.warn, utf8 "error closing fd=7: EINTR: Interrupted system call"),
          (.error, utf8 "cannot open /proc/self/fd: EIO: I/O error")] ∧
      5 ∉ report.table ∧ 7 ∈ report.table ∧ 9 ∈ report.table := by
  intro record reads kernel table report
  have hscan : kernel.listing.Scannable := by
    rintro _ ⟨⟩
    decide
  have hreported := closeAbove_reported kernel 2 table hscan
  have hheard : (kernel.transcript 2 table).reads = reads.take 2 :=
    (hreported.script 3 reads (by decide) rfl).trans (by decide)
  have hnamed : namedAbove 2 table.lowestFree (kernel.transcript 2 table).reads = [5, 5, 7] := by
    rw [hheard]
    decide
  have herror : report.result = .error (.enumerationUnavailable .EIO) :=
    (hreported.error_iff .EIO).2 (Or.inr ⟨⟨3, by decide⟩, by rw [hheard]; rfl⟩)
  have hmem := hreported.mem_table
  rw [hnamed] at hmem
  refine ⟨hscan, herror, ?_, ?_, ?_, ?_⟩
  · rw [hreported.log_of_error .EIO herror, hnamed]
    decide
  · rw [hmem]
    decide
  · rw [hmem]
    decide
  · rw [hmem]
    decide

end CleanLaunch.Descriptor
