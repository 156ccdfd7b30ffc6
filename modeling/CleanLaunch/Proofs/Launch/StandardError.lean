import CleanLaunch.Proofs.Launch.Keeping
import CleanLaunch.Proofs.Report.ChildLine
import Mathlib.Data.List.TakeDrop

/-! Everything a child writes to standard error.

    A child writes a line for each listed descriptor that does not close, in the order of the
    listing, one more if the listing fails, and one more if its call fails: `child_stderr`. The
    lines about descriptors and the listing are always whole: `Child.closeFailedLine_eq`,
    `Child.listingFailedLine_eq`. The line about the call holds the command, so it may be cut,
    and it names the error in full as long as command and error have at most 446 bytes together:
    `Child.execFailed_complete_iff`. -/

namespace CleanLaunch

open Descriptor (Kernel Table)

namespace Descriptor

theorem le_maxNumber_of_parse? {name : Bytes} {n : Nat} (hparse : parse? name = some n) :
    n ≤ maxNumber := by
  rw [parse?_eq] at hparse
  split at hparse
  · next h => exact Option.some.inj hparse ▸ h.2.2
  · cases hparse

/-- A record names no number that no descriptor can have. -/
theorem le_maxNumber_of_mem_numbers {read : Bytes} {n : Nat} (hn : n ∈ Read.numbers read) :
    n ≤ maxNumber := by
  obtain ⟨name, _, hparse⟩ := List.mem_filterMap.1 hn
  exact le_maxNumber_of_parse? hparse

/-- Only numbers that were called for can fail. -/
theorem mem_of_mem_failures {kernel : Kernel} {table : Table} {numbers : List Nat}
    {failed : Nat × Errno} (hfailed : failed ∈ failures (kernel.closeAll table numbers).2) :
    failed.1 ∈ numbers := by
  obtain ⟨attempt, hattempt, hmap⟩ := List.mem_filterMap.1 hfailed
  obtain ⟨errno, _, rfl⟩ := Option.map_eq_some_iff.1 hmap
  rw [← kernel.numbers_closeAll numbers table]
  exact List.mem_map_of_mem hattempt

/-- So no number that fails is one that no descriptor can have, whichever the reads name. -/
theorem le_maxNumber_of_failed {kernel : Kernel} {table : Table} {reads : List Bytes}
    {called : Nat → Bool} {failed : Nat × Errno}
    (hfailed : failed ∈
      failures (kernel.closeAll table ((reads.flatMap Read.numbers).filter called)).2) :
    failed.1 ≤ maxNumber := by
  have hlisted := (List.mem_filter.1 (mem_of_mem_failures hfailed)).1
  obtain ⟨read, _, hnumber⟩ := List.mem_flatMap.1 hlisted
  exact le_maxNumber_of_mem_numbers hnumber

end Descriptor

namespace Child

/-! ### Single lines -/

/-- No descriptor and no error makes the line about a failed close too long. -/
theorem closeFailedLine_eq {failed : Nat × Errno} (hnumber : failed.1 ≤ Descriptor.maxNumber) :
    closeFailedLine failed =
      utf8 "[WARN nowait_exec child] error closing fd=" ++ Bytes.decimal failed.1 ++ utf8 ": " ++
        failed.2.text ++ [10] := by
  have hopening : utf8 "[WARN nowait_exec child] error closing fd=" =
      ChildLine.opening .warn ++ utf8 "error closing fd=" := by decide
  have hlength : (ChildLine.opening .warn ++ utf8 "error closing fd=").length = 42 := by decide
  have hcolon : (utf8 ": ").length = 2 := by decide
  have hdigits : (Bytes.decimal failed.1).length ≤ 10 :=
    Bytes.length_decimal_le_ten (Nat.lt_of_le_of_lt hnumber (by decide))
  have htext := failed.2.length_text_le
  rw [closeFailedLine, LogEvent.closeFailedText, ChildLine.log_of_fits, hopening]
  · simp only [List.append_assoc]
  · simp only [List.length_append, ChildLine.capacity, ChildLine.bufferLength] at hlength ⊢
    omega

/-- No error makes the line about the listing too long. -/
theorem listingFailedLine_eq (errno : Errno) :
    listingFailedLine errno =
      utf8 "[WARN nowait_exec child] cannot list /proc/self/fd (" ++ errno.text ++
        utf8 "); closing by range" ++ [10] := by
  have hopening : utf8 "[WARN nowait_exec child] cannot list /proc/self/fd (" =
      ChildLine.opening .warn ++ utf8 "cannot list /proc/self/fd (" := by decide
  have hlength : (ChildLine.opening .warn ++ utf8 "cannot list /proc/self/fd (").length = 52 := by
    decide
  have hrange : (utf8 "); closing by range").length = 19 := by decide
  have htext := errno.length_text_le
  rw [listingFailedLine, ChildLine.log_of_fits, hopening]
  · simp only [List.append_assoc]
  · simp only [List.length_append, ChildLine.capacity, ChildLine.bufferLength] at hlength ⊢
    omega

/-- What the line about a failed call would hold if it could be of any length. -/
def execFailedWhole (command : Bytes) (errno : Errno) : Bytes :=
  utf8 "[ERROR nowait_exec child] error executing command '" ++ command ++ utf8 "' after fork: " ++
    errno.text

theorem execFailedLine_eq (command : Bytes) (errno : Errno) :
    execFailedLine command errno = (execFailedWhole command errno).take 511 ++ [10] := by
  have hopening : utf8 "[ERROR nowait_exec child] error executing command '" =
      ChildLine.opening .error ++ utf8 "error executing command '" := by decide
  rw [execFailedLine, ChildLine.emit_of_shows (ChildLine.shows_writeText (ChildLine.shows_pushBytes
    (ChildLine.shows_pushBytes (ChildLine.shows_start .error) _) _) _), execFailedWhole, hopening,
    List.append_assoc _ _ errno.text]
  rfl

/-- Behind the 65 bytes of its wording and the command, the line about a failed call names the error
    in full exactly if command and error have at most 446 bytes together. -/
theorem execFailed_complete_iff (command : Bytes) (errno : Errno) :
    ((execFailedWhole command errno).take 511).drop (65 + command.length) = errno.text ↔
      command.length + errno.text.length ≤ 446 := by
  have hwording : (utf8 "[ERROR nowait_exec child] error executing command '").length = 51 := by
    decide
  have hbehind : (utf8 "' after fork: ").length = 14 := by decide
  have hfront : (utf8 "[ERROR nowait_exec child] error executing command '" ++ command ++
      utf8 "' after fork: ").length = 65 + command.length := by
    rw [List.length_append, List.length_append, hwording, hbehind]
    omega
  have hpos := errno.length_text_pos
  rw [List.drop_take, execFailedWhole, ← hfront, List.drop_left, List.take_eq_self_iff, hfront]
  omega

/-! ### All lines -/

theorem cleanup_lines (kernel : Kernel) (table : Table) :
    (cleanup kernel table).lines =
      (Descriptor.failures (Descriptor.prune kernel standardError table).attempts).map
          closeFailedLine ++
        (kernel.transcript standardError table).failure.toList.map listingFailedLine := by
  have hresult := Descriptor.result_eq kernel standardError table
  rw [cleanup, hresult, Descriptor.Transcript.result]
  cases (kernel.transcript standardError table).failure with
  | none => exact (List.append_nil _).symm
  | some errno => rfl

end Child

/-- What a child writes to standard error: a whole line for each descriptor above standard error
    that the listing names and that does not close, in the order of the listing; then a whole line if
    the listing does not open or a read of it fails, and nothing about closing by range; then, if the
    call fails, as much of one line as fits into 511 bytes, whereupon the child exits. What the listing
    names is what the names of its records give, and standard error stays open all the while. -/
theorem child_stderr (launcher : Launcher) (kernel : LaunchKernel) (request : Request) {pid : Nat}
    {run : Child.Run} (hstandard : ∀ n ≤ 2, n ∈ launcher.table)
    (hscan : kernel.listing.Scannable)
    (hcreated : (launcher.spawn kernel request).fork = .created pid run) :
    let table := launcher.table
    let heard := kernel.transcript Child.standardError table
    let listed := (heard.reads.flatMap Descriptor.Read.numbers).filter fun n =>
      Child.standardError < n && n != table.lowestFree
    let attempts := (kernel.closeAll (table.insert table.lowestFree) listed).2
    run.stderr =
        (Descriptor.failures attempts).flatMap (fun failed =>
          utf8 "[WARN nowait_exec child] error closing fd=" ++ Bytes.decimal failed.1 ++ utf8 ": " ++
            failed.2.text ++ [10]) ++
        heard.failure.toList.flatMap (fun errno =>
          utf8 "[WARN nowait_exec child] cannot list /proc/self/fd (" ++ errno.text ++
            utf8 "); closing by range" ++ [10]) ++
        (kernel.execFailure run.call).toList.flatMap (fun errno =>
          (Child.execFailedWhole request.command errno).take 511 ++ [10]) ∧
      (∃ division : List Descriptor.RecordRead,
        heard.reads = division.map Descriptor.RecordRead.bytes ∧
          listed = (Descriptor.recordNumbers division).filter fun n =>
            Child.standardError < n && n != table.lowestFree) ∧
      (∀ errno, heard.failure = some errno ↔ kernel.openListing table = .error errno ∨
        (∃ own, kernel.openListing table = .ok own) ∧
          kernel.listing.failure = some (heard.reads.length, errno)) ∧
      (∀ errno, ((Child.execFailedWhole request.command errno).take 511).drop
          (65 + request.command.length) = errno.text ↔
        request.command.length + errno.text.length ≤ 446) ∧
      (run.ending = match kernel.execFailure run.call with
        | none => .replaced
        | some _ => .exited Child.execFailedStatus) ∧
      ∀ n ≤ 2, n ∈ run.call.descriptors := by
  intro table heard listed attempts
  have hrun := run_of_created hcreated
  have hattempts : (Descriptor.prune kernel.toKernel Child.standardError table).attempts =
      attempts := by
    rw [Descriptor.attempts_eq_closeAll, Descriptor.called_eq_filter]
    simp only [Int.ofNat_lt]
    rfl
  obtain ⟨division, hreads, hnumbers⟩ :=
    Descriptor.exists_division hscan Child.standardError table
  refine ⟨?_, ⟨division, hreads, congrArg _ hnumbers⟩, Descriptor.failure_transcript _ _ _,
    Child.execFailed_complete_iff request.command, ?_,
    fun n hn => standard_mem_call hcreated hn (hstandard n hn)⟩
  · have hlines : run.lines = (Descriptor.failures attempts).map Child.closeFailedLine ++
        heard.failure.toList.map Child.listingFailedLine ++
        (kernel.execFailure run.call).toList.map (Child.execFailedLine request.command) := by
      rw [hrun, Child.run_lines, Child.cleanup_lines, hattempts]
    rw [Child.Run.stderr, hlines, List.flatten_append, List.flatten_append, ← List.flatMap_def,
      ← List.flatMap_def, ← List.flatMap_def]
    refine congrArg₂ (· ++ ·) (congrArg₂ (· ++ ·) ?_ ?_) ?_
    · exact List.flatMap_congr fun failed hfailed =>
        Child.closeFailedLine_eq (Descriptor.le_maxNumber_of_failed hfailed)
    · exact List.flatMap_congr fun errno _ => Child.listingFailedLine_eq errno
    · exact List.flatMap_congr fun errno _ => Child.execFailedLine_eq request.command errno
  · rw [hrun]
    exact Child.run_ending _ _ _ _ _

/-- The listing names a descriptor that does not close, one that is not open and a kept one, then a
    read fails, and the command leaves no room for the whole error of the call. -/
theorem child_stderr_cut :
    let record (name : String) := (Descriptor.Record.padded 1 1 10 (utf8 name)).encode
    let launcher : Launcher := ⟨some [], Table.ofList [0, 1, 2, 5]⟩
    let kernel : LaunchKernel :=
      { listing := { scripted := some [record "5" ++ record "30" ++ record "1"]
                     failure := some (1, .EIO) }
        closeFailure := fun n => if n = 5 then some .EINTR else none
        fork := .ok 8, execFailure := fun _ => some .ENOENT }
    let request : Request := { command := List.replicate 440 120 }
    let whole := Child.execFailedWhole request.command .ENOENT
    ∃ run, (launcher.spawn kernel request).fork = .created 8 run ∧
      run.stderr =
        utf8 "[WARN nowait_exec child] error closing fd=5: EINTR: Interrupted system call\n" ++
          utf8 "[WARN nowait_exec child] error closing fd=30: EBADF: Bad file number\n" ++
          utf8 "[WARN nowait_exec child] cannot list /proc/self/fd (EIO: I/O error); closing by range\n"
            ++ (whole.take 511 ++ [10]) ∧
      (whole.take 511).drop (65 + request.command.length) ≠ Errno.ENOENT.text ∧
      run.ending = .exited Child.execFailedStatus := by
  intro record launcher kernel request whole
  have hcommand : (0 : UInt8) ∉ request.command := fun hzero =>
    absurd (List.eq_of_mem_replicate hzero) (by decide)
  have hcreated : (launcher.spawn kernel request).fork = .created 8 _ :=
    fork_spawn (by decide) hcommand rfl
  have hscan : kernel.listing.Scannable := by
    rintro _ ⟨⟩
    decide
  obtain ⟨hstderr, _, _, hcomplete, hending, _⟩ :=
    child_stderr launcher kernel request (by decide) hscan hcreated
  refine ⟨_, hcreated, ?_, ?_, hending⟩
  · rw [hstderr]
    exact congrArg₂ (· ++ ·) (by decide +kernel) (List.flatMap_singleton _ _)
  · rw [ne_eq, hcomplete, List.length_replicate]
    decide

end CleanLaunch
