import CleanLaunch.Proofs.Descriptor.Transcript
import Mathlib.Data.List.TakeWhile

/-! Listings made of records, however they are divided into reads.

    A `RecordRead` is a read that holds whole records and behind them bytes that form none. It names
    what its records name: `numbers_bytes`. A script of such reads that ends well is heard to its
    end, `transcript_of_brings`, so pruning calls for what the records name, in their order, and
    where one read ends and the next begins is nowhere to be seen: `prune_division`. -/

namespace CleanLaunch.Descriptor

/-! ### One read -/

/-- Bytes that form no record: they are fewer than a record's head, or the record's length is zero,
    or it reaches past their end. -/
def Formless (tail : Bytes) : Prop :=
  tail.length < 19 ∨ Read.word tail 16 = 0 ∨ tail.length < Read.word tail 16

instance (tail : Bytes) : Decidable (Formless tail) := inferInstanceAs (Decidable (_ ∨ _ ∨ _))

theorem lengthAt?_eq_none_iff (tail : Bytes) : Read.lengthAt? tail 0 = none ↔ Formless tail := by
  simp only [Read.lengthAt?, Formless, nameOffset, lengthOffset, Nat.zero_add]
  split
  · next hhead =>
    rw [or_iff_right (Nat.not_lt.2 hhead)]
    split
    · next hlength => exact ⟨fun _ => hlength, fun _ => rfl⟩
    · next hlength => exact ⟨fun h => (by cases h), fun h => absurd h hlength⟩
  · next hhead => exact ⟨fun _ => Or.inl (Nat.lt_of_not_le hhead), fun _ => rfl⟩

/-- A read of whole records, with bytes behind them that form none. -/
structure RecordRead where
  records : List Record
  tail : Bytes := []
  formless : Formless tail := by decide
  nonempty : records.flatMap Record.encode ++ tail ≠ [] := by decide +kernel
  fits : (records.flatMap Record.encode ++ tail).length ≤ readCapacity := by decide +kernel

namespace RecordRead

def bytes (read : RecordRead) : Bytes := read.records.flatMap Record.encode ++ read.tail

/-- No record of a read is too long for its length to be written. -/
theorem encodable (read : RecordRead) {record : Record} (hrecord : record ∈ read.records) :
    record.Encodable := by
  have hfits := read.fits
  obtain ⟨before, behind, hsplit⟩ := List.append_of_mem hrecord
  rw [hsplit, List.flatMap_append, List.flatMap_cons, readCapacity] at hfits
  simp only [List.length_append, Record.length_encode] at hfits
  rw [Record.Encodable]
  omega

/-- The bytes of a read name what its records name. -/
theorem numbers_bytes (read : RecordRead) :
    Read.numbers read.bytes = (read.records.map Record.name).filterMap parse? := by
  rw [Read.numbers, bytes, Read.names_encoded (fun _ hrecord => read.encodable hrecord)
    ((lengthAt?_eq_none_iff read.tail).2 read.formless)]

end RecordRead

/-! ### A listing of such reads -/

/-- What the records of some reads name, one read after another. -/
def recordNumbers (division : List RecordRead) : List Nat :=
  ((division.flatMap RecordRead.records).map Record.name).filterMap parse?

/-- The listing brings these reads and then ends well. -/
structure Listing.Brings (listing : Listing) (division : List RecordRead) : Prop where
  scripted : listing.scripted = some (division.map RecordRead.bytes)
  ends : ∀ failure, listing.failure = some failure → division.length < failure.1

variable {kernel : Kernel} {table : Table} {own : Nat} {division : List RecordRead}

theorem flatMap_numbers_bytes (division : List RecordRead) :
    (division.map RecordRead.bytes).flatMap Read.numbers = recordNumbers division := by
  rw [recordNumbers, List.map_flatMap, List.filterMap_flatMap, List.flatMap_map]
  exact List.flatMap_congr fun read _ => read.numbers_bytes

/-- Reads that end well are heard to the last one. -/
theorem transcript_of_brings (keep : Int) (hopen : kernel.openListing table = .ok own)
    (hbrings : kernel.listing.Brings division) :
    kernel.transcript keep table = ⟨division.map RecordRead.bytes, none⟩ := by
  have huntil : kernel.listing.untilFailure (division.map RecordRead.bytes) =
      division.map RecordRead.bytes := by
    rw [Listing.untilFailure]
    cases hfail : kernel.listing.failure with
    | none => rfl
    | some failure =>
      have hends := hbrings.ends failure hfail
      exact List.take_of_length_le (by rw [List.length_map]; omega)
  have hreads : (kernel.transcript keep table).reads = division.map RecordRead.bytes := by
    rw [reads_transcript hbrings.scripted keep hopen, huntil, List.takeWhile_eq_self_iff]
    intro bytes hbytes
    obtain ⟨read, _, rfl⟩ := List.mem_map.1 hbytes
    exact decide_eq_true read.nonempty
  have hfailure : (kernel.transcript keep table).failure = none := by
    refine Option.eq_none_iff_forall_ne_some.2 fun errno hfail => ?_
    rcases (failure_transcript kernel keep table errno).1 hfail with herror | ⟨_, hlast⟩
    · rw [hopen] at herror
      cases herror
    · have hends := hbrings.ends _ hlast
      rw [hreads, List.length_map] at hends
      exact Nat.lt_irrefl _ hends
  rw [← hreads, ← hfailure]

/-- The calls of pruning by such reads depend on the records alone. -/
theorem called_of_brings (keep : Int) (hopen : kernel.openListing table = .ok own)
    (hbrings : kernel.listing.Brings division) :
    (prune kernel keep table).result = .ok () ∧ (prune kernel keep table).called =
      (recordNumbers division).filter fun n : Nat => keep < (n : Int) && n != own := by
  have htranscript := transcript_of_brings keep hopen hbrings
  rw [result_eq, called_eq_filter, htranscript, flatMap_numbers_bytes, openListing_eq_ok hopen]
  exact ⟨rfl, rfl⟩

/-- By a listing of records, in any reads that end well, pruning calls close for exactly the numbers
    that the names of the records give, in their order, if they are above the threshold and not the
    listing's own. Each call ends as the kernel says for its number, and where it says nothing the
    call fails exactly if the descriptor was not open or was called for before. So the same records
    in other reads lead to the same calls, which end the same way, and to the same table. -/
theorem prune_division (kernel : Kernel) (keep : Int) (table : Table) {own : Nat}
    (division : List RecordRead) (hopen : kernel.openListing table = .ok own)
    (hbrings : kernel.listing.Brings division) :
    let pruning := prune kernel keep table
    let called := (recordNumbers division).filter fun n : Nat => keep < (n : Int) && n != own
    pruning.result = .ok () ∧
      pruning.attempts =
        called.mapIdx (fun i n => ⟨n, kernel.answer table (called.take i) n⟩) ∧
      failures pruning.attempts = kernel.failed table called ∧
      (∀ n, n ∈ pruning.table ↔ n ∈ table ∧ (n ∈ called → kernel.closeFailure n ≠ none) ∨
        n = own ∧ kernel.closeFailure own ≠ none) ∧
      ∀ (listing : Listing) (redivision : List RecordRead), listing.Brings redivision →
        redivision.flatMap RecordRead.records = division.flatMap RecordRead.records →
        let other := prune { kernel with listing } keep table
        other.result = pruning.result ∧ other.attempts = pruning.attempts ∧
          other.table = pruning.table := by
  intro pruning called
  obtain ⟨hresult, hcalled⟩ := called_of_brings keep hopen hbrings
  have hattempts := attempts_prune kernel keep table
  have hfailures := failures_prune kernel keep table
  rw [hcalled] at hattempts hfailures
  refine ⟨hresult, hattempts, hfailures, fun n => ?_, fun listing redivision hlisting hsame => ?_⟩
  · have hown : kernel.openListing table = .ok n ↔ n = own := by
      rw [hopen, Except.ok.injEq, eq_comm]
    rw [mem_prune, hcalled, hown]
    refine or_congr_right (and_congr_right fun heq => ?_)
    rw [heq]
  · have hotherOpen : { kernel with listing }.openListing table = .ok own := hopen
    obtain ⟨hotherResult, hotherCalled⟩ := called_of_brings keep hotherOpen hlisting
    rw [recordNumbers, hsame, ← recordNumbers, ← hcalled] at hotherCalled
    refine ⟨hotherResult.trans hresult.symm, ?_, Table.ext_mem fun n => ?_⟩
    · rw [attempts_prune, hotherCalled, attempts_prune]
      rfl
    · rw [mem_prune, hotherCalled, mem_prune]
      rfl

/-- Names with zeros in front, a number that comes twice and one that is not open, in two reads with
    different tails and in a single one. -/
theorem prune_division_repeated :
    let record (name : String) : Record := ⟨1, 2, 10, utf8 name ++ [0, 120]⟩
    let records := [record "5", record "..", record "0030", record "3", record "9", record "5"]
    let division : List RecordRead :=
      [{ records := records.take 2, tail := [0, 0, 0] },
        { records := records.drop 2, tail := List.replicate 19 255 }]
    let kernel : Kernel :=
      { listing := { scripted := some (division.map RecordRead.bytes), failure := some (3, .EIO) }
        closeFailure := fun n => if n = 9 then some .EINTR else none }
    let whole : RecordRead := { records, tail := List.replicate 40 0 }
    let table := Table.ofList [0, 1, 2, 5, 9]
    (prune kernel 2 table).result = .ok () ∧
      failures (prune kernel 2 table).attempts = [(30, .EBADF), (9, .EINTR), (5, .EBADF)] ∧
      9 ∈ (prune kernel 2 table).table ∧ 5 ∉ (prune kernel 2 table).table ∧
      (prune { kernel with listing := { scripted := some [whole.bytes] } } 2 table).attempts =
        (prune kernel 2 table).attempts := by
  intro record records division kernel whole table
  have hopen : kernel.openListing table = .ok 3 := by decide
  have hbrings : kernel.listing.Brings division := ⟨rfl, by rintro failure ⟨⟩; decide⟩
  obtain ⟨hresult, _, hfailures, htable, hsame⟩ :=
    prune_division kernel 2 table division hopen hbrings
  refine ⟨hresult, hfailures.trans (by decide), (htable 9).2 (by decide), ?_, ?_⟩
  · rw [htable]
    decide
  · exact (hsame { scripted := some [whole.bytes] } [whole] ⟨rfl, fun _ h => by cases h⟩ rfl).2.1

end CleanLaunch.Descriptor
