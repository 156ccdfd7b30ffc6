import CleanLaunch.Proofs.Descriptor.Scanning
import Mathlib.Algebra.Group.Nat.Defs
import Mathlib.Data.List.GetD
import Mathlib.Data.Set.List

/-! Reads taken apart into the records they are made of.

    Bytes that are long enough and tell their own length are one record: `Record.encode_ofBytes`. So
    a read in which no record is shorter than a head is encoded records and behind them bytes that
    form none, `Read.exists_records`, and the kernel's own reads are of this kind whatever the table:
    `Listing.exists_recordRead`. What a pruning hears is therefore a division of records, whose names
    give the numbers it goes by: `exists_division`. -/

namespace CleanLaunch

namespace Bytes

/-! ### Numbers from their bytes -/

/-- The number that has these bytes, lowest first. -/
def ofLittleEndian : Bytes → Nat
  | [] => 0
  | byte :: rest => byte.toNat + 256 * ofLittleEndian rest

theorem ofLittleEndian_lt : ∀ bytes : Bytes, ofLittleEndian bytes < 256 ^ bytes.length
  | [] => Nat.one_pos
  | byte :: rest => by
    have hrest := ofLittleEndian_lt rest
    have hbyte := byte.toNat_lt
    rw [ofLittleEndian, List.length_cons, Nat.pow_succ]
    omega

theorem littleEndian_ofLittleEndian : ∀ bytes : Bytes,
    littleEndian bytes.length (ofLittleEndian bytes) = bytes
  | [] => rfl
  | byte :: rest => by
    have hbyte := byte.toNat_lt
    have hlow : (ofLittleEndian (byte :: rest)).toUInt8 = byte := by
      rw [← UInt8.toNat_inj, ofLittleEndian, Nat.toUInt8_eq, UInt8.toNat_ofNat']
      omega
    have hhigh : ofLittleEndian (byte :: rest) / 256 = ofLittleEndian rest := by
      rw [ofLittleEndian]
      omega
    rw [List.length_cons, littleEndian, hlow, hhigh, littleEndian_ofLittleEndian rest]

/-- Eight bytes are those of a word of 64 bits. -/
theorem littleEndian_toUInt64 {bytes : Bytes} (hlength : bytes.length = 8) :
    littleEndian 8 (ofLittleEndian bytes).toUInt64.toNat = bytes := by
  have hbound := ofLittleEndian_lt bytes
  rw [hlength] at hbound
  rw [Nat.toUInt64_eq, UInt64.toNat_ofNat_of_lt' hbound, ← hlength, littleEndian_ofLittleEndian]

end Bytes

namespace Descriptor

/-! ### One record -/

/-- The record that some bytes are, if they are one. -/
def Record.ofBytes (bytes : Bytes) : Record where
  inode := (Bytes.ofLittleEndian (bytes.take 8)).toUInt64
  offset := (Bytes.ofLittleEndian ((bytes.drop 8).take 8)).toUInt64
  kind := bytes.getD 18 0
  name := bytes.drop nameOffset

theorem Read.word_eq_ofLittleEndian {read : Bytes} {index : Nat} (hindex : index + 1 < read.length) :
    Read.word read index = Bytes.ofLittleEndian ((read.drop index).take 2) := by
  rw [List.drop_eq_getElem_cons (Nat.lt_of_succ_lt hindex), List.drop_eq_getElem_cons hindex,
    Read.word, List.getD_eq_getElem _ _ (Nat.lt_of_succ_lt hindex), List.getD_eq_getElem _ _ hindex]
  rfl

/-- Bytes that have a head and tell their own length are a record written down. -/
theorem Record.encode_ofBytes {bytes : Bytes} (hhead : nameOffset ≤ bytes.length)
    (hlength : Read.word bytes lengthOffset = bytes.length) : (ofBytes bytes).encode = bytes := by
  rw [nameOffset] at hhead
  have hname : (ofBytes bytes).length = bytes.length := by
    rw [length, ofBytes, List.length_drop, nameOffset]
    omega
  have htwo : ((bytes.drop 16).take 2).length = 2 := by
    rw [List.length_take, List.length_drop]
    omega
  have hwritten : Bytes.littleEndian 2 (ofBytes bytes).length = (bytes.drop 16).take 2 := by
    rw [hname, ← hlength, lengthOffset, Read.word_eq_ofLittleEndian (by omega)]
    exact (congrArg (Bytes.littleEndian · _) htwo.symm).trans (Bytes.littleEndian_ofLittleEndian _)
  have hinode : Bytes.littleEndian 8 (ofBytes bytes).inode.toNat = bytes.take 8 :=
    Bytes.littleEndian_toUInt64 (by rw [List.length_take]; omega)
  have hoffset : Bytes.littleEndian 8 (ofBytes bytes).offset.toNat = (bytes.drop 8).take 8 :=
    Bytes.littleEndian_toUInt64 (by rw [List.length_take, List.length_drop]; omega)
  have hkind : (ofBytes bytes).kind :: (ofBytes bytes).name = bytes.drop 18 := by
    rw [List.drop_eq_getElem_cons (by omega : 18 < bytes.length), ofBytes,
      List.getD_eq_getElem _ _ (by omega)]
    rfl
  calc (ofBytes bytes).encode
      = bytes.take 8 ++ (bytes.drop 8).take 8 ++ (bytes.drop 16).take 2 ++ bytes.drop 18 := by
        rw [encode, hwritten, hinode, hoffset, hkind]
    _ = bytes := by
        rw [List.append_assoc, List.append_assoc, ← List.drop_drop (i := 2) (j := 16),
          List.take_append_drop, ← List.drop_drop (i := 8) (j := 8), List.take_append_drop,
          List.take_append_drop]

/-! ### One read -/

namespace Read

/-- A part of a read says the same length as the whole. -/
theorem word_slice {read : Bytes} {offset length index : Nat} (hindex : index + 1 < length) :
    word ((read.drop offset).take length) index = word read (offset + index) := by
  have hget {i : Nat} (hi : i < length) :
      ((read.drop offset).take length).getD i 0 = read.getD (offset + i) 0 := by
    rw [List.getD_eq_getElem?_getD, List.getElem?_take_of_lt hi, List.getElem?_drop,
      List.getD_eq_getElem?_getD]
  rw [word, word, hget (Nat.lt_of_succ_lt hindex), hget hindex, Nat.add_assoc]

theorem lengthAt?_drop {read : Bytes} {offset : Nat} (hoffset : offset ≤ read.length) :
    lengthAt? (read.drop offset) 0 = lengthAt? read offset := by
  have happend := lengthAt?_append (read.take offset) (read.drop offset) 0
  rw [List.take_append_drop, List.length_take, Nat.min_eq_left hoffset, Nat.add_zero] at happend
  exact happend.symm

/-- From any place on a read is encoded records and bytes behind them that form none, if no record
    from there on is shorter than a head. -/
theorem exists_records (read : Bytes) : ∀ (limit : Nat) {offset : Nat}, offset ≤ read.length →
    read.length ≤ offset + limit →
    (∀ span ∈ spansFrom read limit offset, nameOffset ≤ span.length) →
    ∃ (records : List Record) (tail : Bytes),
      read.drop offset = records.flatMap Record.encode ++ tail ∧ Formless tail
  | 0, offset, _, hlimit, _ =>
    ⟨[], [], List.drop_eq_nil_of_le hlimit, Or.inl (by decide)⟩
  | limit + 1, offset, hoffset, hlimit, hlong => by
    cases hlength : lengthAt? read offset with
    | none =>
      rw [← lengthAt?_drop hoffset, lengthAt?_eq_none_iff] at hlength
      exact ⟨[], read.drop offset, rfl, hlength⟩
    | some length =>
      obtain ⟨_, hword, hpos, hfits⟩ := (lengthAt?_eq_some_iff read offset length).1 hlength
      simp only at hword hpos hfits
      rw [spansFrom, hlength, List.forall_mem_cons] at hlong
      obtain ⟨hhead, hrest⟩ := hlong
      simp only at hhead
      obtain ⟨records, tail, hdrop, htail⟩ :=
        exists_records read limit hfits (by omega) hrest
      have hslice : ((read.drop offset).take length).length = length := by
        rw [List.length_take, List.length_drop]
        omega
      have hrecord : (Record.ofBytes ((read.drop offset).take length)).encode =
          (read.drop offset).take length := by
        refine Record.encode_ofBytes (hslice.symm ▸ hhead) ?_
        rw [word_slice (by rw [nameOffset] at hhead; rw [lengthOffset]; omega), hword, hslice]
      refine ⟨Record.ofBytes ((read.drop offset).take length) :: records, tail, ?_, htail⟩
      rw [List.flatMap_cons, hrecord, List.append_assoc, ← hdrop, ← List.drop_drop,
        List.take_append_drop]

/-- A read that the buffer holds, without such a record, is one of records. -/
theorem exists_recordRead {read : Bytes} (hne : read ≠ []) (hfits : read.length ≤ readCapacity)
    (hreached : ∀ span ∈ spans read, ¬(1 ≤ span.length ∧ span.length ≤ 18)) :
    ∃ decoded : RecordRead, decoded.bytes = read := by
  have hlong : ∀ span ∈ spans read, nameOffset ≤ span.length := fun span hspan => by
    have hpos := (wholeAt_of_mem (consecutive_spansFrom read read.length 0) span hspan).pos
    have hlength := hreached span hspan
    rw [nameOffset]
    omega
  obtain ⟨records, tail, heq, htail⟩ :=
    exists_records read read.length (Nat.zero_le _) (by omega) hlong
  rw [List.drop_zero] at heq
  exact ⟨⟨records, tail, htail, heq ▸ hne, heq ▸ hfits⟩, heq.symm⟩

end Read

namespace Listing

theorem length_fitting : ∀ (entries : List (Nat × Bytes)) (room : Nat),
    ((fitting room entries).flatMap fun entry => (record entry).encode).length ≤ room
  | [], room => Nat.zero_le room
  | entry :: rest, room => by
    rw [fitting]
    split
    · have hrest := length_fitting rest (room - Record.paddedLength entry.2)
      rw [List.flatMap_cons, List.length_append, length_record]
      omega
    · exact Nat.zero_le room

/-- A read of the kernel's own listing is one of records, whatever the table. -/
theorem exists_recordRead {listing : Listing} {table : Table} {cursor : Cursor}
    (hne : (listing.liveRead table cursor).1 ≠ []) :
    ∃ decoded : RecordRead, decoded.bytes = (listing.liveRead table cursor).1 := by
  have hbytes : ((listing.chosen table cursor).map record).flatMap Record.encode ++ [] =
      (listing.liveRead table cursor).1 := by
    rw [List.append_nil, List.flatMap_map]
    rfl
  refine ⟨⟨(listing.chosen table cursor).map record, [], Or.inl (by decide), ?_, ?_⟩, hbytes⟩
  · rw [hbytes]
    exact hne
  · rw [hbytes]
    exact length_fitting _ _

/-- Every read of a script fits into the buffer, and no record that is reached in it has a length of
    1 to 18. -/
def Scannable (listing : Listing) : Prop :=
  ∀ reads, listing.scripted = some reads → ∀ read ∈ reads,
    read.length ≤ readCapacity ∧
      ∀ span ∈ Read.spans read, ¬(1 ≤ span.length ∧ span.length ≤ 18)

end Listing

/-! ### What a pruning hears -/

variable {kernel : Kernel} {keep : Int} {own : Nat}

theorem read_of_mem_transcriptFrom : ∀ (bound : Nat) (cursor : Cursor) (table : Table) {read : Bytes},
    read ∈ (transcriptFrom kernel keep own bound cursor table).reads →
    read ≠ [] ∧ ∃ table cursor next, kernel.listing.read table cursor = .ok (read, next)
  | 0, _, _, _, hread => absurd hread List.not_mem_nil
  | bound + 1, cursor, table, read, hmem => by
    rcases read_cases kernel.listing table cursor with
      ⟨errno, hread⟩ | ⟨next, hread⟩ | ⟨first, next, hne, hread⟩
    · rw [transcriptFrom_of_error hread] at hmem
      exact absurd hmem List.not_mem_nil
    · rw [transcriptFrom_of_end hread] at hmem
      exact absurd hmem List.not_mem_nil
    · rw [transcriptFrom_of_read hne hread] at hmem
      rcases List.mem_cons.1 hmem with rfl | hlater
      · exact ⟨hne, table, cursor, next, hread⟩
      · exact read_of_mem_transcriptFrom bound next _ hlater

/-- What is read from a listing without such records is records. -/
theorem exists_recordRead_of_read (hscan : kernel.listing.Scannable) {table : Table}
    {cursor next : Cursor} {read : Bytes} (hne : read ≠ [])
    (hread : kernel.listing.read table cursor = .ok (read, next)) :
    ∃ decoded : RecordRead, decoded.bytes = read := by
  rcases read_eq_ok hread with ⟨reads, hscripted, hget, _⟩ | ⟨_, rfl, _⟩
  · have hdrop := drop_eq_cons hne hget.symm
    have hmem : read ∈ reads := List.mem_of_mem_drop (hdrop ▸ List.mem_cons_self)
    obtain ⟨hfits, hreached⟩ := hscan reads hscripted read hmem
    exact Read.exists_recordRead hne hfits hreached
  · exact Listing.exists_recordRead hne

/-- The reads of a pruning are a division of records into reads, and the numbers they name are what
    the names of these records give, in their order. -/
theorem exists_division (hscan : kernel.listing.Scannable) (keep : Int) (table : Table) :
    ∃ division : List RecordRead,
      (kernel.transcript keep table).reads = division.map RecordRead.bytes ∧
      (kernel.transcript keep table).reads.flatMap Read.numbers = recordNumbers division := by
  have hdecoded : (kernel.transcript keep table).reads ∈
      Set.range (List.map RecordRead.bytes) := by
    rw [Set.range_list_map]
    intro read hread
    cases hopen : kernel.openListing table with
    | error errno =>
      rw [transcript_of_error keep hopen] at hread
      exact absurd hread List.not_mem_nil
    | ok own =>
      rw [transcript_of_ok keep hopen] at hread
      obtain ⟨hne, _, _, _, hsuccess⟩ := read_of_mem_transcriptFrom _ _ _ hread
      exact exists_recordRead_of_read hscan hne hsuccess
  obtain ⟨division, hdivision⟩ := hdecoded
  refine ⟨division, hdivision.symm, ?_⟩
  rw [← hdivision, flatMap_numbers_bytes]

end Descriptor

end CleanLaunch
