import CleanLaunch.Proofs.Descriptor.Division

/-! The scan of one read.

    The records of a read are the longest sequence of whole records that follow each other from its
    first byte on: `Consecutive`, `consecutive_spansFrom`, `prefix_spansFrom`. Behind them stand
    bytes that form no record: `formless_behind`.

    Finding them takes two bytes of each length and one slice for each name. `scan?` is the scan
    that gives up where one of these is not there, and it gives up only at a record shorter than a
    record's head, whose name would end before it begins: `scan?_eq`. Where no such record is
    reached, every access is within the read and every record takes up its own 19 bytes or more:
    `scan_in_bounds`. -/

namespace CleanLaunch.Descriptor.Read

/-! ### Records that follow each other -/

/-- A whole record stands at a place of a read: the read has all of its head, the two bytes of its
    length say that length, which is not zero, and the read does not end before it. -/
structure WholeAt (read : Bytes) (span : Span) : Prop where
  head : span.start + nameOffset ≤ read.length
  length_eq : word read (span.start + lengthOffset) = span.length
  pos : 0 < span.length
  fits : span.start + span.length ≤ read.length

theorem lengthAt?_eq_some_iff (read : Bytes) (offset length : Nat) :
    lengthAt? read offset = some length ↔ WholeAt read ⟨offset, length⟩ := by
  rw [lengthAt?]
  constructor
  · intro h
    by_cases hhead : offset + nameOffset ≤ read.length
    · rw [if_pos hhead] at h
      by_cases hlength : word read (offset + lengthOffset) = 0 ∨
          offset + word read (offset + lengthOffset) > read.length
      · rw [if_pos hlength] at h
        cases h
      · rw [if_neg hlength] at h
        obtain rfl := Option.some.inj h
        obtain ⟨hpos, hfits⟩ := not_or.1 hlength
        exact ⟨hhead, rfl, Nat.pos_of_ne_zero hpos, Nat.le_of_not_gt hfits⟩
    · rw [if_neg hhead] at h
      cases h
  · rintro ⟨hhead, hlength, hpos, hfits⟩
    simp only at hhead hlength hpos hfits
    rw [if_pos hhead, hlength, if_neg (by omega)]

/-- Whole records of a read that follow each other from an offset on. -/
def Consecutive (read : Bytes) : (offset : Nat) → List Span → Prop
  | _, [] => True
  | offset, span :: rest =>
    span.start = offset ∧ WholeAt read span ∧ Consecutive read (offset + span.length) rest

/-- Where records that follow each other from an offset on end. -/
def endOf : (offset : Nat) → List Span → Nat
  | offset, [] => offset
  | offset, span :: rest => endOf (offset + span.length) rest

variable {read : Bytes}

theorem consecutive_spansFrom (read : Bytes) : ∀ (limit offset : Nat),
    Consecutive read offset (spansFrom read limit offset)
  | 0, _ => trivial
  | limit + 1, offset => by
    rw [spansFrom]
    cases hlength : lengthAt? read offset with
    | none => trivial
    | some length =>
      exact ⟨rfl, (lengthAt?_eq_some_iff read offset length).1 hlength,
        consecutive_spansFrom read limit (offset + length)⟩

/-- Every other sequence of whole records ends earlier. A limit that reaches to the end of the read
    cuts nothing off, since a record has at least one byte. -/
theorem prefix_spansFrom : ∀ (records : List Span) {limit offset : Nat},
    read.length ≤ offset + limit → Consecutive read offset records →
    records <+: spansFrom read limit offset
  | [], _, _, _, _ => List.nil_prefix
  | span :: rest, limit, offset, hlimit, ⟨hstart, hwhole, hrest⟩ => by
    obtain ⟨start, length⟩ := span
    obtain rfl : start = offset := hstart
    have hpos : 0 < length := hwhole.pos
    have hfits : start + length ≤ read.length := hwhole.fits
    obtain ⟨less, rfl⟩ : ∃ less, limit = less + 1 := ⟨limit - 1, by omega⟩
    rw [spansFrom, (lengthAt?_eq_some_iff read start length).2 hwhole]
    exact (List.cons_prefix_cons.2 ⟨rfl, prefix_spansFrom rest (by omega) hrest⟩)

/-- Where the records end no other one begins. -/
theorem lengthAt?_endOf : ∀ (limit offset : Nat), read.length ≤ offset + limit →
    lengthAt? read (endOf offset (spansFrom read limit offset)) = none
  | 0, offset, hlimit => by
    rw [spansFrom, endOf, lengthAt?, if_neg]
    rw [nameOffset]
    omega
  | limit + 1, offset, hlimit => by
    rw [spansFrom]
    cases hlength : lengthAt? read offset with
    | none => exact hlength
    | some length =>
      have hpos : 0 < length := ((lengthAt?_eq_some_iff read offset length).1 hlength).pos
      exact lengthAt?_endOf limit (offset + length) (by omega)

theorem endOf_le : ∀ {records : List Span} {offset : Nat}, Consecutive read offset records →
    offset ≤ read.length → endOf offset records ≤ read.length
  | [], _, _, hoffset => hoffset
  | _ :: _, _, ⟨hstart, hwhole, hrest⟩, _ => by
    have hfits := hwhole.fits
    rw [hstart] at hfits
    rw [endOf]
    exact endOf_le hrest hfits

/-- The bytes behind the records of a read form none. -/
theorem formless_behind (read : Bytes) : Formless (read.drop (endOf 0 (spans read))) := by
  have hnone := lengthAt?_endOf read.length 0 (Nat.le_of_eq (Nat.zero_add read.length).symm)
  have hwithin := endOf_le (consecutive_spansFrom read read.length 0) (Nat.zero_le _)
  rw [← lengthAt?_eq_none_iff, spans, ← lengthAt?_append (read.take _), List.take_append_drop,
    List.length_take, Nat.min_eq_left hwithin]
  exact hnone

/-! ### Places of the records -/

/-- A record begins where the one before it ends, or later. -/
theorem le_start : ∀ {records : List Span} {offset : Nat}, Consecutive read offset records →
    ∀ span ∈ records, offset ≤ span.start
  | [], _, _, _, hspan => absurd hspan List.not_mem_nil
  | first :: rest, offset, ⟨hstart, _, hrest⟩, span, hspan => by
    rcases List.mem_cons.1 hspan with rfl | hspan
    · exact Nat.le_of_eq hstart.symm
    · exact Nat.le_of_add_right_le (le_start hrest span hspan)

theorem wholeAt_of_mem : ∀ {records : List Span} {offset : Nat}, Consecutive read offset records →
    ∀ span ∈ records, WholeAt read span
  | [], _, _, _, hspan => absurd hspan List.not_mem_nil
  | first :: rest, offset, ⟨_, hwhole, hrest⟩, span, hspan => by
    rcases List.mem_cons.1 hspan with rfl | hspan
    · exact hwhole
    · exact wholeAt_of_mem hrest span hspan

variable {least : Nat}

/-- Records that are long enough lie far enough apart. -/
theorem pairwise_start : ∀ {records : List Span} {offset : Nat}, Consecutive read offset records →
    (∀ span ∈ records, least ≤ span.length) →
    records.Pairwise fun before behind => before.start + least ≤ behind.start
  | [], _, _, _ => List.Pairwise.nil
  | first :: rest, offset, ⟨hstart, _, hrest⟩, hleast => by
    refine List.pairwise_cons.2 ⟨fun span hspan => ?_,
      pairwise_start hrest fun span hspan => hleast span (List.mem_cons_of_mem _ hspan)⟩
    have hfirst := hleast first List.mem_cons_self
    have hbehind := le_start hrest span hspan
    omega

/-- Records that are long enough are not many. -/
theorem mul_length_le : ∀ {records : List Span} {offset : Nat}, Consecutive read offset records →
    (∀ span ∈ records, least ≤ span.length) → least * records.length ≤ read.length - offset
  | [], _, _, _ => Nat.zero_le _
  | first :: rest, offset, ⟨hstart, hwhole, hrest⟩, hleast => by
    have hfirst := hleast first List.mem_cons_self
    have hmany := mul_length_le hrest fun span hspan => hleast span (List.mem_cons_of_mem _ hspan)
    have hfits := hwhole.fits
    rw [List.length_cons, Nat.mul_succ]
    omega

/-! ### A scan that checks every access -/

theorem word?_eq {index : Nat} (hindex : index + 1 < read.length) :
    word? read index = some (word read index) := by
  have hget {i : Nat} (hi : i < read.length) : read[i]? = some (read.getD i 0) := by
    rw [List.getD_eq_getElem?_getD, List.getElem?_eq_getElem hi, Option.getD_some]
  rw [word?, hget (Nat.lt_of_succ_lt hindex), hget hindex]
  rfl

/-- A read that has a record's head has both bytes of its length. -/
theorem lengthOffset_lt {offset : Nat} (hhead : offset + nameOffset ≤ read.length) :
    offset + lengthOffset + 1 < read.length := by
  rw [nameOffset] at hhead
  rw [lengthOffset]
  omega

theorem scan?_of_none {offset : Nat} (hnone : lengthAt? read offset = none) :
    scan? read offset = some [] := by
  rw [scan?]
  split
  · next hhead =>
    rw [word?_eq (lengthOffset_lt hhead), Option.bind_some, dif_pos]
    by_contra hlength
    rw [lengthAt?, if_pos hhead, if_neg hlength] at hnone
    cases hnone
  · rfl

/-- A record whose name begins behind the record's end stops the scan; at any other it goes on. -/
theorem scan?_of_some {offset length : Nat} (hlength : lengthAt? read offset = some length) :
    scan? read offset = if nameOffset ≤ length then
      (scan? read (offset + length)).map (Span.name read ⟨offset, length⟩ :: ·) else none := by
  obtain ⟨hhead, hword, hpos, hfits⟩ := (lengthAt?_eq_some_iff read offset length).1 hlength
  simp only at hhead hword hpos hfits
  rw [scan?, if_pos hhead, word?_eq (lengthOffset_lt hhead), hword, Option.bind_some,
    dif_neg (by omega), slice?]
  by_cases hname : nameOffset ≤ length
  · rw [if_pos hname, if_pos ⟨Nat.add_le_add_left hname offset, hfits⟩, Option.bind_some, Span.name,
      Nat.add_sub_add_left]
  · rw [if_neg hname, if_neg fun h => hname (Nat.le_of_add_le_add_left h.1), Option.bind_none]

/-- The scan gives the names of all records, or nothing if one of them is shorter than its head. -/
theorem scan?_eq : ∀ (limit offset : Nat), read.length ≤ offset + limit →
    scan? read offset =
      if ∀ span ∈ spansFrom read limit offset, nameOffset ≤ span.length then
        some (namesFrom read limit offset)
      else none
  | 0, offset, hlimit => by
    exact scan?_of_none (lengthAt?_endOf 0 offset hlimit)
  | limit + 1, offset, hlimit => by
    cases hlength : lengthAt? read offset with
    | none =>
      rw [scan?_of_none hlength, namesFrom_eq_nil hlength, spansFrom, hlength, if_pos]
      exact fun span hspan => absurd hspan List.not_mem_nil
    | some length =>
      have hpos : 0 < length := ((lengthAt?_eq_some_iff read offset length).1 hlength).pos
      rw [scan?_of_some hlength, scan?_eq limit (offset + length) (by omega),
        namesFrom_eq_cons hlength, spansFrom, hlength]
      simp only [List.forall_mem_cons]
      by_cases hname : nameOffset ≤ length
      · simp only [hname, if_true, true_and]
        exact apply_ite (Option.map _) _ _ _
      · rw [if_neg hname, if_neg fun h => hname h.1]

/-- If no record that the scan of a read reaches has a length of 1 to 18, all bytes and names that
    it looks at lie within the read. The records then lie 19 bytes or more apart, so each is reached
    once, and there are no more than the read has room for. They are the longest sequence of whole
    records that follow each other from the start of the read: every other one is a part of it, and
    what stands behind it forms no record. -/
theorem scan_in_bounds (read : Bytes)
    (hreached : ∀ span ∈ spans read, ¬(1 ≤ span.length ∧ span.length ≤ 18)) :
    scan? read 0 = some (names read) ∧
      (∀ span ∈ spans read, span.start + 17 < read.length ∧
        span.start + 19 ≤ span.start + span.length ∧ span.start + span.length ≤ read.length) ∧
      (spans read).Pairwise (fun before behind => before.start + 19 ≤ behind.start) ∧
      (spans read).length ≤ read.length / 19 ∧
      Consecutive read 0 (spans read) ∧
      (∀ records, Consecutive read 0 records → records <+: spans read) ∧
      Formless (read.drop (endOf 0 (spans read))) := by
  have hconsecutive : Consecutive read 0 (spans read) := consecutive_spansFrom read read.length 0
  have hlong : ∀ span ∈ spans read, 19 ≤ span.length := fun span hspan => by
    have hpos := (wholeAt_of_mem hconsecutive span hspan).pos
    have hlength := hreached span hspan
    omega
  refine ⟨?_, fun span hspan => ?_, pairwise_start hconsecutive hlong, ?_, hconsecutive,
    fun records hrecords => prefix_spansFrom records (by omega) hrecords, formless_behind read⟩
  · exact (scan?_eq read.length 0 (by omega)).trans (if_pos hlong)
  · obtain ⟨hhead, _, _, hfits⟩ := wholeAt_of_mem hconsecutive span hspan
    exact ⟨lengthOffset_lt hhead, Nat.add_le_add_left (hlong span hspan) span.start, hfits⟩
  · rw [Nat.le_div_iff_mul_le (by decide), Nat.mul_comm]
    exact mul_length_le hconsecutive hlong

/-- A record of 24 bytes, one of a head only, and one that ends a byte behind the read. -/
theorem scan_in_bounds_byte_missing :
    let padded := (Record.padded 1 1 10 (utf8 "5")).encode
    let bare := (⟨2, 2, 10, []⟩ : Record).encode
    let read := padded ++ bare ++ padded.dropLast
    scan? read 0 = some [utf8 "5" ++ [0, 0, 0, 0], []] ∧ (spans read).length ≤ 3 ∧
      [⟨0, 24⟩, ⟨24, 19⟩] <+: spans read ∧ Formless (read.drop 43) := by
  intro padded bare read
  have hspans : spans read = [⟨0, 24⟩, ⟨24, 19⟩] := by decide
  obtain ⟨hscan, _, _, hmany, hconsecutive, hlongest, hbehind⟩ :=
    scan_in_bounds read (by rw [hspans]; decide)
  rw [hspans] at hconsecutive hbehind
  exact ⟨hscan.trans (by decide), hmany.trans (by decide), hlongest _ hconsecutive, hbehind⟩

end CleanLaunch.Descriptor.Read
