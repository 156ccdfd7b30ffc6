import CleanLaunch.Descriptor.Record

/-! Records read back from the bytes they are written as.

    Where a read's records are found depends only on the bytes from there on:
    `Read.namesFrom_append`. So a read made of encoded records, and of a tail that is no record, has
    exactly the names of those records: `Read.names_encoded`. -/

namespace CleanLaunch

theorem Bytes.length_littleEndian : ∀ (width n : Nat), (littleEndian width n).length = width
  | 0, _ => rfl
  | width + 1, n => by rw [littleEndian, List.length_cons, length_littleEndian width (n / 256)]

namespace Descriptor

/-! ### One record -/

namespace Record

/-- A record whose length fits into its two bytes. -/
def Encodable (record : Record) : Prop := record.length < 65536

/-- The bytes of a record in front of its length. -/
def head (record : Record) : Bytes :=
  Bytes.littleEndian 8 record.inode.toNat ++ Bytes.littleEndian 8 record.offset.toNat

theorem length_head (record : Record) : record.head.length = lengthOffset := by
  rw [head, List.length_append, Bytes.length_littleEndian, Bytes.length_littleEndian, lengthOffset]

theorem encode_eq (record : Record) : record.encode =
    record.head ++ (record.length.toUInt8 :: (record.length / 256).toUInt8 :: record.kind ::
      record.name) := by
  rw [encode, head, Bytes.littleEndian, Bytes.littleEndian, Bytes.littleEndian, List.append_assoc]
  rfl

theorem length_encode (record : Record) : record.encode.length = record.length := by
  rw [encode_eq, List.length_append, length_head, length, nameOffset, lengthOffset]
  simp only [List.length_cons]
  omega

theorem nameOffset_le_length (record : Record) : nameOffset ≤ record.length := by
  rw [length]
  omega

end Record

/-! ### The records of a read -/

namespace Read

theorem word_append (first rest : Bytes) (index : Nat) :
    word (first ++ rest) (first.length + index) = word rest index := by
  have hget (k : Nat) : (first ++ rest).getD (first.length + k) 0 = rest.getD k 0 := by
    rw [List.getD_eq_getElem?_getD, List.getElem?_append_right (Nat.le_add_right _ k),
      Nat.add_sub_cancel_left, List.getD_eq_getElem?_getD]
  rw [word, word, Nat.add_assoc, hget, hget]

theorem lengthAt?_append (first rest : Bytes) (offset : Nat) :
    lengthAt? (first ++ rest) (first.length + offset) = lengthAt? rest offset := by
  simp only [lengthAt?, List.length_append, Nat.add_assoc, word_append, Nat.add_le_add_iff_left,
    gt_iff_lt, Nat.add_lt_add_iff_left]

/-- The names of up to `limit` records that follow each other from an offset on. -/
def namesFrom (read : Bytes) (limit offset : Nat) : List Bytes :=
  (spansFrom read limit offset).map (Span.name read)

theorem names_eq (read : Bytes) : names read = namesFrom read read.length 0 := rfl

theorem namesFrom_eq_nil {read : Bytes} {offset : Nat} (h : lengthAt? read offset = none)
    (limit : Nat) : namesFrom read limit offset = [] := by
  cases limit with
  | zero => rfl
  | succ limit => rw [namesFrom, spansFrom, h, List.map_nil]

theorem namesFrom_eq_cons {read : Bytes} {offset length : Nat}
    (h : lengthAt? read offset = some length) (limit : Nat) :
    namesFrom read (limit + 1) offset =
      Span.name read ⟨offset, length⟩ :: namesFrom read limit (offset + length) := by
  rw [namesFrom, spansFrom, h, List.map_cons, namesFrom]

/-- Bytes in front of the place where reading begins do not matter. -/
theorem namesFrom_append (first rest : Bytes) : ∀ (limit offset : Nat),
    namesFrom (first ++ rest) limit (first.length + offset) = namesFrom rest limit offset
  | 0, _ => rfl
  | limit + 1, offset => by
    have hlength := lengthAt?_append first rest offset
    cases h : lengthAt? rest offset with
    | none => rw [namesFrom_eq_nil (hlength.trans h), namesFrom_eq_nil h]
    | some length =>
      have hname : Span.name (first ++ rest) ⟨first.length + offset, length⟩ =
          Span.name rest ⟨offset, length⟩ := by
        rw [Span.name, Span.name, Nat.add_assoc, List.drop_length_add_append]
      rw [namesFrom_eq_cons (hlength.trans h), namesFrom_eq_cons h, hname, Nat.add_assoc,
        namesFrom_append first rest limit (offset + length)]

theorem word_encode {record : Record} (hfit : record.Encodable) (rest : Bytes) :
    word (record.encode ++ rest) lengthOffset = record.length := by
  have hword := word_append record.head (record.length.toUInt8 ::
    (record.length / 256).toUInt8 :: record.kind :: (record.name ++ rest)) 0
  have hfit : record.length < 65536 := hfit
  rw [Record.length_head, Nat.add_zero] at hword
  rw [Record.encode_eq, List.append_assoc, List.cons_append, List.cons_append, List.cons_append,
    hword, word]
  simp only [List.getD_cons_zero, List.getD_cons_succ, Nat.toUInt8_eq, UInt8.toNat_ofNat']
  omega

theorem lengthAt?_encode {record : Record} (hfit : record.Encodable) (rest : Bytes) :
    lengthAt? (record.encode ++ rest) 0 = some record.length := by
  have hname := record.nameOffset_le_length
  have hpos : 0 < nameOffset := by decide
  simp only [lengthAt?, Nat.zero_add, List.length_append, Record.length_encode, word_encode hfit]
  rw [if_pos (by omega), if_neg (by omega)]

theorem name_encode (record : Record) (rest : Bytes) :
    Span.name (record.encode ++ rest) ⟨0, record.length⟩ = record.name := by
  have hhead : record.encode ++ rest =
      (record.head ++ [record.length.toUInt8, (record.length / 256).toUInt8, record.kind]) ++
        (record.name ++ rest) := by
    rw [Record.encode_eq]
    simp only [List.append_assoc, List.cons_append, List.nil_append]
  have hlength : (record.head ++ [record.length.toUInt8, (record.length / 256).toUInt8,
      record.kind]).length = nameOffset := by
    rw [List.length_append, Record.length_head]
    rfl
  rw [Span.name, hhead, Nat.zero_add, ← hlength, List.drop_left, hlength, Record.length,
    Nat.add_sub_cancel_left, List.take_left]

/-- Reading goes on behind a record where its bytes end. -/
theorem namesFrom_encode {record : Record} (hfit : record.Encodable) (rest : Bytes) (limit : Nat) :
    namesFrom (record.encode ++ rest) (limit + 1) 0 = record.name :: namesFrom rest limit 0 := by
  rw [namesFrom_eq_cons (lengthAt?_encode hfit rest), name_encode, Nat.zero_add,
    ← Record.length_encode, ← namesFrom_append record.encode rest limit 0, Nat.add_zero]

theorem namesFrom_encoded {tail : Bytes} (htail : lengthAt? tail 0 = none) :
    ∀ {records : List Record} {limit : Nat}, (∀ record ∈ records, record.Encodable) →
      records.length ≤ limit →
      namesFrom (records.flatMap Record.encode ++ tail) limit 0 = records.map Record.name
  | [], limit, _, _ => namesFrom_eq_nil htail limit
  | record :: rest, 0, _, hlimit => absurd hlimit (Nat.not_succ_le_zero _)
  | record :: rest, limit + 1, hfit, hlimit => by
    rw [List.flatMap_cons, List.append_assoc, namesFrom_encode (hfit record List.mem_cons_self),
      namesFrom_encoded htail (fun r hr => hfit r (List.mem_cons_of_mem _ hr))
        (Nat.le_of_succ_le_succ hlimit), List.map_cons]

theorem length_le_length_encoded : ∀ (records : List Record),
    records.length ≤ (records.flatMap Record.encode).length
  | [] => Nat.le_refl 0
  | record :: rest => by
    have hrest := length_le_length_encoded rest
    have hname := record.nameOffset_le_length
    have hpos : 0 < nameOffset := by decide
    rw [List.flatMap_cons, List.length_append, Record.length_encode, List.length_cons]
    omega

/-- A read of encoded records, followed by bytes that form no record, has the names of those
    records. -/
theorem names_encoded {records : List Record} (hfit : ∀ record ∈ records, record.Encodable)
    {tail : Bytes} (htail : lengthAt? tail 0 = none) :
    names (records.flatMap Record.encode ++ tail) = records.map Record.name := by
  have hlength := length_le_length_encoded records
  rw [names_eq, namesFrom_encoded htail hfit]
  rw [List.length_append]
  omega

end Read

end Descriptor

end CleanLaunch
