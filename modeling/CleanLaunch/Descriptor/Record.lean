import CleanLaunch.Bytes

/-! Directory records.

    A read of a directory returns records one after another. A record is eight bytes of inode, eight
    of offset, its own length in two bytes, lowest first, one byte of type, and the name up to the
    end of the record. `Record.encode` writes one record; `Read.spans` finds the records of a read
    and `Read.names` their names.

    A read is abandoned at the first place that holds no whole record: fewer bytes than a record's
    head, a length of zero, or a length that reaches past the end of the read. A record that is shorter
    than its own head is given an empty name by `Read.names`; `Read.scan?`, which looks at nothing that
    is not there, has no answer for a read with such a record. -/

namespace CleanLaunch.Descriptor

/-- A directory entry as the kernel lists it. -/
structure Record where
  inode : UInt64
  offset : UInt64
  kind : UInt8
  name : Bytes
  deriving DecidableEq

/-- Where a record's length stands. -/
def lengthOffset : Nat := 16

/-- Where a record's name begins; no shorter record is whole. -/
def nameOffset : Nat := 19

namespace Record

/-- Bytes of a record, head and name. -/
def length (record : Record) : Nat := nameOffset + record.name.length

def encode (record : Record) : Bytes :=
  Bytes.littleEndian 8 record.inode.toNat ++ Bytes.littleEndian 8 record.offset.toNat ++
    Bytes.littleEndian 2 record.length ++ record.kind :: record.name

/-- Bytes of a record whose name is NUL-terminated and padded to a multiple of eight. -/
def paddedLength (name : Bytes) : Nat := (nameOffset + name.length + 1 + 7) / 8 * 8

/-- A record with a NUL-terminated and padded name, as the kernel makes it. -/
def padded (inode offset : UInt64) (kind : UInt8) (name : Bytes) : Record :=
  ⟨inode, offset, kind, name ++ List.replicate (paddedLength name - nameOffset - name.length) 0⟩

end Record

/-- A record's place in a read. -/
structure Span where
  start : Nat
  length : Nat
  deriving DecidableEq

/-- The name of the record at a place. -/
def Span.name (read : Bytes) (span : Span) : Bytes :=
  (read.drop (span.start + nameOffset)).take (span.length - nameOffset)

namespace Read

/-- The number in two bytes, lowest first. -/
def word (read : Bytes) (index : Nat) : Nat :=
  (read.getD index 0).toNat + 256 * (read.getD (index + 1) 0).toNat

/-- Length of the whole record at an offset, if one is there. -/
def lengthAt? (read : Bytes) (offset : Nat) : Option Nat :=
  if offset + nameOffset ≤ read.length then
    let length := word read (offset + lengthOffset)
    if length = 0 ∨ offset + length > read.length then none else some length
  else none

/-- Up to `limit` records that follow each other from an offset on. -/
def spansFrom (read : Bytes) : (limit : Nat) → (offset : Nat) → List Span
  | 0, _ => []
  | limit + 1, offset =>
    match lengthAt? read offset with
    | none => []
    | some length => ⟨offset, length⟩ :: spansFrom read limit (offset + length)

/-- The records of a read. Every record takes up at least a byte, so the length of the read bounds
    their number. -/
def spans (read : Bytes) : List Span := spansFrom read read.length 0

/-- The names of the records of a read. -/
def names (read : Bytes) : List Bytes := (spans read).map (Span.name read)

/-! ### Reading with every access checked -/

/-- The number in two bytes, lowest first, if the read has both. -/
def word? (read : Bytes) (index : Nat) : Option Nat := do
  let low ← read[index]?
  let high ← read[index + 1]?
  return low.toNat + 256 * high.toNat

/-- The bytes from one place to before another, if that is no earlier and the read goes so far. -/
def slice? (read : Bytes) (first behind : Nat) : Option Bytes :=
  if first ≤ behind ∧ behind ≤ read.length then some ((read.drop first).take (behind - first))
  else none

/-- The names of the records from an offset on, if everything that is looked at is there. -/
def scan? (read : Bytes) (offset : Nat) : Option (List Bytes) :=
  if offset + nameOffset ≤ read.length then
    (word? read (offset + lengthOffset)).bind fun length =>
      if _ : length = 0 ∨ offset + length > read.length then some []
      else
        (slice? read (offset + nameOffset) (offset + length)).bind fun name =>
          (scan? read (offset + length)).map (name :: ·)
  else some []
termination_by read.length - offset
decreasing_by omega

end Read

end CleanLaunch.Descriptor
