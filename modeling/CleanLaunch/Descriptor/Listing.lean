import CleanLaunch.Descriptor.Number
import CleanLaunch.Descriptor.Record
import CleanLaunch.Descriptor.Table

/-! The listing of a process's open descriptors.

    The kernel lists `.` and `..`, then the open descriptors in ascending order. It fills one read
    after another, each from the table as it stands at that moment and from the entry after the last
    one reported. How many entries a read carries is the kernel's choice, at least one and as many
    as the buffer holds at most: `Listing.cut`. A listing may also be scripted, each read's bytes
    given beforehand, and a read may fail. -/

namespace CleanLaunch.Descriptor

/-- Size of the buffer for one read. -/
def readCapacity : Nat := 2048

/-- How the reads of a listing go. -/
structure Listing where
  /-- The bytes of the reads when they are given beforehand; after them the listing ends. -/
  scripted : Option (List Bytes) := none
  /-- The number of successful reads before one fails, and the error of that one. -/
  failure : Option (Nat × Errno) := none
  /-- How many entries the kernel offers in a read, by the number of reads before it. -/
  cut : Nat → Nat := fun _ => readCapacity

/-- How far a listing has been read: reads made, and entries of the live listing passed. -/
structure Cursor where
  reads : Nat := 0
  position : Nat := 0
  deriving DecidableEq

namespace Listing

/-- Place of a descriptor in the live listing, behind `.` and `..`. -/
def placeOf (n : Nat) : Nat := n + 2

/-- The entries of the live listing with their places. -/
def entries (table : Table) : List (Nat × Bytes) :=
  (0, utf8 ".") :: (1, utf8 "..") :: table.numbers.map fun n => (placeOf n, nameOf n)

/-- The entries from a place on. -/
def pending (table : Table) (position : Nat) : List (Nat × Bytes) :=
  (entries table).filter (position ≤ ·.1)

/-- As many leading entries as fit into `room` bytes of records. -/
def fitting : (room : Nat) → List (Nat × Bytes) → List (Nat × Bytes)
  | _, [] => []
  | room, entry :: rest =>
    if Record.paddedLength entry.2 ≤ room then
      entry :: fitting (room - Record.paddedLength entry.2) rest
    else []

/-- The entries of one live read. -/
def chosen (listing : Listing) (table : Table) (cursor : Cursor) : List (Nat × Bytes) :=
  fitting readCapacity
    ((pending table cursor.position).take (max 1 (listing.cut cursor.reads)))

/-- Type byte of a symbolic link, which every entry for a descriptor is. -/
def linkKind : UInt8 := 10

/-- The record of an entry of the live listing. -/
def record (entry : Nat × Bytes) : Record :=
  .padded (entry.1 + 1).toUInt64 (entry.1 + 1).toUInt64 linkKind entry.2

/-- The bytes of one live read and the place of the entry that comes next. -/
def liveRead (listing : Listing) (table : Table) (cursor : Cursor) : Bytes × Nat :=
  let entries := listing.chosen table cursor
  (entries.flatMap fun entry => (record entry).encode,
    (entries.getLast?.map fun entry => entry.1 + 1).getD cursor.position)

/-- One read: its bytes, none at the end of the listing, or its error. -/
def read (listing : Listing) (table : Table) (cursor : Cursor) :
    Except Errno (Bytes × Cursor) :=
  match listing.failure with
  | some (reads, errno) =>
    if reads ≤ cursor.reads then .error errno else .ok (succeed listing table cursor)
  | none => .ok (succeed listing table cursor)
where
  succeed (listing : Listing) (table : Table) (cursor : Cursor) : Bytes × Cursor :=
    match listing.scripted with
    | some reads => (reads.getD cursor.reads [], { cursor with reads := cursor.reads + 1 })
    | none =>
      let (bytes, position) := listing.liveRead table cursor
      (bytes, ⟨cursor.reads + 1, position⟩)

/-- More reads than a listing can take before it ends, for a table that does not grow. -/
def bound (listing : Listing) (table : Table) : Nat :=
  match listing.scripted with
  | some reads => reads.length + 1
  | none => table.numbers.length + 3

end Listing

end CleanLaunch.Descriptor
