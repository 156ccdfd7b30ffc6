import CleanLaunch.Descriptor.Listing
import CleanLaunch.Report.LaunchError
import CleanLaunch.Report.LogRecord

/-! Closing the descriptors above a threshold.

    `prune` closes what the listing names, above the threshold and apart from the listing's own
    descriptor, and goes on past every close that fails. `closeRange` closes every number from the
    threshold to the process's limit and needs no listing. `closeAbove` is `prune` for callers with
    a log.

    How the kernel answers is a value, `Kernel`; the calls themselves are functions of it and of the
    descriptor table. -/

namespace CleanLaunch.Descriptor

/-- How the kernel answers a process that closes its descriptors. -/
structure Kernel where
  /-- The soft limit on descriptor numbers: no descriptor is opened at or above it. -/
  limit : Nat := 1024
  /-- The number of descriptors the system reports a process may have, if it reports one. -/
  reportedLimit : Option Nat := some limit
  /-- Error of opening the listing. -/
  openFailure : Option Errno := none
  listing : Listing := {}
  /-- Error of closing a descriptor, which then stays open. -/
  closeFailure : Nat → Option Errno := fun _ => none

/-- One call that closes a descriptor, and its error if it failed. -/
structure Attempt where
  number : Nat
  failure : Option Errno
  deriving DecidableEq

/-- The calls that failed, in order. -/
def failures (attempts : List Attempt) : List (Nat × Errno) :=
  attempts.filterMap fun attempt => attempt.failure.map (attempt.number, ·)

namespace Kernel

/-- Closes one descriptor. A number that is not open is an error of its own. -/
def close (kernel : Kernel) (table : Table) (n : Nat) : Option Errno × Table :=
  match kernel.closeFailure n with
  | some errno => (some errno, table)
  | none => if n ∈ table then (none, table.erase n) else (some .EBADF, table)

/-- Closes descriptors in order, whether or not earlier ones failed. -/
def closeAll (kernel : Kernel) (table : Table) : List Nat → Table × List Attempt
  | [] => (table, [])
  | n :: rest =>
    let (failure, closed) := kernel.close table n
    let (final, attempts) := kernel.closeAll closed rest
    (final, ⟨n, failure⟩ :: attempts)

/-- Opens the listing on the lowest free number. -/
def openListing (kernel : Kernel) (table : Table) : Except Errno Nat :=
  match kernel.openFailure with
  | some errno => .error errno
  | none => if table.lowestFree < kernel.limit then .ok table.lowestFree else .error .EMFILE

end Kernel

/-- The descriptors a read names that are to be closed, in its order. -/
def targets (keep : Int) (own : Nat) (read : Bytes) : List Nat :=
  ((Read.names read).filterMap parse?).filter fun n => keep < (n : Int) && n != own

/-- What pruning did: the table it left, its calls in order, and whether the listing was read to its
    end. -/
structure Pruning where
  table : Table
  attempts : List Attempt
  result : Except Errno Unit
  /-- The listing's own descriptor, when closing it failed. The kernel drops it when a new program
      starts. -/
  leftover : Option Nat := none

/-- Reads on from a cursor, closing what each read names. -/
def pruneReads (kernel : Kernel) (keep : Int) (own : Nat) :
    (bound : Nat) → Cursor → Table → Pruning
  | 0, _, table => ⟨table, [], .ok (), none⟩
  | bound + 1, cursor, table =>
    match kernel.listing.read table cursor with
    | .error errno => ⟨table, [], .error errno, none⟩
    | .ok ([], _) => ⟨table, [], .ok (), none⟩
    | .ok (read, next) =>
      let (closed, attempts) := kernel.closeAll table (targets keep own read)
      let later := pruneReads kernel keep own bound next closed
      { later with attempts := attempts ++ later.attempts }

/-- Closes every listed descriptor above `keep`, except the one the listing is read through. -/
def prune (kernel : Kernel) (keep : Int) (table : Table) : Pruning :=
  match kernel.openListing table with
  | .error errno => ⟨table, [], .error errno, none⟩
  | .ok own =>
    let opened := table.insert own
    let reads := pruneReads kernel keep own (kernel.listing.bound opened) {} opened
    match kernel.close reads.table own with
    | (some _, final) => { reads with table := final, leftover := some own }
    | (none, final) => { reads with table := final }

/-- A number as a C integer of 32 bits holds it. -/
def wrapped (n : Int) : Int := n.bmod 4294967296

/-- The numbers from the one after `keep` to below a limit. The one after is a C integer, and so a
    negative number if `keep` is the largest there is. -/
def numbersAbove (keep : Int) (limit : Nat) : List Nat :=
  let first := (wrapped (keep + 1)).toNat
  List.range' first (limit - first)

/-- Where closing by range ends when the system reports no limit. -/
def assumedLimit : Nat := 1024

/-- Where closing by range ends: at the reported limit, taken as a C integer. A negative one leaves
    nothing to close. -/
def Kernel.rangeEnd (kernel : Kernel) : Nat :=
  match kernel.reportedLimit with
  | some limit => (wrapped limit).toNat
  | none => assumedLimit

/-- Closes every number above `keep` and below the end of the range, open or not. -/
def closeRange (kernel : Kernel) (keep : Int) (table : Table) : Table :=
  (kernel.closeAll table (numbersAbove keep kernel.rangeEnd)).1

/-- What a caller sees of pruning its own descriptors. -/
structure PruneReport where
  table : Table
  log : List LogEvent
  result : Except LaunchError Unit

/-- Closes every descriptor above `keep`. Failures to close are logged and passed over. -/
def closeAbove (kernel : Kernel) (keep : Int) (table : Table) : PruneReport :=
  let pruning := prune kernel keep table
  let warnings := (failures pruning.attempts).map fun failed => .closeFailed failed.1 failed.2
  match pruning.result with
  | .ok () => ⟨pruning.table, warnings, .ok ()⟩
  | .error errno =>
    ⟨pruning.table, warnings ++ [.listingUnavailable errno],
      .error (.enumerationUnavailable errno)⟩

end CleanLaunch.Descriptor
