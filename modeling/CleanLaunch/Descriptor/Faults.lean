import CleanLaunch.Descriptor.Pruning

/-! Forced failures of the kernel.

    `Faults` lists the system calls that are made to fail and how; `Faults.kernel` is the kernel that
    otherwise works as usual. -/

namespace CleanLaunch.Descriptor

/-- System calls that are made to fail. -/
structure Faults where
  /-- Opening the listing. -/
  openListing : Option Errno := none
  /-- Reading the listing; after the scripted reads, if there are any. -/
  readListing : Option Errno := none
  /-- The reads of the listing, in place of the kernel's own. -/
  reads : Option (List Bytes) := none
  /-- The system reports no limit on descriptors. -/
  noReportedLimit : Bool := false
  /-- Descriptors that do not close. -/
  close : List (Nat × Errno) := []
  fork : Option Errno := none
  exec : Option Errno := none

/-- The kernel of a process with a soft limit, under forced failures. -/
def Faults.kernel (faults : Faults) (limit : Nat) : Kernel where
  limit := limit
  reportedLimit := if faults.noReportedLimit then none else some limit
  openFailure := faults.openListing
  listing :=
    { scripted := faults.reads
      failure := faults.readListing.map ((faults.reads.getD []).length, ·) }
  closeFailure n := faults.close.lookup n

end CleanLaunch.Descriptor
