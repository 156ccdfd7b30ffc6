import CleanLaunch.Environ.Entry

/-! Environment arrays.

    An array has a fixed number of slots, its capacity; each holds an entry or nothing. A program
    that reads the array sees the entries before the first empty slot, the sentinel:
    `EnvArray.visible`. What stands behind the sentinel is stale and stays as it is. Of `n` slots at
    most `n - 1` can be visible after any operation, since the last slot is only ever a sentinel. -/

namespace CleanLaunch

/-- An environment array. -/
structure EnvArray where
  slots : List (Option Bytes)
  deriving DecidableEq

namespace EnvArray

def capacity (array : EnvArray) : Nat := array.slots.length

/-- An array of empty slots. -/
def empty (capacity : Nat) : EnvArray := ⟨List.replicate capacity none⟩

/-- The entries before the first empty slot. -/
def visible (array : EnvArray) : List Bytes :=
  (array.slots.takeWhile Option.isSome).filterMap id

/-- Index of the last slot, which stays reserved for the sentinel. -/
def last (array : EnvArray) : Nat := array.capacity - 1

/-- Where the next entry goes: the first empty slot, or the last slot of an array without one. -/
def insertionPoint (array : EnvArray) : Nat :=
  min (array.slots.findIdx Option.isNone) array.last

/-- The caller writes one slot. -/
def set (array : EnvArray) (index : Nat) (slot : Option Bytes) : EnvArray :=
  ⟨array.slots.set index slot⟩

/-- Writes entries one after another from slot `used` on while slots before the last remain, then
    the sentinel behind them. The count is the number of slots in use, sentinel included. -/
def store (array : EnvArray) (used : Nat) : List Bytes → EnvArray × Nat
  | [] => (array.set used none, used + 1)
  | entry :: rest =>
    if used = array.last then (array.set used none, used + 1)
    else (array.set used (some entry)).store (used + 1) rest

/-- Replaces the visible entries by those of `input` that pass, in order, as many as fit. Without
    input the array becomes empty. -/
def filter (array : EnvArray) (input : Option (List Bytes)) (allow : Allowlist) :
    Except LaunchError (EnvArray × Nat) :=
  if array.slots.isEmpty then .error .noCapacity
  else .ok (array.store 0 ((input.getD []).filter allow.passes))

/-- Adds entries behind the visible ones, in order, as many as fit. Repeated keys are kept. -/
def append (array : EnvArray) (extra : Option (List Bytes)) :
    Except LaunchError (EnvArray × Nat) :=
  if array.slots.isEmpty then .error .noCapacity
  else .ok (array.store array.insertionPoint (extra.getD []))

/-- The array handed to a new program: a copy of the visible entries in as many slots. -/
def exported (array : EnvArray) : EnvArray :=
  ⟨array.visible.map some ++ List.replicate (array.capacity - array.visible.length) none⟩

/-- One operation of a caller on an array. -/
inductive Step
  | filter (input : Option (List Bytes)) (allow : Allowlist)
  | append (extra : Option (List Bytes))
  /-- Builds an entry from key and value and adds it. -/
  | appendEntry (key value : Bytes)
  | set (index : Nat) (slot : Option Bytes)

/-- Runs one operation: the count of slots in use where it reports one, and the array afterwards. -/
def step (array : EnvArray) : Step → Except LaunchError (Option Nat) × EnvArray
  | .filter input allow => outcome (array.filter input allow)
  | .append extra => outcome (array.append extra)
  | .appendEntry key value =>
    match Entry.make key value with
    | .error error => (.error error, array)
    | .ok entry => outcome (array.append (some [entry]))
  | .set index slot => (.ok none, array.set index slot)
where
  /-- A failing operation leaves the array alone. -/
  outcome : Except LaunchError (EnvArray × Nat) → Except LaunchError (Option Nat) × EnvArray
    | .error error => (.error error, array)
    | .ok (array, used) => (.ok (some used), array)

/-- Runs operations in order, with what each reports and leaves. -/
def run (array : EnvArray) : List Step → List (Except LaunchError (Option Nat) × EnvArray)
  | [] => []
  | first :: rest => array.step first :: (array.step first).2.run rest

end EnvArray

end CleanLaunch
