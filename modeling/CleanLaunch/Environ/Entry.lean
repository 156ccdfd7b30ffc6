import CleanLaunch.Report.LaunchError

/-! Environment entries and the keys they may have.

    An entry is any byte string; one that holds `=` has a key, the bytes before the first `=`. An
    `Allowlist` says which inherited entries may reach a command: `Allowlist.passes`. -/

namespace CleanLaunch

/-- Keys of inherited entries that may reach a command. Keys are compared byte by byte. -/
structure Allowlist where
  keys : List Bytes
  deriving DecidableEq

namespace Allowlist

/-- The keys passed on when the caller names none. -/
def standard : Allowlist :=
  ⟨["USER", "LOGNAME", "HOME", "LANG", "LC_ALL", "LC_COLLATE", "LC_CTYPE", "LC_MESSAGES",
    "LC_MONETARY", "LC_NUMERIC", "LC_TIME", "PATH", "PWD", "SHELL", "TERM", "TMPDIR",
    "LD_LIBRARY_PATH", "LD_PRELOAD", "POSIXLY_CORRECT", "HOSTALIASES", "TZ", "TZDIR", "TERMCAP",
    "COLUMNS", "LINES"].map utf8⟩

def contains (allow : Allowlist) (key : Bytes) : Bool := allow.keys.contains key

end Allowlist

namespace Entry

/-- The byte `=`. -/
def equals : UInt8 := 61

/-- Keys of this length or longer never pass. -/
def maxKeyLength : Nat := 256

/-- The bytes before the first `=`; an entry without `=` has no key. -/
def key? (entry : Bytes) : Option Bytes :=
  if entry.contains equals then some (entry.takeWhile (· != equals)) else none

/-- The bytes after the first `=`. -/
def value? (entry : Bytes) : Option Bytes :=
  if entry.contains equals then some ((entry.dropWhile (· != equals)).drop 1) else none

/-- Builds the entry `key=value`. The key must be non-empty and free of `=`, and the whole free of
    NUL; the first of these that fails is reported. -/
def make (key value : Bytes) : Except LaunchError Bytes :=
  if key.isEmpty then .error .emptyKey
  else if key.contains equals then .error .equalsInKey
  else
    let entry := key ++ equals :: value
    match entry.nulOffset? with
    | some position => .error (.nul position)
    | none => .ok entry

end Entry

/-- Does an inherited entry reach the command? It needs a key, a short one, that is allowed. -/
def Allowlist.passes (allow : Allowlist) (entry : Bytes) : Bool :=
  match Entry.key? entry with
  | some key => key.length < Entry.maxKeyLength && allow.contains key
  | none => false

end CleanLaunch
