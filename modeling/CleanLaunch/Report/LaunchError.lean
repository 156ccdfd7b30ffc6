import CleanLaunch.Report.Errno

/-! Why an operation of the launcher failed.

    A `LaunchError` names the cause. `LaunchError.message` is its wording, `LaunchError.source?` the
    text of the failure below it, and `LaunchError.system` what a caller sees who only knows
    input/output errors. -/

namespace CleanLaunch

/-- Why no executable was found for a name. -/
inductive SearchError
  | notFound | noPathToSearch | cannotCanonicalize
  deriving DecidableEq

def SearchError.message : SearchError → Bytes
  | .notFound => utf8 "cannot find binary path"
  | .noPathToSearch => utf8 "no path to search and provided name is not an absolute path"
  | .cannotCanonicalize => utf8 "cannot canonicalize path"

inductive LaunchError
  /-- An argument of the caller cannot be used, for the stated reason. -/
  | invalidArgument (reason : Bytes)
  /-- The listing of open descriptors cannot be opened or read. -/
  | enumerationUnavailable (cause : Errno)
  /-- No child was created. -/
  | forkFailed (cause : Errno)
  | shellNotFound (cause : SearchError)
  /-- A string for the kernel has a NUL byte at the given offset. -/
  | nul (position : Nat)
  deriving DecidableEq

namespace LaunchError

def noCapacity : LaunchError := .invalidArgument (utf8 "environment buffer has no capacity")

def emptyKey : LaunchError := .invalidArgument (utf8 "environment key is empty")

def equalsInKey : LaunchError := .invalidArgument (utf8 "environment key contains '='")

/-- Wording of the NUL failure by itself. -/
def nulText (position : Nat) : Bytes :=
  utf8 "nul byte found in provided data at position: " ++ Bytes.decimal position

def message : LaunchError → Bytes
  | .invalidArgument reason => utf8 "invalid argument: " ++ reason
  | .enumerationUnavailable cause =>
    utf8 "cannot enumerate open file descriptors: " ++ cause.text
  | .forkFailed cause => utf8 "fork failed: " ++ cause.text
  | .shellNotFound cause => utf8 "shell not found: " ++ cause.message
  | .nul position => utf8 "interior nul byte: " ++ nulText position

/-- Text of the failure that caused this one, where that is a failure of its own. -/
def source? : LaunchError → Option Bytes
  | .shellNotFound cause => some cause.message
  | .nul position => some (nulText position)
  | _ => none

/-- A failure as an input/output error: category, wording and, if the kernel reported it, number. -/
structure System where
  category : ErrorCategory
  message : Bytes
  number? : Option Nat
  deriving DecidableEq

def System.ofErrno (errno : Errno) : System :=
  ⟨errno.category, errno.systemText, some errno.number⟩

def system : LaunchError → System
  | .invalidArgument reason => ⟨.invalidInput, reason, none⟩
  | .enumerationUnavailable cause | .forkFailed cause => .ofErrno cause
  | .shellNotFound cause => ⟨.notFound, cause.message, none⟩
  | .nul position => ⟨.invalidFilename, nulText position, none⟩

end LaunchError

end CleanLaunch
