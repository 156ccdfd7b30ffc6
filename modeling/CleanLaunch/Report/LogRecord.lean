import CleanLaunch.Report.Errno

/-! What the launcher reports to its caller's log.

    Everything it reports is a `LogEvent`. An event has a level and a message; all records carry the
    one `logTarget`. -/

namespace CleanLaunch

/-- Target of every record. -/
def logTarget : Bytes := utf8 "nowait_exec"

inductive Level
  | error | warn | debug
  deriving DecidableEq

def Level.name : Level → Bytes
  | .error => utf8 "ERROR"
  | .warn => utf8 "WARN"
  | .debug => utf8 "DEBUG"

inductive LogEvent
  /-- Closing one descriptor failed. -/
  | closeFailed (descriptor : Nat) (cause : Errno)
  /-- The listing of open descriptors cannot be opened or read. -/
  | listingUnavailable (cause : Errno)
  | forkFailed (command : Bytes) (cause : Errno)
  | started (pid : Nat) (command : Bytes)
  deriving DecidableEq

namespace LogEvent

def level : LogEvent → Level
  | .closeFailed .. => .warn
  | .listingUnavailable .. | .forkFailed .. => .error
  | .started .. => .debug

/-- Wording of a failed close, in the caller's log and in the child's own lines. -/
def closeFailedText (descriptor : Nat) (cause : Errno) : Bytes :=
  utf8 "error closing fd=" ++ Bytes.decimal descriptor ++ utf8 ": " ++ cause.text

/-- Message of an event, with process ids shown as `showPid` says. -/
def messageWith (showPid : Nat → Bytes) : LogEvent → Bytes
  | .closeFailed descriptor cause => closeFailedText descriptor cause
  | .listingUnavailable cause => utf8 "cannot open /proc/self/fd: " ++ cause.text
  | .forkFailed command cause =>
    utf8 "fork failed for command '" ++ command ++ utf8 "': " ++ cause.text
  | .started pid command => utf8 "started pid " ++ showPid pid ++ utf8 ": " ++ command

/-- Message of an event, with process ids in decimal. -/
def message (event : LogEvent) : Bytes := event.messageWith Bytes.decimal

end LogEvent

end CleanLaunch
