import CleanLaunch.Report.Errno

/-! The two languages that shells speak, and how each of them words a complaint.

    A `Complaint` is the cause of an error that any part of a shell may come to. `Complaint.text` is what
    is said of it, behind the shell's name and the line. -/

namespace CleanLaunch.Shell

/-- The language of a shell. -/
inductive Dialect
  /-- The standard language. -/
  | standard
  /-- The standard language with lists, conditions in double brackets and other extensions. -/
  | extended
  deriving DecidableEq

/-- What a shell complains of. -/
inductive Complaint
  /-- A parameter that is not set, where only set ones may be used. -/
  | unset (name : Bytes)
  /-- A parameter that a word requires, with the message of that word, if it has one. `colon` says that
      a null value counts as unset. -/
  | required (name : Bytes) (colon : Bool) (message : Option Bytes)
  /-- A use of a parameter that is not part of the language. -/
  | badSubstitution (text : Bytes)
  | readOnly (name : Bytes)
  | badName (name : Bytes)
  /-- A command that cannot be started. -/
  | cannotStart (name : Bytes) (errno : Errno)
  /-- A file that cannot be opened, or created. -/
  | cannotOpen (creates : Bool) (path : Bytes) (errno : Errno)
  /-- A descriptor that cannot be copied or moved. -/
  | descriptor (number : Nat) (errno : Errno)
  /-- A descriptor that is no number. -/
  | badDescriptor (text : Bytes)
  | noPipe (errno : Errno)
  /-- A builtin that cannot write what it prints. -/
  | cannotPrint (name : Bytes) (errno : Errno)
  | noTerminal

namespace Complaint

/-- Does the complaint end a shell with the status of a command that is not found? -/
def isGrave : Complaint → Bool
  | .unset _ | .required .. => true
  | _ => false

/-- Does an error mean that there is no such file? -/
def meansMissing (errno : Errno) : Bool := errno = .ENOENT || errno = .ENOTDIR

/-- What is said in the standard language. -/
def standardText : Complaint → Bytes
  | .unset name => name ++ utf8 ": parameter not set"
  | .required name colon message =>
    name ++ utf8 ": " ++
      message.getD (utf8 (if colon then "parameter not set or null" else "parameter not set"))
  | .badSubstitution _ => utf8 "Bad substitution"
  | .readOnly name => name ++ utf8 ": is read only"
  | .badName name => name ++ utf8 ": bad variable name"
  | .cannotStart name errno =>
    name ++ utf8 ": " ++ (if meansMissing errno then utf8 "not found" else errno.wording)
  | .cannotOpen creates path errno =>
    utf8 (if creates then "cannot create " else "cannot open ") ++ path ++ utf8 ": " ++
      (if !meansMissing errno then errno.wording
        else utf8 (if creates then "Directory nonexistent" else "No such file"))
  | .descriptor number errno => Bytes.decimal number ++ utf8 ": " ++ errno.wording
  | .badDescriptor _ => utf8 "Syntax error: Bad fd number"
  | .noPipe _ => utf8 "Pipe call failed"
  | .cannotPrint name _ => name ++ utf8 ": I/O error"
  | .noTerminal => utf8 "can't access tty; job control turned off"

/-- What is said in the extended language. -/
def extendedText : Complaint → Bytes
  | .unset name => name ++ utf8 ": unbound variable"
  | .required name colon message =>
    name ++ utf8 ": " ++
      message.getD (utf8 (if colon then "parameter null or not set" else "parameter not set"))
  | .badSubstitution text => text ++ utf8 ": bad substitution"
  | .readOnly name => name ++ utf8 ": readonly variable"
  | .badName name => utf8 "\x60" ++ name ++ utf8 "': not a valid identifier"
  | .cannotStart name errno =>
    name ++ utf8 ": " ++ (if errno = .ENOENT && !name.contains 47 then utf8 "command not found"
      else errno.wording)
  | .cannotOpen creates path errno =>
    path ++ utf8 ": " ++ (if creates && errno = .EEXIST then utf8 "cannot overwrite existing file"
      else errno.wording)
  | .descriptor number errno => Bytes.decimal number ++ utf8 ": " ++ errno.wording
  | .badDescriptor text => text ++ utf8 ": ambiguous redirect"
  | .noPipe errno => utf8 "cannot make pipe for command substitution: " ++ errno.wording
  | .cannotPrint _ errno => utf8 "write error: " ++ errno.wording
  | .noTerminal => utf8 "no job control in this shell"

/-- What is said of a complaint. -/
def text : Dialect → Complaint → Bytes
  | .standard => standardText
  | .extended => extendedText

end Complaint

end CleanLaunch.Shell
