import CleanLaunch.Shell.Floating
import CleanLaunch.Shell.Process
import CleanLaunch.Shell.Utility.Input

/-! How utilities start other programs, and how they read times and signals for that. -/

namespace CleanLaunch.Shell.Utility

open Shell.Action
open Files (Image)

/-- Where programs are looked for if the environment does not say it. -/
def usualPath : Bytes := utf8 "/bin:/usr/bin"

/-- Finds the program of some arguments. A file that is no program is taken for a script. The error says why
    nothing can be started. -/
def locate (arguments : List Bytes) : Action (Except Errno Image) := do
  let state ← get
  let name := arguments.headD []
  let path := (environmentValue? state "PATH").getD usualPath
  let files := if name.contains Path.slash || name.isEmpty then [name]
    else Lookup.candidates path name
  let load (path : Bytes) (arguments : List Bytes) : Except Errno Image :=
    Image.load state.tree state.directory path arguments state.environment
  let shell := utf8 "/bin/sh"
  let mut errno := Errno.ENOENT
  for file in files do
    match load file arguments with
    | .ok image => return .ok image
    | .error .ENOEXEC => return load shell (shell :: file :: arguments.drop 1)
    | .error .EACCES => errno := .EACCES
    | .error .ENOENT => pure ()
    | .error .ENOTDIR => if name.contains Path.slash then errno := .ENOTDIR
    | .error other => return .error other
  return .error errno

/-- Runs a program in place of this process. The result says why nothing could be started. -/
def execute (run : Runner) (arguments : List Bytes) : Action Errno := do
  match ← locate arguments with
  | .error errno => return errno
  | .ok image =>
    Process.become run (← get).environment image
    return .ENOENT

/-- The status of a command that could not be started. -/
def startFailure (errno : Errno) : Nat := if errno = .ENOENT then 127 else 126

/-- Status of utilities that start others if they themselves fail. -/
def ownFailure : Nat := 125

/-- Starts a command, and complains if that fails. -/
def startOr (run : Runner) (arguments : List Bytes) (complaint : Bytes → Action Bytes) :
    Action Nat := do
  let errno ← execute run arguments
  complain ((← complaint (arguments.headD [])) ++ utf8 ": " ++ errno.wording)
  return startFailure errno

/-- A time like `1.5m` in ticks. One without an end is given as none. -/
def duration? (text : Bytes) : Option (Option Nat) := do
  let read ← Floating.read? .double text
  let factor ← match read.rest with
    | [] | [115] => some 1
    | [109] => some 60
    | [104] => some 3600
    | [100] => some 86400
    | _ => none
  match read.value with
  | .finite negative mantissa exponent =>
    if negative && mantissa ≠ 0 then none
    let (top, bottom) := Floating.quotient (mantissa * factor * Host.ticksPerSecond) exponent 0
    return some (top / bottom)
  | .infinite negative => if negative then none else some none
  | .undefined _ => none

/-- The largest time that is told from one without an end, in ticks. -/
def farTime : Nat := 1000000000 * Host.ticksPerSecond

/-- Names of signals that stand for others. -/
def signalAliases : List (String × Nat) := [("STKFLT", 16), ("IOT", 6), ("CLD", 17), ("POLL", 29)]

/-- The signal that a word stands for: a number, perhaps of a status, or a name. -/
def operandSignal? (word : Bytes) : Option Nat :=
  let isKnown (n : Nat) : Bool := n ≤ Signal.maxNumber && n ≠ 32 && n ≠ 33
  match natural? word with
  | some n => some (if 255 ≤ n then n % 256 else n % 128) |>.filter isKnown
  | none =>
    let capital := word.map fun byte => if 97 ≤ byte && byte ≤ 122 then byte - 32 else byte
    let named (name : Bytes) : Option Nat :=
      (((signalAliases.find? fun entry => utf8 entry.1 = name).map (·.2)).or
        (if name.all Bytes.isDigit then none else Signal.numberOfName? name)).filter isKnown
    (named capital).or <| if (utf8 "SIG").isPrefixOf capital then named (capital.drop 3) else none

end CleanLaunch.Shell.Utility
