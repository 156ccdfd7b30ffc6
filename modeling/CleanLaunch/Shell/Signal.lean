import CleanLaunch.Bytes

/-! Signals: their names, what the shell says of a process they end, and which of them are harmless. -/

namespace CleanLaunch.Shell

structure Signal where
  number : Nat
  name : String
  /-- What is said of a process that the signal ended. -/
  text : String

namespace Signal

/-- The signal numbered 0 stands for the end of the process. -/
def all : List Signal :=
  [⟨0, "EXIT", ""⟩, ⟨1, "HUP", "Hangup"⟩, ⟨2, "INT", "Interrupt"⟩, ⟨3, "QUIT", "Quit"⟩,
   ⟨4, "ILL", "Illegal instruction"⟩, ⟨5, "TRAP", "Trace/breakpoint trap"⟩,
   ⟨6, "ABRT", "Aborted"⟩, ⟨7, "BUS", "Bus error"⟩, ⟨8, "FPE", "Floating point exception"⟩,
   ⟨9, "KILL", "Killed"⟩, ⟨10, "USR1", "User defined signal 1"⟩,
   ⟨11, "SEGV", "Segmentation fault"⟩, ⟨12, "USR2", "User defined signal 2"⟩,
   ⟨13, "PIPE", "Broken pipe"⟩, ⟨14, "ALRM", "Alarm clock"⟩, ⟨15, "TERM", "Terminated"⟩,
   ⟨16, "16", "Stack fault"⟩, ⟨17, "CHLD", "Child exited"⟩, ⟨18, "CONT", "Continued"⟩,
   ⟨19, "STOP", "Stopped (signal)"⟩, ⟨20, "TSTP", "Stopped"⟩,
   ⟨21, "TTIN", "Stopped (tty input)"⟩, ⟨22, "TTOU", "Stopped (tty output)"⟩,
   ⟨23, "URG", "Urgent I/O condition"⟩, ⟨24, "XCPU", "CPU time limit exceeded"⟩,
   ⟨25, "XFSZ", "File size limit exceeded"⟩, ⟨26, "VTALRM", "Virtual timer expired"⟩,
   ⟨27, "PROF", "Profiling timer expired"⟩, ⟨28, "WINCH", "Window changed"⟩,
   ⟨29, "IO", "I/O possible"⟩, ⟨30, "PWR", "Power failure"⟩, ⟨31, "SYS", "Bad system call"⟩]

/-- The largest number a signal may have, named or not. -/
def maxNumber : Nat := 64


def find? (number : Nat) : Option Signal := all.find? (·.number = number)

/-- Does a process that has made no arrangements go on after the signal? -/
def isHarmless (number : Nat) : Bool := [0, 17, 18, 23, 28].contains number

/-- Does the signal stop a process instead of ending it? -/
def isStop (number : Nat) : Bool := [19, 20, 21, 22].contains number

/-- May a process decide what the signal does to it? -/
def isCatchable (number : Nat) : Bool := number != 9 && number != 19

/-- The first signal without a meaning of its own. -/
def firstFree : Nat := 34

/-- The name of a signal, without anything before it. -/
def nameOf (number : Nat) : Bytes :=
  match find? number with
  | some signal => utf8 signal.name
  | none =>
    if number < firstFree then Bytes.decimal number
    else if number = firstFree then utf8 "RTMIN"
    else if number = maxNumber then utf8 "RTMAX"
    else if number ≤ firstFree + 15 then utf8 "RTMIN+" ++ Bytes.decimal (number - firstFree)
    else utf8 "RTMAX-" ++ Bytes.decimal (maxNumber - number)

/-- The number of a signal given by its name, in small or capital letters. -/
def numberOfName? (name : Bytes) : Option Nat :=
  ((List.range (maxNumber + 1)).find? fun n => (nameOf n).map toLower = name.map toLower)
where
  toLower (byte : UInt8) : UInt8 := if 65 ≤ byte && byte ≤ 90 then byte + 32 else byte

/-- The number of a signal given in digits. -/
def numberOfDigits? (text : Bytes) : Option Nat :=
  if text.isEmpty || !text.all Bytes.isDigit then none
  else
    let n := text.foldl (fun n byte => n * 10 + Bytes.digitValue byte) 0
    if n ≤ maxNumber then some n else none

/-- The number of a signal given in digits or by a name that stands for `least` or more. -/
def number? (least : Nat) (text : Bytes) : Option Nat :=
  (numberOfDigits? text).or ((numberOfName? text).filter (least ≤ ·))

/-- What is said of a process that a signal ended. -/
def told (number : Nat) : Bytes :=
  match find? number with
  | some signal => utf8 signal.text
  | none =>
    if number < firstFree then utf8 "Unknown signal " ++ Bytes.decimal number
    else utf8 "Real-time signal " ++ Bytes.decimal (number - firstFree)

/-- What the shell says when a process it waited for was ended; some ends go without saying. -/
def report? (number : Nat) : Option Bytes :=
  if number = 2 || number = 13 then none else some (told number)

end Signal

end CleanLaunch.Shell
