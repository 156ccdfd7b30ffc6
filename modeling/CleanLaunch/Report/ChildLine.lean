import CleanLaunch.Report.LogRecord

/-! Log lines of the forked child.

    The child builds a line in a buffer of `ChildLine.bufferLength` bytes and writes it to standard
    error in one piece. One byte of the buffer is kept for the newline, so a line holds at most
    `ChildLine.capacity` bytes and whatever is added past that is dropped. -/

namespace CleanLaunch

/-- Levels of the child's lines. -/
inductive ChildLevel
  | warn | error
  deriving DecidableEq

def ChildLevel.name : ChildLevel → Bytes
  | .warn => Level.warn.name
  | .error => Level.error.name

/-- One line in the making: the bytes of the buffer that are in use. -/
structure ChildLine where
  bytes : Bytes
  deriving DecidableEq

namespace ChildLine

/-- Size of the buffer. -/
def bufferLength : Nat := 512

/-- Bytes a line can hold before its newline. -/
def capacity : Nat := bufferLength - 1

/-- Bytes that still fit. -/
def room (line : ChildLine) : Nat := capacity - line.bytes.length

/-- Adds bytes, as many as fit. -/
def pushBytes (line : ChildLine) (bytes : Bytes) : ChildLine :=
  ⟨line.bytes ++ bytes.take line.room⟩

/-- Adds text; a character at the end of the room may be cut in two. -/
def writeText (line : ChildLine) (text : Bytes) : ChildLine := line.pushBytes text

/-- What every line begins with. -/
def opening (level : ChildLevel) : Bytes :=
  utf8 "[" ++ level.name ++ utf8 " " ++ logTarget ++ utf8 " child] "

/-- An empty line of a level. -/
def start (level : ChildLevel) : ChildLine := (⟨[]⟩ : ChildLine).writeText (opening level)

/-- One addition to a line. -/
inductive Part
  | bytes (content : Bytes)
  | text (content : Bytes)

def Part.content : Part → Bytes
  | .bytes content | .text content => content

def add (line : ChildLine) : Part → ChildLine
  | .bytes content => line.pushBytes content
  | .text content => line.writeText content

/-- The line of a level with all parts added in order. -/
def ofParts (level : ChildLevel) (parts : List Part) : ChildLine := parts.foldl add (start level)

/-- What is written to standard error. -/
def emit (line : ChildLine) : Bytes := line.bytes ++ [10]

/-- Writes one message. -/
def log (level : ChildLevel) (message : Bytes) : Bytes := ((start level).writeText message).emit

end ChildLine

end CleanLaunch
