import CleanLaunch.Files.Tree

/-! What the kernel starts for a path.

    A path may lead to a program of the system or to a script, whose first line names its
    interpreter. `Image.load` gives the program that runs in the end and the arguments it gets, or
    the error of the call. The strings of a new program must fit into a limited space; a script
    puts more strings there: its interpreter's name, perhaps an argument, and its own path. -/

namespace CleanLaunch.Files

/-- A program to run, with its arguments. -/
structure Image where
  program : Bytes
  /-- Where the program is. -/
  place : Place
  /-- The last part of the path that was asked for. -/
  title : Bytes
  arguments : List Bytes

namespace Image

/-- The longest argument or environment entry, without its NUL. -/
def maxStringLength : Nat := 131071

/-- Room for all arguments, entries and paths with their NULs, and for the pointers to them. -/
def maxTotalLength : Nat := 2097152

/-- Bytes of a script in which its first line must end. -/
def maxHeadLength : Nat := 256

/-- Files that may be opened for one call, each the interpreter of the one before. -/
def maxInterpreters : Nat := 6

/-- Bytes a string takes. -/
def stringSize (string : Bytes) : Nat := string.length + 1

/-- Bytes a pointer takes. -/
def pointerSize : Nat := 8

/-- The room that a call's strings leave over, if they fit. -/
def roomAfter? (path : Bytes) (arguments environment : List Bytes) : Option Nat :=
  let strings := path :: arguments ++ environment
  let pointers := max arguments.length 1 + environment.length
  let needed := sumOf (strings.map stringSize) + pointerSize * pointers
  if strings.all (·.length ≤ maxStringLength) && needed ≤ maxTotalLength then
    some (maxTotalLength - needed)
  else none

def isBlank (byte : UInt8) : Bool := byte == 32 || byte == 9

/-- Does a byte end the name of an interpreter? -/
def endsName (byte : UInt8) : Bool := isBlank byte || byte == 0

/-- The part of a script's head that names its interpreter, behind the `#!`: the rest of the first
    line, or everything if the head has no line's end; then the name must end within the head. -/
def interpreterLine? (head : Bytes) : Option Bytes :=
  let text := head.takeWhile fun byte => byte != 10 && byte != 0
  if head[text.length]? = some 10 then
    some (text.reverse.dropWhile isBlank).reverse
  else
    let line := head.dropLast
    if head.all isBlank then none
    else if (head.dropWhile isBlank).any endsName then
      some (line.reverse.dropWhile isBlank).reverse
    else none

/-- The interpreter a script names, and the one argument that may follow it. Both end at a NUL; the
    argument is empty if there are blanks behind the name, but then a NUL. -/
def interpreter? (content : Bytes) : Option (Bytes × Option Bytes) :=
  let buffer := content.take maxHeadLength
  match buffer ++ List.replicate (maxHeadLength - buffer.length) 0 with
  | 35 :: 33 :: head =>
    match interpreterLine? head with
    | none => none
    | some line =>
      let line := line.dropWhile isBlank
      let name := line.takeWhile (!endsName ·)
      let after := line.drop name.length
      if line.isEmpty then none
      else if after.head?.all (· == 0) then some (name, none)
      else some (name, some ((after.dropWhile isBlank).takeWhile (· != 0)))
  | _ => none

/-- Bytes of a file by which a shell tells whether it is a text. -/
def maxTextHead : Nat := 128

/-- Does a file that is no program look like a text? Its first line must have no other control characters
    than blanks and the like. -/
def looksLikeText (content : Bytes) : Bool :=
  ((content.take maxTextHead).takeWhile (· != 10)).all fun byte =>
    (9 ≤ byte && byte ≤ 15) || byte == 27 || (32 ≤ byte && byte != 127)

/-- Opens a file to start it. The empty path leads to the working directory, which is no file. -/
def openFile (tree : Tree) (workingDirectory : Place) (path : Bytes) :
    Except Errno (Place × Node) :=
  if path.isEmpty then .error .EACCES
  else match tree.resolve workingDirectory true path with
    | .error errno => .error errno
    | .ok ⟨_, none⟩ => .error .ENOENT
    | .ok ⟨place, some node⟩ =>
      if node.isExecutable then .ok (place, node) else .error .EACCES

/-- The image behind an open file that was opened under a path, with at most `depth` more files
    after it and some room for strings left. -/
def behind (tree : Tree) (workingDirectory : Place) (title : Bytes) :
    (depth room : Nat) → Place × Node → Bytes → List Bytes → Except Errno Image
  | 0, _, _, _, _ => .error .ELOOP
  | depth + 1, room, (place, node), path, arguments =>
    match node with
    | .program name => .ok ⟨name, place, title, arguments⟩
    | .file _ content =>
      match interpreter? content with
      | none => .error .ENOEXEC
      | some (interpreter, argument) =>
        let more := path :: argument.toList ++ [interpreter]
        let room := room + sumOf ((arguments.take 1).map stringSize)
        let needed := sumOf (more.map stringSize)
        if room < needed then .error .E2BIG
        else match openFile tree workingDirectory interpreter with
          | .error errno => .error errno
          | .ok opened =>
            behind tree workingDirectory title depth (room - needed) opened interpreter
              (interpreter :: argument.toList ++ path :: arguments.drop 1)
    | _ => .error .EACCES

/-- The image the kernel starts for a path. The file must be there before the size of the strings
    matters. -/
def load (tree : Tree) (workingDirectory : Place) (path : Bytes) (arguments : List Bytes)
    (environment : List Bytes) : Except Errno Image :=
  if path.isEmpty then .error .ENOENT
  else match openFile tree workingDirectory path with
    | .error errno => .error errno
    | .ok opened =>
      match roomAfter? path arguments environment with
      | none => .error .E2BIG
      | some room =>
        let title := (path.splitAt Path.slash).getLast?.getD path
        behind tree workingDirectory title maxInterpreters room opened path arguments

end Image

end CleanLaunch.Files
