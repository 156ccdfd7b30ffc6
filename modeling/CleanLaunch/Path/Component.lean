import CleanLaunch.Bytes

/-! Paths and their components.

    A path is any byte string. Its components leave out repeated and trailing slashes and every `.`
    but a leading one: `Path.components`. `Path.absolute` places a relative path under a working
    directory. -/

namespace CleanLaunch.Path

/-- The byte `/`. -/
def slash : UInt8 := 47

inductive Component
  | root | current | parent
  | named (name : Bytes)
  deriving DecidableEq

def Component.text : Component → Bytes
  | .root => [slash]
  | .current => utf8 "."
  | .parent => utf8 ".."
  | .named name => name

def isAbsolute (path : Bytes) : Bool := path.head? == some slash

/-- The component a part between slashes stands for; an empty part stands for none. -/
def Component.ofPart (part : Bytes) : Option Component :=
  if part.isEmpty then none
  else if part = utf8 "." then some .current
  else if part = utf8 ".." then some .parent
  else some (.named part)

/-- The components of a path. -/
def components (path : Bytes) : List Component :=
  let parts := path.splitAt slash
  let inner := fun (parts : List Bytes) =>
    (parts.filterMap Component.ofPart).filter (· ≠ Component.current)
  if isAbsolute path then .root :: inner parts
  else if parts.head? = some (utf8 ".") then .current :: inner parts
  else inner parts

/-- A path with one more part; an absolute part takes its place. -/
def push (path part : Bytes) : Bytes :=
  if isAbsolute part then part
  else if path.isEmpty || path.getLast? == some slash then path ++ part
  else path ++ slash :: part

/-- A path with components added. -/
def extend (path : Bytes) (parts : List Component) : Bytes :=
  parts.foldl (fun path part => push path part.text) path

/-- The path itself if it is absolute, otherwise its components under a working directory, leading
    `.` components left out. -/
def absolute (workingDirectory path : Bytes) : Bytes :=
  if isAbsolute path then path
  else extend workingDirectory ((components path).dropWhile (· = Component.current))

end CleanLaunch.Path
