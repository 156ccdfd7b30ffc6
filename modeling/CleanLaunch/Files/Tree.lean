import CleanLaunch.Path.Component
import CleanLaunch.Report.Errno

/-! File trees.

    A tree maps places, absolute paths as lists of names without links, to nodes. `Tree.resolve`
    follows a path from a working directory to a place, through symbolic links, and fails the way
    the kernel does: for a missing or misplaced component, a directory that may not be searched, too
    many links, or a path that is too long. The user of a tree owns everything in it and has no other
    rights than those of an owner. -/

namespace CleanLaunch.Files

/-- The names on the way from the root to a node. -/
abbrev Place := List Bytes

/-- A device: what it gives and takes is no file's content. -/
inductive Device
  /-- Always at its end; takes everything. -/
  | null
  /-- Gives NULs without end; takes everything. -/
  | zero
  /-- Gives NULs without end; has no room. -/
  | full
  | random
  /-- The controlling terminal, which no process here has. -/
  | terminal
  deriving DecidableEq

inductive Node
  /-- A directory with its permission bits. -/
  | directory (mode : Nat)
  /-- A regular file with its permission bits. -/
  | file (mode : Nat) (content : Bytes)
  | link (target : Bytes)
  /-- A program of the system, known by its name. -/
  | program (name : Bytes)
  | device (device : Device)
  /-- A pipe with a name, by its number in the world. -/
  | fifo (mode : Nat) (index : Nat)
  /-- A pipe that a running process has open, by its number in the process's world. -/
  | channel (index : Nat)
  /-- A regular file without a name that a running process has open. -/
  | held (index : Nat)
  deriving DecidableEq

namespace Node

def isDirectory : Node → Bool
  | .directory _ => true
  | _ => false

/-- Permission bits of a node. -/
def mode : Node → Nat
  | .directory mode | .file mode _ | .fifo mode _ => mode
  | .link _ => 0o777
  | .program _ => 0o755
  | .device _ => 0o666
  | .channel _ | .held _ => 0o600

/-- May the owner read it? -/
def isReadable (node : Node) : Bool := node.mode &&& 0o400 != 0

/-- May the owner write it? -/
def isWritable (node : Node) : Bool := node.mode &&& 0o200 != 0

/-- A node with other permission bits, if it has any of its own. -/
def withMode? (mode : Nat) : Node → Option Node
  | .directory _ => some (.directory mode)
  | .file _ content => some (.file mode content)
  | .fifo _ index => some (.fifo mode index)
  | _ => none

end Node

/-- Permission bits of a directory that everybody may list and enter. -/
def usualDirectoryMode : Nat := 0o755

/-- The times of a file, in parts of a second since 1970. -/
structure Stamp where
  /-- When its content was changed last. -/
  modified : Int := 0
  /-- When it was read last. -/
  accessed : Int := 0

/-- Parts of a second that file times tell apart. -/
def partsPerSecond : Int := 1000000000

structure Tree where
  nodes : List (Place × Node)
  /-- When files were changed; the others never were. -/
  times : List (Place × Stamp) := []
  /-- Places with the same file under several names. -/
  links : List (List Place) := []

/-- Links a path may lead through. -/
def maxLinks : Nat := 40

/-- A path of this length or longer is too long. -/
def maxPathLength : Nat := 4096

/-- The longest name of a directory entry. -/
def maxNameLength : Nat := 255

/-- Where a path leads: a place, and the node there unless only the directory around it exists. -/
structure Target where
  place : Place
  node? : Option Node

namespace Tree

/-- The node at a place. The root is always a directory. -/
def node? (tree : Tree) (place : Place) : Option Node :=
  if place.isEmpty then some (.directory usualDirectoryMode)
  else (tree.nodes.find? (·.1 = place)).map (·.2)

/-- All names of the file at a place. -/
def names (tree : Tree) (place : Place) : List Place :=
  (tree.links.find? (·.contains place)).getD [place]

def remove (tree : Tree) (place : Place) : Tree :=
  { tree with
    nodes := tree.nodes.filter (·.1 ≠ place)
    links := tree.links.map fun names => names.filter (· ≠ place) }

/-- Puts a node at a place, in place of any other. If there is a file already, it changes under all of
    its names. -/
def put (tree : Tree) (place : Place) (node : Node) : Tree :=
  if place.isEmpty then tree
  else if tree.nodes.any (·.1 = place) then
    let names := tree.names place
    { tree with nodes := tree.nodes.map fun entry =>
        if names.contains entry.1 then (entry.1, node) else entry }
  else { tree with nodes := tree.nodes ++ [(place, node)] }

/-- Gives the file at a place another name. -/
def link (tree : Tree) (place other : Place) : Tree :=
  match tree.node? place with
  | none => tree
  | some node =>
    let names := tree.names place
    { tree with
      nodes := tree.nodes ++ [(other, node)]
      times := (other, (tree.times.lookup place).getD {}) :: tree.times.filter (·.1 ≠ other)
      links := (other :: names) :: tree.links.filter (· ≠ names) }

/-- The times of the node at a place. -/
def stampOf (tree : Tree) (place : Place) : Stamp := (tree.times.lookup place).getD {}

/-- When the node at a place was changed last. -/
def time (tree : Tree) (place : Place) : Int := (tree.stampOf place).modified

/-- Sets the times of a place. -/
def stampWith (tree : Tree) (place : Place) (stamp : Stamp) : Tree :=
  let names := tree.names place
  { tree with times := names.map (·, stamp) ++ tree.times.filter (!names.contains ·.1) }

/-- Sets the time of a place's last change. -/
def stamp (tree : Tree) (place : Place) (time : Int) : Tree := tree.stampWith place ⟨time, time⟩

/-- Every directory above a place, from the root down. -/
def ancestors (place : Place) : List Place :=
  (List.range place.length).map fun n => place.take n

/-- Makes the missing directories above a place. -/
def makeParents (tree : Tree) (place : Place) : Tree :=
  (ancestors place).foldl
    (fun tree above =>
      if (tree.node? above).isSome then tree else tree.put above (.directory usualDirectoryMode))
    tree

/-- Names of the entries of a directory, in no particular order. -/
def children (tree : Tree) (place : Place) : List Bytes :=
  tree.nodes.filterMap fun entry =>
    if entry.1.dropLast = place then entry.1.getLast? else none

/-- May the owner look for names in the directory at a place? -/
def isSearchable (tree : Tree) (place : Place) : Bool :=
  match tree.node? place with
  | some (.directory mode) => mode &&& 0o100 != 0
  | _ => true

/-- May the owner add names to the directory at a place, and take them away? -/
def isOpenTo (tree : Tree) (place : Place) : Bool :=
  match tree.node? place with
  | some (.directory mode) => mode &&& 0o300 == 0o300
  | _ => false

/-- Follows the parts of a path from a directory. `links` is the number of links still allowed. -/
def follow (tree : Tree) (followLast : Bool) (links : Nat) (here : Place) :
    List Bytes → Except Errno Target
  | [] => .ok ⟨here, tree.node? here⟩
  | part :: rest =>
    if part.isEmpty then follow tree followLast links here rest
    else if !tree.isSearchable here then .error .EACCES
    else if part = utf8 "." then follow tree followLast links here rest
    else if part = utf8 ".." then follow tree followLast links here.dropLast rest
    else if maxNameLength < part.length then .error .ENAMETOOLONG
    else
      let place := here ++ [part]
      match tree.node? place with
      | none => if rest.isEmpty then .ok ⟨place, none⟩ else .error .ENOENT
      | some (.directory _) => follow tree followLast links place rest
      | some (.link target) =>
        if rest.isEmpty && !followLast then .ok ⟨place, some (.link target)⟩
        else match links with
          | 0 => .error .ELOOP
          | links + 1 =>
            follow tree followLast links (if Path.isAbsolute target then [] else here)
              (target.splitAt Path.slash ++ rest)
      | some node => if rest.isEmpty then .ok ⟨place, some node⟩ else .error .ENOTDIR
termination_by parts => (links, parts.length)

/-- Where a path leads from a working directory. -/
def resolve (tree : Tree) (workingDirectory : Place) (followLast : Bool) (path : Bytes) :
    Except Errno Target :=
  if path.isEmpty then .error .ENOENT
  else if maxPathLength ≤ path.length then .error .ENAMETOOLONG
  else
    tree.follow followLast maxLinks (if Path.isAbsolute path then [] else workingDirectory)
      (path.splitAt Path.slash)

/-- The node a path leads to, through a link at its end. -/
def find (tree : Tree) (workingDirectory : Place) (path : Bytes) : Except Errno Node :=
  match tree.resolve workingDirectory true path with
  | .error errno => .error errno
  | .ok ⟨_, some node⟩ => .ok node
  | .ok ⟨_, none⟩ => .error .ENOENT

/-- The target of the link at the end of a path. -/
def readLink (tree : Tree) (workingDirectory : Place) (path : Bytes) : Except Errno Bytes :=
  match tree.resolve workingDirectory false path with
  | .error errno => .error errno
  | .ok ⟨_, some (.link target)⟩ => .ok target
  | .ok ⟨_, some _⟩ => .error .EINVAL
  | .ok ⟨_, none⟩ => .error .ENOENT

end Tree

/-- Permission to execute for the owner. -/
def executeBits : Nat := 0o100

/-- May a node be started as a program? -/
def Node.isExecutable : Node → Bool
  | .program _ => true
  | .file mode _ => mode &&& executeBits != 0
  | _ => false

/-- Is a node a regular file, executable or not? -/
def Node.isRegular : Node → Bool
  | .program _ | .file .. | .held _ => true
  | _ => false

/-- Does a path lead to an executable regular file? -/
def Tree.isExecutable (tree : Tree) (workingDirectory : Place) (path : Bytes) : Bool :=
  match tree.find workingDirectory path with
  | .ok node => node.isExecutable
  | .error _ => false

/-- The text of a place as an absolute path. -/
def Place.path (place : Place) : Bytes :=
  if place.isEmpty then [Path.slash] else place.flatMap (Path.slash :: ·)

/-- The place an absolute path without links or dots names. -/
def Place.ofPath (path : Bytes) : Place :=
  (path.splitAt Path.slash).filter (!·.isEmpty)

end CleanLaunch.Files
