import CleanLaunch.Host.Channel
import CleanLaunch.Files.Running

/-! Opening files by their paths.

    `World.openPath` finds a file in the tree as a process sees it, makes or empties it if asked to, and
    adds an open file to the world. -/

namespace CleanLaunch.Host

open Files (Place Node Tree Device)

/-- What a file is opened for. -/
structure Access where
  reads : Bool := false
  writes : Bool := false
  /-- Is it made if it is not there? -/
  creates : Bool := false
  /-- Must it not be there? -/
  onlyNew : Bool := false
  empties : Bool := false
  /-- Does all writing go to its end? -/
  appends : Bool := false

namespace Access

def input : Access := { reads := true }

def output : Access := { writes := true, creates := true, empties := true }

def append : Access := { writes := true, creates := true, appends := true }

end Access

/-- Where a process opens files, and with which permissions it makes them. -/
structure Vantage where
  /-- The tree as the process sees it. -/
  tree : Tree
  directory : Place
  umask : Nat

/-- Permission bits of a file that is made with a mask. -/
def maskedMode (mode umask : Nat) : Nat := mode &&& (0o777 ^^^ (umask &&& 0o777))

/-- The content that a program's file begins with. -/
def programContent : Bytes := [127, 69, 76, 70, 2, 1, 1, 0]

namespace World

/-- Opens what is at a place. -/
def openNode (world : World) (access : Access) (place : Place) (node : Node) :
    Except Errno OpenFile × World :=
  let file (channel : Channel) : Except Errno OpenFile × World :=
    (.ok ⟨channel, access.reads, access.writes⟩, world)
  if (access.reads && !node.isReadable) || (access.writes && !node.isWritable) then
    (.error .EACCES, world)
  else match node with
  | .directory _ =>
    if access.writes || access.creates then (.error .EISDIR, world) else file (.directory place)
  | .file mode content =>
    if (world.tree.node? place).isNone then
      if access.writes then file (.device .null) else file (.supply content true)
    else
      let world := if access.empties then world.putContent place mode [] else world
      (.ok ⟨.file place 0 access.appends, access.reads, access.writes⟩, world)
  | .program _ =>
    if access.writes then (.error .ETXTBSY, world) else file (.supply programContent true)
  | .device .terminal => (.error .ENXIO, world)
  | .device device => file (.device device)
  | .channel index =>
    match world.files[index]? with
    | some opened => file opened.channel
    | none => (.error .ENOENT, world)
  | .held index =>
    let world := world.settle index
    match world.files[index]? with
    | some ⟨.file place _ _, _, _⟩ =>
      let (mode, _) := world.fileAt place
      let world := if access.empties then world.putContent place mode [] else world
      (.ok ⟨.file place 0 access.appends, access.reads, access.writes⟩, world)
    | _ => (.error .ENOENT, world)
  | .fifo _ index =>
    let (channel, world) := world.openFifo index access.reads access.writes
    (.ok ⟨channel, access.reads, access.writes⟩, world)
  | .link _ => (.error .ELOOP, world)

/-- Opens a file by its path and gives the number of the open file. What leads to a pipe gives that pipe
    again. -/
def openPath (world : World) (vantage : Vantage) (access : Access) (path : Bytes) :
    Except Errno Nat × World :=
  match vantage.tree.resolve vantage.directory true path with
  | .error errno =>
    let bare := (path.reverse.dropWhile (· == Path.slash)).reverse
    let isMissing := match vantage.tree.resolve vantage.directory true bare with
      | .ok ⟨_, none⟩ => bare.length < path.length
      | _ => false
    (.error (if access.creates && isMissing then .EISDIR else errno), world)
  | .ok ⟨place, none⟩ =>
    if !access.creates then (.error .ENOENT, world)
    else if place.isOfKernel then (.error .ENOENT, world)
    else if !vantage.tree.isOpenTo place.dropLast then (.error .EACCES, world)
    else
      let world := world.putContent place (maskedMode 0o666 vantage.umask) []
      let (index, world) :=
        world.addFile ⟨.file place 0 access.appends, access.reads, access.writes⟩
      (.ok index, world)
  | .ok ⟨_, some (.channel index)⟩ => (.ok index, world)
  | .ok ⟨place, some node⟩ =>
    if access.creates && access.onlyNew then (.error .EEXIST, world)
    else match world.openNode access place node with
      | (.error errno, world) => (.error errno, world)
      | (.ok file, world) =>
        let (index, world) := world.addFile file
        (.ok index, world)

end World

end CleanLaunch.Host
