import CleanLaunch.Files.Tree

/-! Open files and what processes share of them.

    An open file is a channel with permissions to read and write. The world holds the file tree, all
    open files, and a clock. Reading and writing here is by the number of an open file; a process
    knows open files by its descriptors. -/

namespace CleanLaunch.Host

open Files (Place Node Tree Device)

/-- Where bytes come from and go to. -/
inductive Channel
  | device (device : Device)
  /-- Bytes still to be read, then the end if everything is there already. -/
  | supply (rest : Bytes) (isComplete : Bool)
  /-- Collects what is written, last piece first, each with its time. `room` is what it takes before
      nobody reads it any more. -/
  | collector (written : List (Nat × Bytes)) (room : Option Nat)
  /-- A file without a name that keeps what is written in the order of its times, last piece first. -/
  | record (written : List (Nat × Bytes))
  | file (place : Place) (offset : Nat) (appends : Bool)
  /-- One end of a pipe with a name: what goes through it while one of its writers has it open, and how much
      of that has been read here. -/
  | fifo (pipe session consumed : Nat)
  | directory (place : Place)

structure OpenFile where
  channel : Channel
  readable : Bool := true
  writable : Bool := true

/-- Parts of a second that are told apart. -/
def ticksPerSecond : Nat := 10000

/-- A signal on its way to a process. -/
structure Arrival where
  pid : Nat
  signal : Nat
  time : Nat
  /-- Does it also reach all processes that the process has started? -/
  isShared : Bool := false
  /-- Processes that it has reached already. -/
  reached : List Nat := []
  deriving DecidableEq

/-- A pipe with a name. What its writers write is kept, last piece first, each piece with its time. -/
structure NamedPipe where
  /-- How many times it has been opened for reading. -/
  readers : Nat := 0
  sessions : List (List (Nat × Bytes)) := []
  /-- The session of a process that has it open for both, which all others share. -/
  shared : Option Nat := none
  /-- How much has been read of that. -/
  taken : Nat := 0

/-- Everything that was written in a session. -/
def NamedPipe.written (pipe : NamedPipe) (session : Nat) : List (Nat × Bytes) :=
  ((pipe.sessions[session]?).getD []).reverse.mergeSort fun a b => a.1 ≤ b.1

/-- What processes share. -/
structure World where
  tree : Tree
  files : Array OpenFile := #[]
  nextPid : Nat := 1
  /-- Signals that wait for their processes, oldest first. -/
  pending : List Arrival := []
  /-- Signals that are known to be sent to processes in the background, which run before it comes to that. -/
  foreseen : List Arrival := []
  pipes : Array NamedPipe := #[]
  /-- What is known to be written to pipes with names, by processes that run after those that read it. -/
  foreseenPipes : Array NamedPipe := #[]
  /-- Time since the start, in `ticksPerSecond`. -/
  clock : Nat := 0
  /-- How many files have lost their last name while they were open. -/
  orphans : Nat := 0

instance : Inhabited World := ⟨{ tree := { nodes := [] } }⟩

/-- What came of reading. -/
inductive Reading
  | bytes (bytes : Bytes)
  | failed (errno : Errno)
  /-- The bytes would never end. -/
  | endless
  /-- Nothing is there yet, but more is to come. -/
  | starved

namespace World

/-- The time at which the clock starts, in seconds since 1970, as nobody can tell which it is. -/
def startSecond : Int := 1760000000

/-- The time of changes now. Files that were there at the start are older. -/
def now (world : World) : Int :=
  startSecond * Files.partsPerSecond + (world.clock + 1) * (Files.partsPerSecond / ticksPerSecond)

/-- The content of a regular file and its permission bits. -/
def fileAt (world : World) (place : Place) : Nat × Bytes :=
  match world.tree.node? place with
  | some (.file mode content) => (mode, content)
  | _ => (0o644, [])

def setFile (world : World) (index : Nat) (channel : Channel) : World :=
  { world with files := world.files.modify index fun file => { file with channel } }

/-- Puts a regular file's content, changed now. -/
def putContent (world : World) (place : Place) (mode : Nat) (content : Bytes) : World :=
  { world with tree := (world.tree.put place (.file mode content)).stamp place world.now }

/-- Puts a node that is new now. -/
def putNode (world : World) (place : Place) (node : Node) : World :=
  { world with tree := (world.tree.put place node).stamp place world.now }

/-- Adds an open file and gives its number. -/
def addFile (world : World) (file : OpenFile) : Nat × World :=
  (world.files.size, { world with files := world.files.push file })

/-- The place of a file without a name. -/
def orphanPlace (n : Nat) : Place := [[], Bytes.decimal n]

/-- Takes the name of a place away. Whoever has the file open keeps it. -/
def unlink (world : World) (place : Place) : World :=
  let isHere (file : OpenFile) : Bool := match file.channel with
    | .file other .. => place = other
    | _ => false
  let unnamed := orphanPlace world.orphans
  match world.tree.node? place with
  | some node =>
    match (world.tree.names place).find? (· ≠ place) with
    | some other =>
      { world with
        tree := world.tree.remove place
        files := world.files.map fun file => match file.channel with
          | .file here offset appends =>
            if place = here then { file with channel := .file other offset appends } else file
          | _ => file }
    | none =>
    if world.files.any isHere then
      { world with
        orphans := world.orphans + 1
        tree := (world.tree.remove place).put unnamed node
        files := world.files.map fun file => match file.channel with
          | .file other offset appends =>
            if place = other then { file with channel := .file unnamed offset appends } else file
          | _ => file }
    else { world with tree := world.tree.remove place }
  | none => world

/-- Gives everything at and below a place another one. -/
def rename (world : World) (source target : Place) : World :=
  let moved (place : Place) : Place :=
    if place.take source.length = source then target ++ place.drop source.length else place
  { world with
    tree := { nodes := world.tree.nodes.map fun (place, node) => (moved place, node)
              times := world.tree.times.map fun (place, time) => (moved place, time)
              links := world.tree.links.map (·.map moved) }
    files := world.files.map fun file => match file.channel with
      | .file place offset appends => { file with channel := .file (moved place) offset appends }
      | _ => file }

/-- Pieces of what was written behind a number of bytes, up to another number of them. -/
def piecesFrom : (skipped : Nat) → (count : Option Nat) → List (Nat × Bytes) → List (Nat × Bytes)
  | _, _, [] => []
  | skipped, count, (time, bytes) :: rest =>
    if bytes.length ≤ skipped then piecesFrom (skipped - bytes.length) count rest
    else
      let taken := match count with
        | some n => (bytes.drop skipped).take n
        | none => bytes.drop skipped
      let left := count.map (· - taken.length)
      if left = some 0 then [(time, taken)] else (time, taken) :: piecesFrom 0 left rest

/-- Reads from a pipe with a name. It takes until the bytes have been written. -/
def readFifo (world : World) (index pipe session consumed : Nat) (count : Option Nat) : Bytes × World :=
  let own := (world.pipes[pipe]?).getD {}
  let known := ((world.foreseenPipes[pipe]?).getD {}).written session
  let written := own.written session
  let size (pieces : List (Nat × Bytes)) : Nat := (pieces.flatMap (·.2)).length
  let pieces := if size written < size known then known else written
  let isShared := own.shared = some session
  let pieces := piecesFrom (if isShared then own.taken else consumed) count pieces
  let bytes := pieces.flatMap (·.2)
  let clock := pieces.foldl (fun time piece => max time piece.1) world.clock
  let world := { world with clock }
  (bytes, if isShared then
      { world with pipes := world.pipes.modify pipe fun own => { own with taken := own.taken + bytes.length } }
    else world.setFile index (.fifo pipe session (consumed + bytes.length)))

/-- Writes to a pipe with a name. -/
def writeFifo (world : World) (pipe session : Nat) (bytes : Bytes) : World :=
  { world with pipes := world.pipes.modify pipe fun own =>
      { own with sessions := own.sessions.modify session fun pieces => (world.clock, bytes) :: pieces } }

/-- Opens a pipe with a name: one of its ends, or both. -/
def openFifo (world : World) (pipe : Nat) (reads writes : Bool) : Channel × World :=
  let own := (world.pipes[pipe]?).getD {}
  let put (own : NamedPipe) : World := { world with pipes := world.pipes.modify pipe fun _ => own }
  match own.shared with
  | some session => (.fifo pipe session 0, world)
  | none =>
    if !writes then (.fifo pipe own.readers 0, put { own with readers := own.readers + 1 })
    else
      let session := own.sessions.length
      (.fifo pipe session 0, put { own with
        sessions := own.sessions ++ [[]], shared := if reads then some session else none })

/-- Puts a new pipe with a name at a place. -/
def makeFifo (world : World) (place : Place) (mode : Nat) : World :=
  let index := world.pipes.size
  { world.putNode place (.fifo mode index) with pipes := world.pipes.push {} }

/-- Reads at most a number of bytes, or all there are, and goes on behind them. -/
def read (world : World) (index : Nat) (count : Option Nat) : Reading × World :=
  match world.files[index]? with
  | none => (.failed .EBADF, world)
  | some file =>
    if !file.readable then (.failed .EBADF, world)
    else match file.channel with
      | .device .null => (.bytes [], world)
      | .device .terminal => (.failed .EIO, world)
      | .device _ => match count with
        | some n => (.bytes (List.replicate n 0), world)
        | none => (.endless, world)
      | .supply rest isComplete => match count with
        | some n =>
          if !isComplete && 0 < n && (rest.drop (n - 1)).isEmpty then (.starved, world)
          else (.bytes (rest.take n), world.setFile index (.supply (rest.drop n) isComplete))
        | none =>
          if isComplete then (.bytes rest, world.setFile index (.supply [] true))
          else (.starved, world)
      | .collector .. | .record _ => (.failed .EBADF, world)
      | .file place offset appends =>
        let rest := (world.fileAt place).2.drop offset
        let n := min (count.getD rest.length) rest.length
        (.bytes (rest.take n), world.setFile index (.file place (offset + n) appends))
      | .fifo pipe session consumed =>
        let (bytes, world) := world.readFifo index pipe session consumed count
        (.bytes bytes, world)
      | .directory _ => (.failed .EISDIR, world)

/-- Writes bytes; as much of them as there is room for, before it fails. -/
def write (world : World) (index : Nat) (bytes : Bytes) : Option Errno × World :=
  match world.files[index]? with
  | none => (some .EBADF, world)
  | some file =>
    if !file.writable then (some .EBADF, world)
    else match file.channel with
      | .device .full => if bytes.isEmpty then (none, world) else (some .ENOSPC, world)
      | .device _ => (none, world)
      | .collector written none =>
        (none, world.setFile index (.collector ((world.clock, bytes) :: written) none))
      | .collector written (some room) =>
        let taken := bytes.take room
        (if taken.length < bytes.length then some .EPIPE else none,
          world.setFile index (.collector ((world.clock, taken) :: written)
            (some (room - taken.length))))
      | .record written =>
        (none, world.setFile index (.record ((world.clock, bytes) :: written)))
      | .file place offset appends =>
        let (mode, content) := world.fileAt place
        let offset := if appends then content.length else offset
        let padding := List.replicate (offset - content.length) 0
        let after := offset + bytes.length
        let content := content.take offset ++ padding ++ bytes ++ content.drop after
        (none, (world.putContent place mode content).setFile index (.file place after appends))
      | .fifo pipe session _ => (none, world.writeFifo pipe session bytes)
      | .supply .. | .directory _ => (some .EBADF, world)

/-- Everything that was written to an open file, in the order of the times. -/
def collected (world : World) (index : Nat) : Bytes :=
  match world.files[index]? with
  | some ⟨.collector written _, _, _⟩ | some ⟨.record written, _, _⟩ =>
    (written.reverse.mergeSort fun a b => a.1 ≤ b.1).flatMap (·.2)
  | some ⟨.file place _ _, _, _⟩ => (world.fileAt place).2
  | _ => []

/-- Gives a record a place of its own, so that it can be opened once more. -/
def settle (world : World) (index : Nat) : World :=
  match world.files[index]? with
  | some ⟨.record _, _, _⟩ =>
    let content := world.collected index
    let place := orphanPlace world.orphans
    let world := { world with orphans := world.orphans + 1 }
    (world.putContent place 0o600 content).setFile index (.file place content.length false)
  | _ => world

/-- How many bytes of a supply are still to be read. -/
def unread (world : World) (index : Nat) : Nat :=
  match world.files[index]? with
  | some ⟨.supply rest _, _, _⟩ => rest.length
  | _ => 0

/-- Has something been written that found no reader? -/
def isOverfull (world : World) (index : Nat) : Bool :=
  match world.files[index]? with
  | some ⟨.collector _ (some 0), _, _⟩ => true
  | _ => false

end World

/-- An open file of a process, under a number. -/
structure Descriptor where
  number : Nat
  file : Nat
  /-- Is it closed when the process starts another program? -/
  closesOnStart : Bool := false

namespace Descriptor

/-- The open file under a number. -/
def file? (descriptors : List Descriptor) (number : Nat) : Option Nat :=
  (descriptors.find? (·.number == number)).map (·.file)

def close (descriptors : List Descriptor) (number : Nat) : List Descriptor :=
  descriptors.filter (·.number != number)

/-- The descriptors with one of them put, in place of any other of its number. -/
def put (descriptors : List Descriptor) (descriptor : Descriptor) : List Descriptor :=
  descriptor :: close descriptors descriptor.number

/-- The lowest number from a first one on that is free. -/
def lowestFree (descriptors : List Descriptor) (first : Nat) : Nat :=
  ((List.range (descriptors.length + 1)).map (· + first)).find?
    (fun n => !descriptors.any (·.number == n)) |>.getD first

end Descriptor

end CleanLaunch.Host
