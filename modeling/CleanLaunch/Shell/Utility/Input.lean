import CleanLaunch.Shell.Redirection
import CleanLaunch.Shell.Utility.Call

/-! How utilities read files and their input. -/

namespace CleanLaunch.Shell.Utility

open Shell.Action
open Files (Place Node Target)

/-- Where a path leads from the working directory. -/
def resolve (followLast : Bool) (path : Bytes) : Action (Except Errno Target) := do
  let state ← get
  return state.tree.resolve state.directory followLast path

/-- Does something with the descriptor of a file that is open in the meantime. The name `-` is standard
    input. -/
def withInput {α : Type} (path : Bytes) (body : Nat → Action α) : Action (Except Errno α) := do
  if path = [45] then return .ok (← body 0)
  else match ← openPath .input path with
    | .error errno => return .error errno
    | .ok descriptor =>
      let result ← body descriptor
      close descriptor
      return .ok result

/-- Everything there is to read of a descriptor. -/
def readAll (descriptor : Nat) : Action (Except Errno Bytes) := readInput descriptor none

/-- What came of reading a file: the content, or the error of opening it, or of reading. -/
inductive Content
  | text (text : Bytes)
  | closed (errno : Errno)
  | unreadable (errno : Errno)

/-- The content of the file at a path. -/
def content (path : Bytes) : Action Content := do
  match ← withInput path readAll with
  | .error errno => return .closed errno
  | .ok (.error errno) => return .unreadable errno
  | .ok (.ok text) => return .text text

/-- The operands, or standard input if there are none. -/
def inputs (operands : List Bytes) : List Bytes := if operands.isEmpty then [[45]] else operands

/-- The name of an input in messages. -/
def inputName (path : Bytes) : Bytes := if path = [45] then utf8 "standard input" else path

/-- Does something with every input, and gives the largest status. -/
def forInputs (paths : List Bytes) (body : Bytes → Action Nat) : Action Nat :=
  paths.foldlM (fun status path => return max status (← body path)) 0

/-- Lines of a text, each with its end if it has one. -/
def linesUpTo (ending : UInt8) (text : Bytes) : List Bytes :=
  let (read, current) := text.foldl (fun (read, current) byte =>
    if byte == ending then ((byte :: current) :: read, []) else (read, byte :: current))
    (([] : List Bytes), ([] : Bytes))
  ((if current.isEmpty then read else current :: read).map List.reverse).reverse

/-- Lines of a text, each with its newline if it has one. -/
def lines (text : Bytes) : List Bytes := linesUpTo 10 text

/-- A line without its newline. -/
def chomp (line : Bytes) : Bytes := if line.getLast? = some 10 then line.dropLast else line

/-- The place of the regular file under a descriptor, and how far it has been read or written. -/
def filePlace? (descriptor : Nat) : Action (Option (Place × Nat × Bool)) := do
  match ← fileOf? descriptor with
  | none => return none
  | some index => return match (← get).world.files[index]? with
    | some ⟨.file place offset appends, _, _⟩ => some (place, offset, appends)
    | _ => none

/-- Goes back to a position in the file under a descriptor, if that is possible. -/
def seek (descriptor offset : Nat) : Action Unit := do
  match ← fileOf? descriptor with
  | none => return
  | some index =>
    changeWorld fun world => match world.files[index]? with
      | some ⟨.file place _ appends, _, _⟩ => world.setFile index (.file place offset appends)
      | _ => world

/-- Does a descriptor lead anywhere? -/
def isOpen (descriptor : Nat) : Action Bool := return (← fileOf? descriptor).isSome

end CleanLaunch.Shell.Utility
