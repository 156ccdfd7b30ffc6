import CleanLaunch.Host.Opening
import CleanLaunch.Shell.Expansion

/-! Redirections.

    A redirection is expanded first, to an `Opening`, and performed then. Descriptors that are
    redirected for a command are moved out of the way and put back afterwards: what became of them is
    in the state's `redirections`. A redirection that fails leaves the descriptors as they are by then,
    even if that means that one is lost. -/

namespace CleanLaunch.Shell

open Shell.Action
open Host (Access Descriptor Vantage)

namespace Action

/-- Where this process opens files. -/
def vantage : Action Vantage := do
  let state ← get
  return ⟨state.tree, state.directory, state.umask⟩

/-- Puts an open file under the lowest free descriptor from a number on, if there is one. -/
def attach (first file : Nat) (closesOnStart : Bool) : Action (Option Nat) := do
  let state ← get
  let number := Descriptor.lowestFree state.descriptors first
  if number < state.limit then
    set { state with descriptors := ⟨number, file, closesOnStart⟩ :: state.descriptors }
    return some number
  else return none

/-- Closes a descriptor of this process. -/
def close (descriptor : Nat) : Action Unit :=
  modify fun state => { state with descriptors := Descriptor.close state.descriptors descriptor }

/-- Puts an open file under a descriptor. -/
def connect (descriptor file : Nat) : Action Unit :=
  modify fun state => { state with
    descriptors := Descriptor.put state.descriptors ⟨descriptor, file, false⟩ }

/-- Makes a descriptor a copy of another one. -/
def duplicate (source descriptor : Nat) : Action Bool := do
  match ← fileOf? source with
  | some file =>
    if source = descriptor then return true
    else if descriptor < (← get).limit then
      connect descriptor file
      return true
    else return false
  | none => return false

/-- Opens a file under the lowest free descriptor. -/
def openPath (access : Access) (path : Bytes) : Action (Except Errno Nat) := do
  let state ← get
  if state.limit ≤ Descriptor.lowestFree state.descriptors 0 then return .error .EMFILE
  let vantage ← vantage
  match ← inWorld (·.openPath vantage access path) with
  | .error errno => return .error errno
  | .ok file =>
    match ← attach 0 file false with
    | some number => return .ok number
    | none => return .error .EMFILE

/-- Opens a pipe under the two lowest free descriptors: the one to read from and the one to write
    to. -/
def openPipe (source sink : Host.OpenFile) : Action (Option ((Nat × Nat) × (Nat × Nat))) := do
  let source ← addFile source
  let sink ← addFile sink
  match ← attach 0 source false with
  | none => return none
  | some first =>
    match ← attach 0 sink false with
    | some second => return some ((first, source), (second, sink))
    | none =>
      close first
      return none

/-- Moves a descriptor out of the way. The result tells where it is now, if it was open. It is closed
    even if there is no room for it. -/
def moveAway (descriptor : Nat) : Action Saved := do
  match ← fileOf? descriptor with
  | none => return .closed
  | some file =>
    let state ← get
    let moved ← if state.limit ≤ 10 then pure none else attach 10 file true
    close descriptor
    match moved with
    | some number => return .moved number
    | none =>
      let errno := if state.limit ≤ 10 then Errno.EINVAL else .EMFILE
      failWith (.descriptor descriptor errno)

end Action

/-- What is to be done with a descriptor. -/
inductive Opening
  | file (descriptor : Nat) (kind : RedirectKind) (path : Bytes)
  | copy (descriptor : Nat) (source : Option Nat)
  | here (descriptor : Nat) (text : Nat)
  | text (descriptor : Nat) (text : Bytes)

namespace Opening

/-- Expands a redirection that copies a descriptor. The extended language takes a name that is no number
    for a file that both outputs go to. -/
def ofCopy (descriptor : Nat) (source : Bytes) : Action (List Opening) := do
  let fits : Bool := match (← get).dialect with
    | .standard => source.length = 1
    | .extended => true
  let isNumber := !source.isEmpty && source.all Bytes.isDigit && fits
  if source = [45] then return [.copy descriptor none]
  else if isNumber then return [.copy descriptor (some (Number.digits 10 source).1)]
  else if (← get).dialect = .extended && descriptor = 1 && !source.isEmpty then
    return [.file 1 .output source, .copy 2 (some 1)]
  else failWith (.badDescriptor source)

/-- Expands a redirection. -/
def ofRedirect (substitute : Expansion.Substitute) : Redirect → Action (List Opening)
  | .here descriptor number => return [.here descriptor number]
  | .word descriptor content => do
    return [.text descriptor ((← Expansion.text substitute .single content) ++ [10])]
  | .file descriptor kind target => do
    return [.file descriptor kind (← Expansion.text substitute .single target)]
  | .copy descriptor source => return [.copy descriptor source]
  | .copyOf descriptor source => do
    ofCopy descriptor (← Expansion.text substitute .single source)
  | .named _ _ => return []

/-- Expands some redirections. -/
def ofRedirects (substitute : Expansion.Substitute) (redirects : List Redirect) :
    Action (List Opening) :=
  return (← redirects.mapM (ofRedirect substitute)).flatten

def descriptor : Opening → Nat
  | .file descriptor _ _ => descriptor
  | .copy descriptor _ => descriptor
  | .here descriptor _ => descriptor
  | .text descriptor _ => descriptor

def refuse {α : Type} (creates : Bool) (path : Bytes) (errno : Errno) : Action α :=
  failWith (.cannotOpen creates path errno)

/-- Opens a file for a redirection and gives its descriptor. -/
def openFile (kind : RedirectKind) (path : Bytes) : Action Nat := do
  let state ← get
  let target := state.tree.find state.directory path
  let guarded := kind = .output && state.options.isOn .noClobber
  let isRegular := match target with
    | .ok node => node.isRegular
    | .error _ => false
  if guarded && isRegular then refuse true path .EEXIST
  let isThere := match target with
    | .ok _ => true
    | .error _ => false
  let access : Access := match kind with
    | .input => .input
    | .both => { reads := true, writes := true, creates := true }
    | .append => .append
    | .clobber => .output
    | .output =>
      if !guarded then .output
      else if isThere then { writes := true }
      else { writes := true, creates := true, onlyNew := true }
  match ← openPath access path with
  | .ok number => return number
  | .error errno => refuse access.creates path errno

/-- Text up to this length fits into a pipe; a process is needed to write more. -/
def pipeRoom : Nat := 4096

/-- The text of a here-document. -/
def hereText (substitute : Expansion.Substitute) (number : Nat) : Action Bytes := do
  let text := ((← get).hereTexts.lookup number).getD { content := [], isLiteral := true }
  if text.isLiteral then return Parser.plainText text.content
  else Expansion.text substitute .here text.content

/-- A text under a descriptor to read it from. -/
def openText (content : Action Bytes) : Action Nat := do
  match ← openPipe ⟨.supply [] true, true, false⟩ ⟨.device .null, false, true⟩ with
  | none => failWith (.noPipe .EMFILE)
  | some ((source, pipe), (sink, _)) =>
    let content ← content
    if pipeRoom < content.length then
      changeWorld fun world => { world with nextPid := world.nextPid + 1 }
    changeWorld (·.setFile pipe (.supply content true))
    close sink
    return source

/-- What an opening leaves to be done with its descriptor. -/
inductive Result
  | nothing
  | toClose
  | opened (number : Nat)
  deriving DecidableEq

/-- Opens what has to be opened. -/
def begin (substitute : Expansion.Substitute) : Opening → Action Result
  | .file _ kind path => return .opened (← openFile kind path)
  | .here _ number => return .opened (← openText (hereText substitute number))
  | .text _ content => return .opened (← openText (pure content))
  | .copy descriptor source => return match source with
    | none => .toClose
    | some number => if number = descriptor then .nothing else .opened number

/-- Notes what becomes of a descriptor in the last table, and moves it out of the way if this is its
    first change there. The result says whether it has been closed. -/
def save (descriptor : Nat) (result : Result) : Action Bool := do
  match (← get).redirections with
  | [] => return false
  | table :: others =>
    let note (saved : Saved) : Action Unit := do
      let saved := if saved = .closed && result = .toClose then .leftClosed else saved
      modify fun state => { state with
        redirections := ((descriptor, saved) :: table.filter (·.1 ≠ descriptor)) :: others }
    match table.lookup descriptor with
    | some saved =>
      note saved
      return false
    | none =>
      if result = .opened descriptor then
        note .closed
        return false
      else
        note (← moveAway descriptor)
        return true

/-- Puts what was opened under its descriptor. -/
def finish (opening : Opening) (number : Nat) : Action Unit := do
  let done ← duplicate number opening.descriptor
  match opening with
  | .copy .. =>
    if !done then failWith (.descriptor number .EBADF)
  | _ => close number

/-- Performs openings in order. `keeps` says that they are noted in the last table. -/
def performAll (substitute : Expansion.Substitute) (keeps : Bool) : List Opening → Action Unit
  | [] => pure ()
  | opening :: rest => do
    let result ← begin substitute opening
    if result ≠ .nothing then
      let isClosed ← if keeps then save opening.descriptor result else pure false
      match result with
      | .opened number => if number ≠ opening.descriptor then finish opening number
      | .toClose => if !isClosed then close opening.descriptor
      | .nothing => pure ()
    performAll substitute keeps rest

/-- Opens a new table, if there is anything to note in it. -/
def pushTable (openings : List Opening) : Action Unit := do
  if !openings.isEmpty then
    modify fun state => { state with redirections := [] :: state.redirections }

/-- Drops the last table; the descriptors in it are put back unless they are to stay. -/
def popTable (stay : Bool) : Action Unit := do
  match (← get).redirections with
  | [] => pure ()
  | table :: others =>
    modify fun state => { state with redirections := others }
    for (descriptor, saved) in table.mergeSort fun a b => a.1 ≤ b.1 do
      match saved with
      | .closed => if !stay then close descriptor
      | .leftClosed => pure ()
      | .moved number =>
        if !stay then let _ ← duplicate number descriptor
        close number

/-- Undoes redirections down to a depth of tables. -/
def unwind (depth : Nat) : Action Unit := do
  let tables := (← get).redirections.length
  (List.range (tables - depth)).forM fun _ => popTable false

end Opening

end CleanLaunch.Shell
