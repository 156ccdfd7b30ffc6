import CleanLaunch.Shell.Utility.Editing.Reading
import CleanLaunch.Shell.Utility.Editing.Replacing
import CleanLaunch.Shell.Utility.Starting

/-! The utility `sed`, which runs a script on every line of its input.

    A `Machine` holds the line that is edited, and what is left of the input. It reads ahead only to tell
    whether a line is the last one. -/

namespace CleanLaunch.Shell.Utility

open Shell.Action
open Files (Place Node)

namespace Editing

/-- What is run on the input, and how. -/
structure Request where
  script : Script
  manner : Manner
  isQuiet : Bool
  /-- How long lines are that show texts. -/
  width : Nat := 70
  ending : UInt8 := 10
  /-- Does every file have lines of its own? -/
  isSeparate : Bool := false
  /-- The names of copies where files are edited in place; a star stands for the name of a file. -/
  copies : Option Bytes := none
  followsLinks : Bool := false
  /-- How much is read at a time. -/
  blockLength : Nat := 4096

/-- A line that is edited. `isEnded` says that it had an end where it was read. -/
structure Text where
  bytes : Bytes := []
  isEnded : Bool := true

/-- A file that is read: lines that have been read ahead, and the start of another one. -/
structure Source where
  name : Bytes
  descriptor : Nat
  lines : List Bytes := []
  start : Bytes := []
  isAtEnd : Bool := false

/-- What is written when a line is done. -/
inductive Late
  | text (text : Bytes)
  | file (path : Bytes)

/-- How far a range of lines has come. -/
inductive Progress
  | ahead
  /-- The end is known if it is a number. -/
  | within (finish : Option Nat)
  | over

/-- A file that is edited in place, with what will be in it, last piece first. -/
structure Edited where
  path : Bytes
  place : Place
  mode : Nat
  output : List Bytes := []

structure Machine where
  request : Request
  space : Text := {}
  held : Text := {}
  number : Nat := 0
  source : Option Source := none
  waiting : List Bytes
  hasReplaced : Bool := false
  /-- What is still to be written, last one first. -/
  late : List Late := []
  ranges : Array Progress
  last : Option Pattern := none
  /-- Where a line has been written that had no end. -/
  unfinished : List Sink := []
  /-- Files from which single lines are read. -/
  readers : List (Bytes × Source) := []
  /-- Descriptors of the files that are written. -/
  files : Array Nat := #[]
  edited : Option Edited := none
  startsAnew : Bool := false
  /-- Why a file could not be written. -/
  problem : Option Errno := none
  status : Nat := 0

/-- A computation on a machine, which may end it with a status. -/
abbrev Editor := StateT Machine (ExceptT Nat Action)

/-- Ends with a message and a status. -/
def stop {α : Type} (status : Nat) (message : Bytes) : Editor α := do
  complain message
  throw status

/-- Status of an input that cannot be read. -/
def missingInput : Nat := 2

/-- Status of other errors. -/
def failure : Nat := 4

/-- Reads until there is a line, or to the end. -/
def Source.fill (ending : UInt8) (blockLength : Nat) (source : Source) : Action (Except Errno Source) :=
  repeatFrom (Except.ok source : Except Errno Source) fun answer => do
    match answer with
    | .error errno => return (.error errno, false)
    | .ok source =>
      if source.isAtEnd || !source.lines.isEmpty then return (.ok source, false)
      match ← readInput source.descriptor (some blockLength) with
      | .error errno => return (.error errno, false)
      | .ok [] => return (.ok { source with isAtEnd := true }, false)
      | .ok block =>
        match (source.start ++ block).splitAt ending |>.reverse with
        | [] => return (.ok source, false)
        | start :: lines => return (.ok { source with lines := lines.reverse, start }, true)

/-- The next line of a source, if there is one. -/
def Source.take? (source : Source) : Option (Text × Source) :=
  match source.lines with
  | line :: lines => some ({ bytes := line }, { source with lines })
  | [] =>
    if source.start.isEmpty then none
    else some ({ bytes := source.start, isEnded := false }, { source with start := [] })

/-- Writes bytes. -/
def put (sink : Sink) (bytes : Bytes) : Editor Unit := do
  match sink, (← get).edited with
  | .main, some edited =>
    modify fun machine => { machine with edited := some { edited with output := bytes :: edited.output } }
  | .main, none | .standard, _ => print bytes
  | .problems, _ => printError bytes
  | .file index, _ =>
    match (← get).files[index]? with
    | some descriptor =>
      match ← write descriptor bytes with
      | some errno => modify fun machine => { machine with problem := machine.problem.or (some errno) }
      | none => pure ()
    | none => pure ()

/-- Ends the line that was written last. -/
def endLine (sink : Sink) : Editor Unit := do
  let machine ← get
  if machine.unfinished.contains sink then
    put sink [machine.request.ending]
    modify fun machine => { machine with unfinished := machine.unfinished.filter (· ≠ sink) }

/-- Writes a line. -/
def putLine (sink : Sink) (text : Text) : Editor Unit := do
  endLine sink
  if text.isEnded then put sink (text.bytes ++ [(← get).request.ending])
  else
    put sink text.bytes
    modify fun machine => { machine with unfinished := sink :: machine.unfinished }

/-- Writes what was to be written when the line is done. -/
def putLate : Editor Unit := do
  let late := (← get).late.reverse
  if late.isEmpty then return
  modify fun machine => { machine with late := [] }
  for item in late do
    endLine .main
    match item with
    | .text text => put .main text
    | .file path =>
      match ← content path with
      | .text text => put .main text
      | _ => pure ()

/-- The name of the copy of a file. -/
def copyPath (pattern path : Bytes) : Bytes :=
  let base := (path.splitAt Path.slash).getLast?.getD []
  let directory := path.take (path.length - base.length)
  let pattern := if pattern.contains 42 then pattern else 42 :: pattern
  let name := pattern.flatMap fun byte => if byte == 42 then base else [byte]
  if name.contains Path.slash then name else directory ++ name

/-- Puts what was edited in place of its file. -/
def replaceFile : Editor Unit := do
  let machine ← get
  match machine.edited, machine.request.copies with
  | some edited, some copies =>
    set { machine with
      edited := none, unfinished := machine.unfinished.filter (· ≠ Sink.main) }
    let content := edited.output.reverse.flatten
    if !copies.isEmpty then
      let copy := copyPath copies edited.path
      match ← resolve false copy with
      | .ok ⟨place, _⟩ => changeWorld fun world => (world.unlink place).rename edited.place place
      | .error errno =>
        stop failure (utf8 "cannot rename " ++ edited.path ++ utf8 ": " ++ errno.wording)
    changeWorld fun world => (world.unlink edited.place).putNode edited.place (.file edited.mode content)
  | _, _ => pure ()

/-- Closes the file that is read. -/
def closeSource : Editor Unit := do
  match (← get).source with
  | none => pure ()
  | some source =>
    if source.descriptor ≠ 0 then close source.descriptor
    modify fun machine => { machine with source := none }
    replaceFile
    if (← get).request.isSeparate then modify fun machine => { machine with startsAnew := true }

/-- Where ranges of lines stand at the start. One from line 0 on has begun before. -/
def firstProgress (script : Script) : Array Progress :=
  script.steps.map fun step =>
    match step.selection.first with
    | some (.line 0) => .within none
    | _ => .ahead

/-- Opens the next file, if that is possible. -/
def openSource (name : Bytes) : Editor Unit := do
  let request := (← get).request
  if (← get).startsAnew then
    modify fun machine => { machine with
      startsAnew := false, number := 0, ranges := firstProgress request.script }
    if request.copies.isNone then endLine .main
  if name = [45] && request.copies.isNone then
    modify fun machine => { machine with source := some { name, descriptor := 0 } }
  else match ← openPath .input name with
    | .error errno =>
      complain (utf8 "can't read " ++ name ++ utf8 ": " ++ errno.wording)
      modify fun machine => { machine with status := missingInput }
    | .ok descriptor =>
      modify fun machine => { machine with source := some { name, descriptor } }
      if request.copies.isSome then
        match ← resolve true name, ← resolve request.followsLinks name with
        | .ok ⟨_, some (.file mode _)⟩, .ok ⟨place, _⟩ =>
          if !(← get : Machine).request.followsLinks && !(← getThe State).tree.isOpenTo place.dropLast then
            leave .abandoned
          modify fun machine => { machine with edited := some { path := name, place, mode } }
        | _, _ => stop failure (utf8 "couldn't edit " ++ name ++ utf8 ": not a regular file")

/-- Reads ahead in a source of the machine; a directory has no content where `isQuiet`. -/
def fillSource (isQuiet : Bool) (source : Source) : Editor Source := do
  let request := (← get).request
  match ← source.fill request.ending request.blockLength with
  | .ok source =>
    modify fun machine => { machine with source := some source }
    return source
  | .error errno =>
    if isQuiet then
      let source := { source with isAtEnd := true }
      modify fun machine => { machine with source := some source }
      return source
    let name := if source.name = [45] then utf8 "stdin" else source.name
    stop failure (utf8 "read error on " ++ name ++ utf8 ": " ++ errno.wording)

/-- Is the line the last one? Looks for the next file with anything in it. -/
def isLast : (bound : Nat) → Editor Bool
  | 0 => return true
  | bound + 1 => do
    let machine ← get
    match machine.source with
    | some source =>
      let source ← fillSource true source
      if source.take?.isSome then return false
      if machine.request.isSeparate then return true
      closeSource
      isLast bound
    | none =>
      match machine.waiting with
      | [] => return true
      | name :: waiting =>
        set { machine with waiting }
        openSource name
        isLast bound

/-- The next line of the input, if there is one. -/
def nextLine : (bound : Nat) → Editor (Option Text)
  | 0 => return none
  | bound + 1 => do
    let machine ← get
    match machine.source with
    | some source =>
      let source ← fillSource false source
      match source.take? with
      | some (text, source) =>
        modify fun machine => { machine with source := some source, number := machine.number + 1 }
        return some text
      | none =>
        closeSource
        nextLine bound
    | none =>
      match machine.waiting with
      | [] => return none
      | name :: waiting =>
        set { machine with waiting }
        openSource name
        nextLine bound

/-- How many steps it takes at most to come to the next line or to the end. -/
def inputBound (machine : Machine) : Nat := 2 * machine.waiting.length + 3

/-- Reads the next line behind a text, if there is one. -/
def readLine (before : Bytes) : Editor Bool := do
  putLate
  modify fun machine => { machine with hasReplaced := false }
  match ← nextLine (inputBound (← get)) with
  | none => return false
  | some text =>
    modify fun machine => { machine with space := { text with bytes := before ++ text.bytes } }
    return true

def atLast : Editor Bool := do isLast (inputBound (← get))

/-- The pattern that counts, which is the last one that was used if there is none. -/
def patternOr (pattern : Option Pattern) : Editor Pattern := do
  let machine ← get
  match pattern.or machine.last with
  | some pattern =>
    set { machine with last := some pattern }
    return pattern
  | none => stop 1 (machine.request.script.place ++ utf8 ": no previous regular expression")

/-- Is the line one that an address means? -/
def isAt (address : Address) : Editor Bool := do
  let machine ← get
  match address with
  | .line number => return machine.number = number
  | .step first distance => return first ≤ machine.number && (machine.number - first) % distance = 0
  | .last => atLast
  | .matching pattern =>
    let pattern ← patternOr pattern
    return (Regular.search? pattern.look pattern.expression machine.space.bytes).isSome

def setProgress (index : Nat) (progress : Progress) : Editor Unit :=
  modify fun machine => { machine with ranges := machine.ranges.setIfInBounds index progress }

/-- Is a step for the line, apart from a negation? -/
def isSelected (index : Nat) (selection : Selection) : Editor Bool := do
  match selection.first with
  | none => return true
  | some first =>
    match selection.finish with
    | none => isAt first
    | some finish =>
      let isNumber := match first with
        | .line _ => true
        | _ => false
      let closed : Progress := if isNumber then .over else .ahead
      match (← get).ranges.getD index .ahead with
      | .over => return false
      | .ahead =>
        if !(← isAt first) then return false
        let number := (← get).number
        let last? := match finish with
          | .address (.line last) => some last
          | .after count => some (number + count)
          | .multiple factor =>
            some (if factor = 0 then number else number + (factor - number % factor))
          | .address _ => none
        if last?.any (· ≤ number) then setProgress index closed
        else setProgress index (.within last?)
        return true
      | .within (some last) =>
        let number := (← get).number
        if last ≤ number then setProgress index closed
        return number ≤ last
      | .within none =>
        match finish with
        | .address address =>
          if ← isAt address then setProgress index closed
        | _ => pure ()
        return true

/-- The output of a command of the shell. -/
def outputOf (run : Runner) (command : Bytes) : Action Bytes := do
  let _ ← flush
  let sink ← addFile ⟨.collector [] none, false, true⟩
  let (_, _) ← inChild do
    connect 1 sink
    let state ← get
    let words := [utf8 "sh", utf8 "-c", command.takeWhile (· != 0)]
    match Files.Image.load state.tree state.directory (utf8 "/bin/sh") words state.environment with
    | .ok image => Process.become run state.environment image
    | .error _ => setStatus 127
  return (← get).world.collected sink

/-- A text without the end of its last line. -/
def withoutEnding (ending : UInt8) (text : Bytes) : Bytes :=
  if text.getLast? = some ending then text.dropLast else text

/-- What comes next. -/
inductive Next
  | step (index : Nat)
  /-- The line is done, and may still be printed. -/
  | done (prints : Bool)
  /-- The script begins again with what is left of the text. -/
  | again
  | quit (status : Nat)

/-- Reads a line from a file of its own. -/
def lineOf (path : Bytes) : Editor (Option Text) := do
  let machine ← get
  let take (source : Source) (keep : Source → Editor Unit) : Editor (Option Text) := do
    match ← source.fill machine.request.ending machine.request.blockLength with
    | .error _ => return none
    | .ok source =>
      match source.take? with
      | none =>
        keep source
        return none
      | some (text, source) =>
        keep source
        return some text
  let keepReader (source : Source) : Editor Unit :=
    modify fun machine => { machine with
      readers := (path, source) :: machine.readers.filter (·.1 ≠ path) }
  let isInput := path = utf8 "/dev/stdin"
  match machine.source.filter (·.descriptor = 0 && isInput), machine.readers.lookup path with
  | some source, _ => take source fun source => modify fun machine => { machine with source := some source }
  | none, some source => take source keepReader
  | none, none =>
    if isInput then take { name := path, descriptor := 0 } keepReader
    else match ← openPath .input path with
      | .error _ => return none
      | .ok descriptor => take { name := path, descriptor } keepReader

/-- Runs the command of a step on the line. -/
def perform (run : Runner) (index : Nat) (command : Command) : Editor Next := do
  let machine ← get
  let request := machine.request
  let ending := request.ending
  let next := Next.step (index + 1)
  let setSpace (bytes : Bytes) : Editor Unit :=
    modify fun machine => { machine with space := { machine.space with bytes } }
  let inner (text : Bytes) : Bytes := text.takeWhile (· != ending)
  let label (name : Bytes) : Next :=
    .step (if name.isEmpty then request.script.steps.size
      else (request.script.labels.lookup name).getD request.script.steps.size)
  let later (item : Late) : Editor Unit :=
    modify fun machine => { machine with late := item :: machine.late }
  -- texts end as lines do
  let asLine (text : Bytes) : Bytes :=
    if text.getLast? = some 10 then text.dropLast ++ [ending] else text
  match command with
  | .mark | .group _ => return next
  | .append text =>
    later (.text text)
    return next
  | .insert text =>
    endLine .main
    put .main (asLine text)
    return next
  | .change text =>
    match machine.ranges.getD index .ahead with
    | .within _ => pure ()
    | _ =>
      endLine .main
      put .main (asLine text)
    return .done false
  | .jump .always name => return label name
  | .jump when_ name =>
    modify fun machine => { machine with hasReplaced := false }
    return if machine.hasReplaced == (when_ == .replaced) then label name else next
  | .delete => return .done false
  | .deleteFirst =>
    if !machine.space.bytes.contains ending then return .done false
    setSpace (machine.space.bytes.drop ((inner machine.space.bytes).length + 1))
    return .again
  | .run command =>
    if command.isEmpty then
      setSpace (withoutEnding ending (← outputOf run machine.space.bytes))
    else
      endLine .main
      let text ← outputOf run command
      put .main text
    return next
  | .fileName =>
    endLine .main
    put .main (((machine.source.map (·.name)).getD [45]) ++ [ending])
    return next
  | .getHeld =>
    set { machine with space := machine.held }
    return next
  | .appendHeld =>
    set { machine with space := ⟨machine.space.bytes ++ ending :: machine.held.bytes, machine.held.isEnded⟩ }
    return next
  | .hold =>
    set { machine with held := machine.space }
    return next
  | .holdMore =>
    set { machine with held := ⟨machine.held.bytes ++ ending :: machine.space.bytes, machine.space.isEnded⟩ }
    return next
  | .exchange =>
    set { machine with space := machine.held, held := machine.space }
    return next
  | .list width =>
    endLine .main
    put .main (listed (width.getD request.width) machine.space.bytes ++ [ending])
    return next
  | .next =>
    if ← atLast then return .done (!request.manner.isStrict)
    if !request.isQuiet then putLine .main (← get).space
    return if ← readLine [] then next else .done false
  | .appendNext =>
    if ← atLast then return .done (!request.manner.isStrict)
    return if ← readLine (machine.space.bytes ++ [ending]) then next else .done false
  | .print =>
    putLine .main machine.space
    return next
  | .printFirst =>
    if machine.space.bytes.contains ending then
      putLine .main { bytes := inner machine.space.bytes }
    else putLine .main machine.space
    return next
  | .quit status prints =>
    if prints && !request.isQuiet then putLine .main machine.space
    if prints then putLate
    return .quit status
  | .readFile path =>
    later (.file path)
    return next
  | .readLine path =>
    match ← lineOf path with
    | some text => later (.text (if text.isEnded then text.bytes ++ [ending] else text.bytes))
    | none => pure ()
    return next
  | .substitute substitution =>
    let pattern ← patternOr substitution.pattern
    match replace? pattern substitution machine.space.bytes with
    | none => return next
    | some bytes =>
      setSpace bytes
      modify fun machine => { machine with hasReplaced := true }
      if substitution.printsBefore then putLine .main (← get).space
      if substitution.isRun then setSpace (withoutEnding ending (← outputOf run bytes))
      if substitution.prints then putLine .main (← get).space
      match substitution.sink with
      | some sink => putLine sink (← get).space
      | none => pure ()
      return next
  | .write sink =>
    putLine sink machine.space
    return next
  | .writeFirst sink =>
    if machine.space.bytes.contains ending then putLine sink { bytes := inner machine.space.bytes }
    else putLine sink machine.space
    return next
  | .translate pairs =>
    setSpace (translated request.manner.wide pairs machine.space.bytes)
    return next
  | .clear =>
    setSpace []
    return next
  | .number =>
    endLine .main
    put .main (Bytes.decimal machine.number ++ [ending])
    return next

/-- Runs the script on the line, from a step on. -/
def runFrom (run : Runner) : (bound : Nat) → (index : Nat) → Editor Next
  | 0, _ => leave .abandoned
  | bound + 1, index => do
    match (← get).request.script.steps[index]? with
    | none => return .done true
    | some step =>
      let isFor := (← isSelected index step.selection) != step.selection.isNegated
      let next ← match step.command with
        | .group finish => pure (.step (if isFor then index + 1 else finish))
        | command => if isFor then perform run index command else pure (.step (index + 1))
      match next with
      | .step index => runFrom run bound index
      | next => return next

/-- Runs the script on one line after another. The result is the status to end with. -/
def runLines (run : Runner) : (bound : Nat) → (isRead : Bool) → Editor Nat
  | 0, _ => leave .abandoned
  | bound + 1, isRead => do
    let hasLine ← if isRead then pure true else readLine []
    if !hasLine then return (← get).status
    match ← runFrom run maxIterations 0 with
    | .quit status => return status
    | .again =>
      putLate
      runLines run bound true
    | .done prints =>
      if prints && !(← get).request.isQuiet then putLine .main (← get).space
      putLate
      runLines run bound false
    | .step _ => return failure

/-- Goes back to behind the lines that were taken of the standard input, where that is possible. -/
def giveBack (source : Source) : Action Unit := do
  if source.descriptor = 0 then
    match ← filePlace? 0 with
    | some (_, offset, _) =>
      let unread := sumOf (source.lines.map (·.length + 1)) + source.start.length
      seek 0 (offset - unread)
    | none => pure ()

/-- Opens the files that the script writes, runs it, and closes what is open. -/
def runAll (run : Runner) : Editor Nat := do
  for path in (← get).request.script.files do
    match ← openPath .output path with
    | .error errno => stop failure (utf8 "couldn't open file " ++ path ++ utf8 ": " ++ errno.wording)
    | .ok descriptor =>
      modify fun machine => { machine with files := machine.files.push descriptor }
  let status ← runLines run maxIterations false
  match (← get).source with
  | some source => giveBack source
  | none => pure ()
  closeSource
  match (← get).problem with
  | some errno => stop failure (utf8 "couldn't flush <unknown>: " ++ errno.wording)
  | none => return status

/-- Makes the files that a refused script would have written. -/
def makeFiles (reading : Reading) : Action Unit := do
  for path in reading.script.files do
    match ← openPath .output path with
    | .ok descriptor => close descriptor
    | .error _ => pure ()

/-- Reads the scripts of a call; the rest of its operands are inputs. -/
def scriptOf (manner : Manner) (call : Call) : Action (Except Refusal (Script × List Bytes)) := do
  let given := call.flags.reverse.filter fun flag => flag.1 == 'e' || flag.1 == 'f'
  let (pieces, operands) := match given, call.operands with
    | [], first :: operands => ([('e', first)], operands)
    | given, operands => (given, operands)
  let start : Reading := { manner }
  let mut reading := start
  let mut arguments := 0
  let mut isFirst := true
  for (letter, text) in pieces do
    let (origin, source) ←
      if letter == 'e' then
        arguments := arguments + 1
        pure (Origin.argument arguments, text)
      else match ← content text with
        | .text content => pure (.file (if text = [45] then utf8 "-" else text), content)
        | .closed errno =>
          return .error ⟨failure, utf8 "couldn't open file " ++ text ++ utf8 ": " ++ errno.wording⟩
        | .unreadable errno =>
          return .error ⟨failure, utf8 "read error on " ++ text ++ utf8 ": " ++ errno.wording⟩
    match (piece origin isFirst source).run.run reading with
    | (.error refusal, after) =>
      makeFiles after
      return .error refusal
    | (.ok (), after) => reading := after
    isFirst := false
  match conclude.run.run reading with
  | (.error refusal, after) =>
    makeFiles after
    return .error refusal
  | (.ok script, _) => return .ok (script, operands)

def known : Flags :=
  ⟨"bsnrzuEe:f:l:i::V:hs", [⟨"binary", 'b', .nothing⟩, ⟨"regexp-extended", 'r', .nothing⟩,
    ⟨"debug", '?', .nothing⟩, ⟨"in-place", 'i', .perhaps⟩, ⟨"expression", 'e', .argument⟩,
    ⟨"file", 'f', .argument⟩, ⟨"line-length", 'l', .argument⟩, ⟨"null-data", 'z', .nothing⟩,
    ⟨"zero-terminated", 'z', .nothing⟩, ⟨"quiet", 'n', .nothing⟩, ⟨"posix", 'p', .nothing⟩,
    ⟨"silent", 'n', .nothing⟩, ⟨"sandbox", 'σ', .nothing⟩, ⟨"separate", 's', .nothing⟩,
    ⟨"unbuffered", 'u', .nothing⟩, ⟨"follow-symlinks", 'φ', .nothing⟩, ⟨"help", '?', .nothing⟩,
    ⟨"version", '?', .nothing⟩], .atEnd⟩

end Editing

open Editing in
/-- Edits the lines of its input by a script. -/
def sed (run : Runner) (arguments : List Bytes) : Action Nat := do
  match Call.read known (isStrict (← get)) (arguments.length + 1) arguments {} with
  | .error _ => leave .abandoned
  | .ok call =>
    let hasScript := call.has 'e' || call.has 'f' || !call.operands.isEmpty
    if (call.last? "?hV").isSome || !hasScript then leave .abandoned
    let manner : Editing.Manner := {
      extended := call.has 'r' || call.has 'E', wide := hasWideCharacters (← get)
      isStrict := call.has 'p' || isStrict (← get), isConfined := call.has 'σ' }
    match ← scriptOf manner call with
    | .error refusal =>
      complain refusal.message
      return refusal.status
    | .ok (script, operands) =>
      let copies := call.argument? 'i'
      if copies.isSome && operands.isEmpty then
        complain (utf8 "no input files")
        return failure
      let request : Editing.Request := {
        script, manner, copies
        isQuiet := call.has 'n' || script.isQuiet
        width := match call.argument? 'l' with
          | some text => (natural? (text.takeWhile Bytes.isDigit)).getD 0
          | none => 70
        ending := if call.has 'z' then 0 else 10
        isSeparate := call.has 's' || copies.isSome
        followsLinks := call.has 'φ'
        blockLength := if call.has 'u' then 1 else 4096 }
      let start : Machine := { request, waiting := inputs operands, ranges := firstProgress script }
      let status ← match ← (runAll run).run start with
        | .ok (status, _) => pure status
        | .error status => pure status
      if !(← isOpen 1) && !(← get).output.isEmpty then
        complain (utf8 "couldn't close stdout: " ++ Errno.EBADF.wording)
        return failure
      match ← flush with
      | none => return status
      | some errno =>
        complain (utf8 "couldn't flush stdout: " ++ errno.wording)
        return failure

end CleanLaunch.Shell.Utility
