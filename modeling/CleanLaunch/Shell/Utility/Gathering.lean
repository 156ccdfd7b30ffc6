import CleanLaunch.Shell.Number
import CleanLaunch.Shell.Utility.Starting

/-! The utility `xargs`, which runs commands on words that it reads.

    The input is read as a list of items: words, each perhaps the last one of a line. They are gathered into
    commands until one is full. -/

namespace CleanLaunch.Shell.Utility

open Shell.Action

namespace Gathering

/-- How the input is cut into words. -/
inductive Cutting
  /-- At blanks and newlines, with quotes and backslashes. -/
  | words
  /-- At newlines alone, with quotes and backslashes. -/
  | lines
  /-- At a byte, and nothing else has a meaning. -/
  | atByte (byte : UInt8)
  deriving DecidableEq

/-- What is read of the input. -/
inductive Item
  | word (word : Bytes) (endsLine : Bool)
  /-- A quotation mark that is never closed. -/
  | unmatched (mark : UInt8)
  /-- A NUL, which no argument can hold. -/
  | strange

/-- What a call asks for. -/
structure Request where
  cutting : Cutting := .words
  /-- The text that words are put in the place of. -/
  pattern : Option Bytes := none
  maxWords : Option Nat := none
  maxLines : Option Nat := none
  /-- The most bytes of a command, each word with its end. -/
  maxBytes : Nat := 131072
  maxProcesses : Nat := 1
  ending : Option Bytes := none
  source : Bytes := [45]
  slot : Option Bytes := none
  isStrict : Bool := false
  showsCommands : Bool := false
  asks : Bool := false
  runsAlways : Bool := true
  command : List Bytes

/-- A number that a flag asks for, with the complaint about it. -/
def number (letter : Char) (least : Nat) (text : Bytes) : Except Bytes Nat :=
  let behind := utf8 (" for -" ++ letter.toString ++ " option")
  match Number.read? (some 10) text with
  | some read =>
    if !read.rest.isEmpty then .error (utf8 "invalid number \"" ++ text ++ utf8 "\"" ++ behind)
    else if read.value < least then
      .error (utf8 "value " ++ text ++ behind ++ utf8 " should be >= " ++ Bytes.decimal least)
    else .ok read.value.toNat
  | none => .error (utf8 "invalid number \"" ++ text ++ utf8 "\"" ++ behind)

/-- The byte that a text stands for as a delimiter. -/
def delimiter (text : Bytes) : Except Bytes UInt8 :=
  let invalid (rest : Bytes) : Except Bytes UInt8 :=
    .error (utf8 "Invalid escape sequence " ++ text ++ utf8 " in input delimiter specification" ++ rest)
  match text with
  | [byte] => .ok byte
  | 92 :: letter :: rest =>
    let letters : List (UInt8 × UInt8) := [(97, 7), (98, 8), (102, 12), (110, 10), (114, 13), (116, 9),
      (118, 11), (92, 92)]
    let numbered (base : Nat) (digits : Bytes) (most : String) : Except Bytes UInt8 :=
      let (value, behind) := Number.digits base digits
      if 255 < value then invalid (utf8 ("; character values must not exceed " ++ most ++ "."))
      else if !behind.isEmpty then
        invalid (utf8 "; trailing characters " ++ behind ++ utf8 " not recognised.")
      else .ok value.toUInt8
    if letter == 120 then numbered 16 rest "ff"
    else if 48 ≤ letter && letter ≤ 55 then numbered 8 (letter :: rest) "377"
    else match letters.lookup letter with
      | some byte => .ok byte
      | none => invalid (utf8 ".")
  | _ => .error (utf8 "Invalid input delimiter specification " ++ text ++ utf8
      ": the delimiter must be either a single character or an escape sequence starting with \\.")

/-- What is read of flags: a request, and warnings. -/
structure Progress where
  request : Request
  warnings : List Bytes := []

/-- Warns that an earlier flag is passed over. -/
def Progress.warn (progress : Progress) (option offending : String) : Progress :=
  { progress with warnings := progress.warnings ++
      [utf8 ("warning: options " ++ offending ++ " and " ++ option ++
        " are mutually exclusive, ignoring previous " ++ offending ++ " value")] }

/-- Takes earlier flags back that do not go with another one. -/
def Progress.exclude (progress : Progress) (option : String) (words lines pattern : Bool) : Progress :=
  let progress := if words && progress.request.maxWords.isSome then
      { (progress.warn option "--max-args") with request := { progress.request with maxWords := none } }
    else progress
  let progress := if lines && progress.request.maxLines.isSome then
      { (progress.warn option "--max-lines") with request := { progress.request with maxLines := none } }
    else progress
  if pattern && progress.request.pattern.isSome then
    { (progress.warn option "--replace") with request := { progress.request with pattern := none } }
  else progress

/-- Complaints that are followed by a hint to the help. -/
inductive Refusal
  | plain (problem : Bytes)
  | withHelp (problem : Bytes)

/-- Takes a flag into account. -/
def apply (progress : Progress) (flag : Char × Bytes) : Except Refusal Progress :=
  let (letter, argument) := flag
  let counted (least : Nat) (use : Nat → Progress) : Except Refusal Progress :=
    match number letter least argument with
    | .ok n => .ok (use n)
    | .error problem => .error (.withHelp problem)
  let change (change : Request → Request) : Except Refusal Progress :=
    .ok { progress with request := change progress.request }
  let put (progress : Progress) (change : Request → Request) : Progress :=
    { progress with request := change progress.request }
  match letter with
  | '0' => change ({ · with cutting := .atByte 0 })
  | 'd' => match delimiter argument with
    | .ok byte => change ({ · with cutting := .atByte byte })
    | .error problem => .error (.plain problem)
  | 'E' | 'e' => change ({ · with ending := if argument.isEmpty then none else some argument })
  | 'I' | 'i' =>
    let pattern := if argument.isEmpty then utf8 "\x7b\x7d" else argument
    .ok (put (progress.exclude "--replace/-I/-i" true true false) ({ · with pattern := some pattern }))
  | 'L' =>
    counted 1 fun n => put (progress.exclude "-L" true false true) ({ · with maxLines := some n })
  | 'l' =>
    let use (n : Nat) : Progress :=
      put (progress.exclude "--max-lines/-l" true false true) ({ · with maxLines := some n })
    if argument.isEmpty then .ok (use 1) else counted 1 use
  | 'n' => counted 1 fun n =>
    let progress := progress.exclude "--max-args/-n" false true false
    if progress.request.pattern.isSome && n = 1 then progress
    else put (progress.exclude "--max-args/-n" false false true) ({ · with maxWords := some n })
  | 's' => match number letter 1 argument with
    | .ok n => change ({ · with maxBytes := n })
    | .error problem =>
      if (Number.read? (some 10) argument).any (·.rest.isEmpty) then
        .ok { request := { progress.request with maxBytes := 1 }
              warnings := progress.warnings ++ [problem] }
      else .error (.withHelp problem)
  | 'P' => counted 0 fun n => put progress ({ · with maxProcesses := n })
  | 'a' => change ({ · with source := argument })
  | 'r' => change ({ · with runsAlways := false })
  | 't' => change ({ · with showsCommands := true })
  | 'p' => change ({ · with showsCommands := true, asks := true })
  | 'x' => change ({ · with isStrict := true })
  | 'σ' =>
    if argument.contains 61 then
      .error (.plain (utf8
        "option --process-slot-var may not be set to a value which includes `='"))
    else change ({ · with slot := some argument })
  | _ => .ok progress

/-- How far a word has been read. -/
structure Reading where
  word : Bytes := []
  /-- Are blanks passed over in front of a word? -/
  isBefore : Bool := true
  quote : Option UInt8 := none
  isEscaped : Bool := false
  last : UInt8 := 0
  items : List Item := []

/-- Goes on by one byte where quotes and backslashes have a meaning. -/
def readByte (cutsAtBlanks : Bool) (reading : Reading) (byte : UInt8) : Reading :=
  let isBlank := byte == 32 || byte == 9
  let isSpace := isBlank || byte == 10
  let push (reading : Reading) : Reading :=
    let strange := if byte == 0 then [Item.strange] else []
    { reading with word := byte :: reading.word, items := strange ++ reading.items }
  let close (endsLine : Bool) : Reading :=
    { reading with
      word := [], isBefore := true
      items := .word reading.word.reverse endsLine :: reading.items }
  let next : Reading :=
    match reading.items.head? with
    | some (.unmatched _) => reading
    | _ =>
    if reading.isEscaped then push { reading with isEscaped := false }
    else match reading.quote with
    | some mark =>
      if byte == 10 then { reading with items := .unmatched mark :: reading.items }
      else if byte == mark then { reading with quote := none }
      else push reading
    | none =>
      if reading.isBefore && isSpace then reading
      else if byte == 10 then
        if reading.word.isEmpty then { reading with isBefore := true }
        else close (!(reading.last == 32 || reading.last == 9))
      else if cutsAtBlanks && isSpace then close false
      else
        let reading := { reading with isBefore := false }
        if byte == 92 then { reading with isEscaped := true }
        else if byte == 39 || byte == 34 then { reading with quote := some byte }
        else push reading
  { next with last := byte }

/-- The items of a text where quotes and backslashes have a meaning. -/
def quotedItems (cutsAtBlanks : Bool) (text : Bytes) : List Item :=
  let reading := text.foldl (readByte cutsAtBlanks) {}
  let last : List Item :=
    if reading.word.isEmpty then []
    else match reading.items.head?, reading.quote with
      | some (.unmatched _), _ => []
      | _, some mark => [.unmatched mark]
      | _, none => [.word reading.word.reverse false]
  reading.items.reverse ++ last

/-- The items of a text. Everything behind a word that ends it is passed over. -/
def items (cutting : Cutting) (ending : Option Bytes) (text : Bytes) : List Item :=
  match cutting with
  | .atByte byte =>
    (linesUpTo byte text).map fun line =>
      .word (if line.getLast? = some byte then line.dropLast else line) true
  | _ =>
    let isEnding : Item → Bool
      | .word word _ => some word == ending
      | _ => false
    (quotedItems (cutting = .words) text).takeWhile (!isEnding ·)

/-- A text with another one in place of every occurrence of a pattern. -/
def replaced (pattern new : Bytes) : (bound : Nat) → Bytes → Bytes
  | 0, text => text
  | _, [] => []
  | bound + 1, byte :: rest =>
    if !pattern.isEmpty && pattern.isPrefixOf (byte :: rest) then
      new ++ replaced pattern new bound ((byte :: rest).drop pattern.length)
    else byte :: replaced pattern new bound rest

/-- Bytes of words, each with its end. -/
def sizeOf (words : List Bytes) : Nat := sumOf (words.map fun word => word.length + 1)

/-- A run: the words gathered so far, the last one first, lines among them, running commands with their slots
    and times, and the status. -/
structure Gathered where
  words : List Bytes := []
  lines : Nat := 0
  running : List (Nat × Nat) := []
  hasRun : Bool := false
  status : Nat := 0
  /-- The status to end with at once. -/
  final : Option Nat := none

/-- What an ending of a command means for the status, with a complaint if it ends everything. -/
def judge (command : Bytes) (gathered : Gathered) (ending : Ending) : Action Gathered := do
  match ending with
  | .killed signal =>
    complain (command ++ utf8 ": terminated by signal " ++ Bytes.decimal signal)
    return { gathered with final := some 125 }
  | .exited 255 =>
    complain (command ++ utf8 ": exited with status 255; aborting")
    return { gathered with final := some 124 }
  | .exited code => return if code = 0 then gathered else { gathered with status := 123 }

/-- Runs a command on its own. -/
def runCommand (run : Runner) (request : Request) (arguments : List Bytes) (gathered : Gathered) :
    Action Gathered := do
  let gathered := { gathered with hasRun := true }
  if request.showsCommands then
    let wide := hasWideCharacters (← get)
    let shown := arguments.map fun word => Quotation.argument wide word
    printError (Bytes.joinWith [32] shown ++ if request.asks then [] else [10])
  if request.asks then
    complain (utf8 "failed to open /dev/tty for reading: No such device or address")
    return { gathered with final := some 1 }
  match ← locate arguments with
  | .error errno =>
    complain (arguments.headD [] ++ utf8 ": " ++ errno.wording)
    return { gathered with final := some (startFailure errno) }
  | .ok image =>
    let clock := (← get).world.clock
    let isAlone := request.maxProcesses = 1
    let isFull := request.maxProcesses ≠ 0 &&
      request.maxProcesses ≤ (gathered.running.filter (clock < ·.2)).length
    if isFull then
      let times := (gathered.running.filter (clock < ·.2)).map (·.2)
      let first := times.foldl min (times.headD clock)
      changeWorld fun world => { world with clock := max world.clock first }
    let clock := (← get).world.clock
    let running := gathered.running.filter (clock < ·.2)
    let slot := ((List.range (running.length + 1)).find? fun n => !running.any (·.1 = n)).getD 0
    let body : Action Unit := do
      if request.source = [45] then
        close 0
        let _ ← openPath .input (utf8 "/dev/null")
      let entries := match request.slot with
        | some name => [name ++ [61] ++ Bytes.decimal slot]
        | none => []
      let environment := (← get).environment.filter fun entry =>
        !(request.slot.any fun name => (name ++ [61]).isPrefixOf entry)
      Process.become run (environment ++ entries) image
    if isAlone then
      let (_, ending) ← inChild body
      judge (arguments.headD []) gathered ending
    else
      let (_, finish, ending) ← inBackground body
      judge (arguments.headD []) { gathered with running := (slot, finish) :: running } ending

/-- Runs the command with the words gathered so far. -/
def runGathered (run : Runner) (request : Request) (gathered : Gathered) : Action Gathered := do
  let arguments := request.command ++ gathered.words.reverse
  runCommand run request arguments { gathered with words := [], lines := 0 }

/-- Ends everything because of a problem; words that have been gathered are run first, unless things are
    strict. -/
def abort (run : Runner) (request : Request) (gathered : Gathered) (problem : Bytes) :
    Action Gathered := do
  let isCareful := request.isStrict || request.pattern.isSome || request.maxLines.isSome
  let gathered ← if isCareful || gathered.words.isEmpty then pure gathered
    else runGathered run request gathered
  match gathered.final with
  | some _ => return gathered
  | none =>
    complain problem
    return { gathered with final := some 1 }

/-- Gathers a word, and runs a command with those before it if there is no room for it. -/
def takeWord (run : Runner) (request : Request) (word : Bytes) (endsLine : Bool) (gathered : Gathered) :
    Action Gathered := do
  let word := word.takeWhile (· != 0)
  let limit := request.maxBytes
  let fixed := if request.pattern.isSome then 0 else sizeOf request.command
  if limit < fixed + word.length + 1 then
    return ← abort run request gathered (utf8 "argument line too long")
  match request.pattern with
  | some pattern =>
    let replace (part : Bytes) : Bytes := replaced pattern word (part.length + 1) part
    let arguments := request.command.take 1 ++ (request.command.drop 1).map replace
    if limit < sizeOf arguments then abort run request gathered (utf8 "command too long")
    else runCommand run request arguments gathered
  | none =>
    let isFull := request.maxWords.any (· ≤ gathered.words.length)
    let isLarge := limit < sizeOf request.command + sizeOf gathered.words + word.length + 1
    let isCareful := request.isStrict && request.maxWords.isSome || request.maxLines.isSome
    if isLarge && !isFull && isCareful then
      return ← abort run request gathered (utf8 "argument list too long")
    let gathered ← if isFull || isLarge then runGathered run request gathered else pure gathered
    if gathered.final.isSome then return gathered
    let gathered := { gathered with
      words := word :: gathered.words, lines := gathered.lines + if endsLine then 1 else 0 }
    if request.maxLines.any (· ≤ gathered.lines) then runGathered run request gathered
    else return gathered

/-- Takes the items of the input one after another. -/
def takeAll (run : Runner) (request : Request) : (warned : Bool) → List Item → Gathered → Action Gathered
  | _, [], gathered => return gathered
  | warned, item :: rest, gathered => do
    if gathered.final.isSome then return gathered
    match item with
    | .word word endsLine => takeAll run request warned rest (← takeWord run request word endsLine gathered)
    | .unmatched mark =>
      abort run request gathered (utf8 "unmatched " ++
        utf8 (if mark == 39 then "single" else "double") ++
        utf8 " quote; by default quotes are special to xargs unless you use the -0 option")
    | .strange =>
      if !warned then
        complain (utf8 "WARNING: a NUL character occurred in the input.  " ++
          utf8 "It cannot be passed through in the argument list.  Did you mean to use the --null option?")
      takeAll run request true rest gathered

/-- Reads the input and runs commands on it. -/
def runAll (run : Runner) (request : Request) : Action Nat := do
  let fixed := if request.pattern.isSome then request.command.take 1 else request.command
  if request.maxBytes < sizeOf fixed then
    complain (utf8 "cannot fit single argument within argument list size limit")
    return 1
  let cutting := match request.cutting with
    | .atByte byte => .atByte byte
    | _ => if request.pattern.isSome then .lines else .words
  match ← withInput request.source readAll with
  | .error errno =>
    complain (utf8 "Cannot open input file " ++ (← quoted request.source) ++ utf8 ": " ++ errno.wording)
    return 1
  | .ok read =>
    let text := match read with
      | .ok text => text
      | .error _ => []
    let gathered ← takeAll run request false (items cutting request.ending text) {}
    let isDue := !gathered.words.isEmpty ||
      (request.pattern.isNone && request.runsAlways && !gathered.hasRun)
    let gathered ← if gathered.final.isNone && isDue then runGathered run request gathered
      else pure gathered
    let finish := gathered.running.foldl (fun time entry => max time entry.2) 0
    changeWorld fun world => { world with clock := max world.clock finish }
    match gathered.final, read with
    | some status, _ => return status
    | none, .error errno =>
      if request.source ≠ [45] then return gathered.status
      complain (utf8 "error closing file" ++
        (if errno = .EBADF then utf8 ": " ++ errno.wording else []))
      return 1
    | none, .ok _ => return gathered.status

/-- The flags of a call. -/
def known : Flags :=
  ⟨"0a:E:e::i::I:l::L:n:prs:txP:d:o", [⟨"null", '0', .nothing⟩, ⟨"arg-file", 'a', .argument⟩,
    ⟨"delimiter", 'd', .argument⟩, ⟨"eof", 'e', .perhaps⟩, ⟨"replace", 'i', .perhaps⟩,
    ⟨"max-lines", 'l', .perhaps⟩, ⟨"max-args", 'n', .argument⟩, ⟨"open-tty", 'o', .nothing⟩,
    ⟨"interactive", 'p', .nothing⟩, ⟨"no-run-if-empty", 'r', .nothing⟩, ⟨"max-chars", 's', .argument⟩,
    ⟨"verbose", 't', .nothing⟩, ⟨"show-limits", 'λ', .nothing⟩, ⟨"exit", 'x', .nothing⟩,
    ⟨"max-procs", 'P', .argument⟩, ⟨"process-slot-var", 'σ', .argument⟩], .atOperand⟩

end Gathering

open Gathering in
/-- Runs commands with arguments that are read from the input. -/
def xargs (run : Runner) (arguments : List Bytes) : Action Nat :=
  withCall known 1 arguments fun call => do
    if (call.last? "oλ").isSome then leave .abandoned
    let command := if call.operands.isEmpty then [utf8 "echo"] else call.operands
    match call.flags.reverse.foldlM apply { request := { command } } with
    | .error (.plain problem) =>
      complain problem
      return 1
    | .error (.withHelp problem) => refuse 1 problem
    | .ok progress =>
      for warning in progress.warnings do complain warning
      let request := progress.request
      let isBytes := match request.cutting with
        | .atByte _ => true
        | _ => false
      if request.ending.isSome && isBytes then
        complain (utf8 "warning: the -E option has no effect if -0 or -d is used.\n")
      runAll run request

end CleanLaunch.Shell.Utility
