import CleanLaunch.Shell.Pattern
import CleanLaunch.Shell.Utility.Input
import CleanLaunch.Shell.Utility.Matching

/-! The utility `grep`, which prints the lines that a pattern matches. -/

namespace CleanLaunch.Shell.Utility

open Shell.Action
open Files (Place Node)

namespace Search

/-- Colours of output, each as the numbers of a terminal's escape sequence. -/
structure Colours where
  selectedMatch : Bytes := utf8 "01;31"
  contextMatch : Bytes := utf8 "01;31"
  selectedLine : Bytes := []
  contextLine : Bytes := []
  file : Bytes := utf8 "35"
  line : Bytes := utf8 "32"
  offset : Bytes := utf8 "32"
  separator : Bytes := utf8 "36"
  /-- Is the rest of a line cleared in the same colour? -/
  clears : Bool := true
  /-- Do lines change colours where those are printed that do not match? -/
  swaps : Bool := false

namespace Colours

/-- Reads settings such as `mt=01;32`, joined by colons. -/
def read (colours : Colours) (text : Bytes) : Colours :=
  (text.splitAt 58).foldl (fun colours setting =>
    let name := setting.takeWhile (· != 61)
    let value := setting.drop (name.length + 1)
    match String.fromUTF8? ⟨name.toArray⟩ with
    | some "mt" => { colours with selectedMatch := value, contextMatch := value }
    | some "ms" => { colours with selectedMatch := value }
    | some "mc" => { colours with contextMatch := value }
    | some "sl" => { colours with selectedLine := value }
    | some "cx" => { colours with contextLine := value }
    | some "fn" => { colours with file := value }
    | some "ln" => { colours with line := value }
    | some "bn" => { colours with offset := value }
    | some "se" => { colours with separator := value }
    | some "ne" => { colours with clears := false }
    | some "rv" => { colours with swaps := true }
    | _ => colours) colours

/-- A text in a colour. -/
def paint (colours : Colours) (colour text : Bytes) : Bytes :=
  let clear : Bytes := if colours.clears then utf8 "\x1b[K" else []
  if colour.isEmpty then text
  else utf8 "\x1b[" ++ colour ++ [109] ++ clear ++ text ++ utf8 "\x1b[m" ++ clear

end Colours

/-- What is made of files that are no texts. -/
inductive BinaryFiles
  | reported | treatedAsText | skipped
  deriving DecidableEq

/-- What is printed. -/
inductive Format
  | lines
  | parts
  | counts
  /-- Names of files, with a match or without. -/
  | names (withMatch : Bool)
  | nothing
  deriving DecidableEq

/-- A search. -/
structure Request where
  matching : Matching
  inverts : Bool
  wide : Bool
  format : Format
  /-- The most lines that are selected in a file. -/
  most : Option Nat
  before : Option Nat
  after : Option Nat
  /-- What stands between groups of lines. -/
  groupSeparator : Option Bytes
  ending : UInt8
  binary : BinaryFiles
  showsNumber : Bool
  showsOffset : Bool
  aligns : Bool
  /-- Does a NUL stand behind the names of files? -/
  endsNames : Bool
  colours : Option Colours

/-- A line of a file. -/
structure Line where
  number : Nat
  offset : Nat
  text : Bytes

/-- A piece of output: a line, or what separates groups of them. -/
inductive Piece
  | line (line : Line) (isSelected : Bool)
  | separator

/-- How far the output of a file has come, last piece first. -/
structure Progress where
  pieces : List Piece := []
  /-- Lines that may be printed before the next selected one, the last one first. -/
  recent : List Line := []
  /-- Lines that are still to be printed behind the last selected one. -/
  pending : Nat := 0
  /-- The number of the last line that was printed. -/
  last : Nat := 0
  selected : Nat := 0
  /-- Has anything been printed for this file or another one? -/
  isUsed : Bool
  /-- The offset behind the last selected line. -/
  stop : Nat := 0

/-- Looks at one more line. -/
def Progress.take (request : Request) (progress : Progress) (line : Line) (isSelected : Bool) : Progress :=
  let isFull := request.most.any (· ≤ progress.selected)
  if isSelected && !isFull then
    let before := progress.recent.reverse
    let first := (before.head?.getD line).number
    let hasContext := request.before.isSome || request.after.isSome
    let separated : Bool := hasContext && progress.isUsed && first ≠ progress.last + 1 || (hasContext &&
      progress.isUsed && progress.last = 0)
    let pieces := if separated then .separator :: progress.pieces else progress.pieces
    let pieces := before.foldl (fun pieces line => .line line false :: pieces) pieces
    { progress with
      pieces := .line line true :: pieces
      recent := [], pending := request.after.getD 0, last := line.number
      selected := progress.selected + 1, isUsed := true
      stop := line.offset + line.text.length + 1 }
  else if 0 < progress.pending then
    { progress with
      pieces := .line line false :: progress.pieces
      pending := progress.pending - 1, last := line.number }
  else { progress with recent := (line :: progress.recent).take (request.before.getD 0) }

/-- The lines of a text; `isEnd` tells where they end. -/
def linesOf (isEnd : UInt8 → Bool) (text : Bytes) : List Line :=
  let (read, current, start, offset) := text.foldl (fun (read, current, start, offset) byte =>
    if isEnd byte then ((start, List.reverse current) :: read, [], offset + 1, offset + 1)
    else (read, byte :: current, start, offset + 1))
    (([] : List (Nat × Bytes)), ([] : Bytes), 0, 0)
  let all := if current.isEmpty && start = offset then read else (start, current.reverse) :: read
  (all.reverse.zipIdx 1).map fun ((offset, text), number) => ⟨number, offset, text⟩

/-- A number with blanks before it. -/
def aligned (width n : Nat) : Bytes :=
  let digits := Bytes.decimal n
  List.replicate (width - digits.length) 32 ++ digits

/-- The head of a line: where it was found, if that is to be told. -/
def head (request : Request) (name : Option Bytes) (mark : UInt8) (number offset : Nat) (isEmpty : Bool) :
    Bytes :=
  let colours := request.colours.getD {}
  let paint (colour : Colours → Bytes) (text : Bytes) : Bytes :=
    if request.colours.isSome then colours.paint (colour colours) text else text
  let sign : Bytes := paint (·.separator) [mark]
  let width := if request.aligns then 2 else 0
  let name := match name with
    | some name => paint (·.file) name ++ (if request.endsNames then [0] else sign)
    | none => []
  let number := if request.showsNumber then paint (·.line) (aligned width number) ++ sign else []
  let offset := if request.showsOffset then paint (·.offset) (aligned width offset) ++ sign else []
  let all := name ++ number ++ offset
  if request.aligns && !all.isEmpty && !isEmpty then all ++ [9] else all

/-- A line with its matches in colours. -/
def painted (request : Request) (colours : Colours) (line : Bytes) (isSelected : Bool) : Bytes :=
  let isMatching := isSelected != request.inverts
  let lineColour := if isSelected != (request.inverts && colours.swaps) then colours.selectedLine
    else colours.contextLine
  let matchColour := if isSelected then colours.selectedMatch else colours.contextMatch
  let clear : Bytes := if colours.clears then utf8 "\x1b[K" else []
  let start : Bytes := if lineColour.isEmpty then [] else utf8 "\x1b[" ++ lineColour ++ [109] ++ clear
  let (text, rest) :=
    if !isMatching || matchColour.isEmpty then ([], line)
    else
      let (text, offset) := (request.matching.parts line).foldl (fun (text, from_) (offset, part) =>
        (text ++ start ++ (line.take offset).drop from_ ++ colours.paint matchColour part,
          offset + part.length)) (([] : Bytes), 0)
      (text, line.drop offset)
  text ++ (if rest.isEmpty then [] else colours.paint lineColour rest)

/-- Has a text bytes that belong to no character? -/
def hasStrayBytes (text : Bytes) : Bool := (Character.codes true text).any (Character.strayCode ≤ ·)

/-- Searches a text, prints what is asked for, and gives the progress. -/
def searchText (request : Request) (name : Option Bytes) (shownName : Bytes) (isUsed : Bool) (text : Bytes) :
    Action Progress := do
  let isBinary := request.ending == 10 && request.binary ≠ .treatedAsText && text.contains 0
  if isBinary && request.binary = .skipped then return { isUsed }
  let isEnd (byte : UInt8) : Bool := byte == request.ending || (isBinary && byte == 0)
  let progress := (linesOf isEnd text).foldl (fun (progress : Progress) line =>
    progress.take request line (request.matching.isIn line.text != request.inverts)) { isUsed }
  let paint (colour : Colours → Bytes) (text : Bytes) : Bytes :=
    match request.colours with
    | some colours => colours.paint (colour colours) text
    | none => text
  let head := head request name
  match request.format with
  | .nothing => pure ()
  | .names withMatch =>
    if withMatch == (progress.selected != 0) then
      print (paint (·.file) shownName ++ [if request.endsNames then 0 else 10])
  | .counts =>
    let front := match name with
      | some name =>
        paint (·.file) name ++ (if request.endsNames then [0] else paint (·.separator) [58])
      | none => []
    print (front ++ Bytes.decimal progress.selected ++ [10])
  | .lines | .parts =>
    if isBinary then
      if progress.selected ≠ 0 then complain (shownName ++ utf8 ": binary file matches")
      return { progress with isUsed }
    let isStray (line : Line) : Bool :=
      request.wide && request.binary ≠ .treatedAsText && hasStrayBytes line.text
    let mut hasStray := false
    for piece in progress.pieces.reverse do
      match piece with
      | .separator =>
        match request.groupSeparator with
        | some text => print (paint (·.separator) text ++ [10])
        | none => pure ()
      | .line line isSelected =>
        let mark : UInt8 := if isSelected then 58 else 45
        if request.format = .parts then
          if isSelected && !request.inverts then
            for (offset, part) in request.matching.parts line.text do
              if isStray { line with text := part } then hasStray := true
              else print (head mark line.number (line.offset + offset) part.isEmpty ++
                paint (·.selectedMatch) part ++ [request.ending])
        else if isStray line then hasStray := true
        else
          let shown := match request.colours with
            | some colours => painted request colours line.text isSelected
            | none => line.text
          print (head mark line.number line.offset line.text.isEmpty ++ shown ++ [request.ending])
    if hasStray then complain (shownName ++ utf8 ": binary file matches")
  return progress

/-- Complains about a call of `grep`. -/
def usage (problem : Option Bytes) : Action Nat := do
  match problem with
  | some text => complain text
  | none => pure ()
  let name := ((← ownName).splitAt Path.slash).getLast?.getD []
  printError (utf8 "Usage: " ++ name ++ utf8 " [OPTION]... PATTERNS [FILE]...\nTry '" ++ name ++
    utf8 " --help' for more information.\n")
  return 2

/-- The flags; those without a letter of their own have Greek ones. -/
def flags : Flags :=
  ⟨"0123456789A:B:C:D:EFGHILPTUVX:abcd:e:f:hilm:noqRrsuvwxyzZ", [⟨"basic-regexp", 'G', .nothing⟩,
    ⟨"extended-regexp", 'E', .nothing⟩, ⟨"fixed-regexp", 'F', .nothing⟩,
    ⟨"fixed-strings", 'F', .nothing⟩, ⟨"perl-regexp", 'P', .nothing⟩,
    ⟨"after-context", 'A', .argument⟩, ⟨"before-context", 'B', .argument⟩,
    ⟨"binary-files", 'β', .argument⟩, ⟨"binary", 'U', .nothing⟩, ⟨"byte-offset", 'b', .nothing⟩,
    ⟨"context", 'C', .argument⟩, ⟨"color", 'χ', .perhaps⟩, ⟨"colour", 'χ', .perhaps⟩,
    ⟨"count", 'c', .nothing⟩, ⟨"devices", 'D', .argument⟩, ⟨"directories", 'd', .argument⟩,
    ⟨"exclude", 'ε', .argument⟩, ⟨"exclude-from", 'φ', .argument⟩, ⟨"exclude-dir", 'δ', .argument⟩,
    ⟨"file", 'f', .argument⟩, ⟨"files-with-matches", 'l', .nothing⟩,
    ⟨"files-without-match", 'L', .nothing⟩, ⟨"group-separator", 'γ', .argument⟩,
    ⟨"help", '?', .nothing⟩, ⟨"include", 'ι', .argument⟩, ⟨"ignore-case", 'i', .nothing⟩,
    ⟨"no-ignore-case", 'ν', .nothing⟩, ⟨"initial-tab", 'T', .nothing⟩, ⟨"label", 'λ', .argument⟩,
    ⟨"line-buffered", 'υ', .nothing⟩, ⟨"line-number", 'n', .nothing⟩, ⟨"line-regexp", 'x', .nothing⟩,
    ⟨"max-count", 'm', .argument⟩, ⟨"no-filename", 'h', .nothing⟩,
    ⟨"no-group-separator", 'σ', .nothing⟩, ⟨"no-messages", 's', .nothing⟩, ⟨"null", 'Z', .nothing⟩,
    ⟨"null-data", 'z', .nothing⟩, ⟨"only-matching", 'o', .nothing⟩, ⟨"quiet", 'q', .nothing⟩,
    ⟨"recursive", 'r', .nothing⟩, ⟨"dereference-recursive", 'R', .nothing⟩,
    ⟨"regexp", 'e', .argument⟩, ⟨"invert-match", 'v', .nothing⟩, ⟨"silent", 'q', .nothing⟩,
    ⟨"text", 'a', .nothing⟩, ⟨"version", '?', .nothing⟩, ⟨"with-filename", 'H', .nothing⟩,
    ⟨"word-regexp", 'w', .nothing⟩], .atEnd⟩

/-- Why a call is refused. -/
inductive Refusal
  | message (text : Bytes)
  /-- With a pointer to the usage. -/
  | usage (text : Bytes)
  | silent

/-- A number of lines around matches. -/
def contextLength (text : Bytes) : Except Refusal Nat :=
  match natural? text with
  | some n => .ok n
  | none => .error (.message (text ++ utf8 ": invalid context length argument"))

/-- How many lines around matches are printed, before and behind them. -/
def context (call : Call) : Except Refusal (Option Nat × Option Nat) := do
  let given (letter : Char) : Except Refusal (Option Nat) :=
    match call.argument? letter with
    | none => .ok none
    | some text => some <$> contextLength text
  let digits := (call.flags.reverse.filter fun flag => flag.1.isDigit).map fun flag => flag.1.toNat.toUInt8
  let both ← given 'C'
  let both := if digits.isEmpty then both else natural? digits
  return ((← given 'B').or both, (← given 'A').or both)

/-- Lines of a file of patterns. -/
def patternsOf (path : Bytes) : Action (Except Refusal (List Bytes)) := do
  match ← content path with
  | .text text => return .ok ((lines text).map chomp)
  | .closed errno | .unreadable errno => return .error (.message (path ++ utf8 ": " ++ errno.wording))

/-- The patterns as they are written, and the operands that name files. -/
def patterns (call : Call) : Action (Except Refusal (List Bytes × List Bytes)) := do
  let given := call.flags.reverse.filter fun flag => flag.1 == 'e' || flag.1 == 'f'
  match given, call.operands with
  | [], pattern :: operands => return .ok (pattern.splitAt 10, operands)
  | [], [] => return .error .silent
  | given, operands =>
    let mut all : List Bytes := []
    for (letter, text) in given do
      if letter == 'e' then all := all ++ text.splitAt 10
      else match ← patternsOf text with
        | .ok more => all := all ++ more
        | .error refusal => return .error refusal
    return .ok (all, operands)

/-- What a pattern means; `kind` says how it is written. -/
def parse (kind : Char) (wide folds : Bool) (pattern : Bytes) :
    Except Refusal ((Regular × Regular.Look) × List Bytes) :=
  if kind == 'F' then .ok ((Regular.literal wide pattern, { wide, folds }), [])
  else
    let isPerl := kind == 'P'
    let syntax_ : Expression.Syntax := {
      extended := kind != 'G', wide, allowsClosing := kind == 'E', refusesNames := !isPerl, isPerl }
    match Expression.parse syntax_ pattern with
    | .error problem => .error (.message (utf8 problem))
    | .ok parsed =>
      let look := { parsed.look wide folds with byPreference := isPerl }
      .ok ((parsed.expression, look), parsed.warnings)

/-- Patterns of names that are searched or not, in the order they were given. -/
structure Filter where
  /-- Each with whether it names what is searched. -/
  names : List (Bool × Bytes) := []
  /-- Directories that are passed over. -/
  directories : List Bytes := []

/-- Does a pattern match a path given on the command line, or its end behind a slash? -/
def matchesEnd (pattern path : Bytes) : Bool :=
  let ends := path :: ((List.range path.length).filterMap fun n =>
    if path[n]? = some Path.slash then some (path.drop (n + 1)) else none)
  ends.any (Pattern.isMatch pattern)

def Filter.takesFile (filter : Filter) (matching : Bytes → Bytes → Bool) (path : Bytes) : Bool :=
  match filter.names.reverse.find? fun (_, pattern) => matching pattern path with
  | some (isIncluded, _) => isIncluded
  | none => !filter.names.head?.any (·.1)

def Filter.takesDirectory (filter : Filter) (matching : Bytes → Bytes → Bool) (path : Bytes) : Bool :=
  !filter.directories.any (matching · path)

/-- What is done with directories. -/
inductive Directories
  | read | skip
  /-- They are searched; links in them are followed only if that is said. -/
  | recurse (followsLinks : Bool)

/-- The files to search: each with its path, whether it was given, and whether it was found in a
    directory. -/
def filesBelow (tree : Files.Tree) (filter : Filter) (followsLinks : Bool) :
    (bound : Nat) → Bytes → Place → List Bytes
  | 0, _, _ => []
  | bound + 1, path, place =>
    (tree.children place).eraseDups.flatMap fun name =>
      let inner := if path.isEmpty then name
        else if path.getLast? = some Path.slash then path ++ name else path ++ Path.slash :: name
      let here := place ++ [name]
      let target := if followsLinks then (tree.resolve [] true (Place.path here)).toOption else none
      let node := (target.bind (·.node?)).or (tree.node? here)
      match node with
      | some (.directory _) =>
        if filter.takesDirectory Pattern.isMatch name then
          filesBelow tree filter followsLinks bound inner ((target.map (·.place)).getD here)
        else []
      | some (.link _) => []
      | some (.device _) | some (.fifo ..) => []
      | _ => if filter.takesFile Pattern.isMatch name then [inner] else []

/-- What is done with directories. -/
def directoriesOf (quote : Bytes → Bytes) (call : Call) : Except Refusal Directories :=
  match call.flags.find? fun flag => "drR".toList.contains flag.1 with
  | some ('r', _) => .ok (.recurse false)
  | some ('R', _) => .ok (.recurse true)
  | some (_, action) =>
    if action = utf8 "recurse" then .ok (.recurse false)
    else if action = utf8 "skip" then .ok .skip
    else if action = utf8 "read" then .ok .read
    else
      let item (word : String) : Bytes := utf8 "\n  - " ++ quote (utf8 word)
      .error (.usage (utf8 "invalid argument " ++ quote action ++ utf8 " for " ++
        quote (utf8 "--directories") ++ utf8 "\nValid arguments are:" ++
        ["read", "recurse", "skip"].flatMap item))
  | none => .ok .read

/-- What is done with files that are no texts. -/
def binaryFiles (call : Call) : Except Refusal BinaryFiles :=
  match call.flags.find? fun flag => flag.1 == 'a' || flag.1 == 'I' || flag.1 == 'β' with
  | none => .ok .reported
  | some ('a', _) => .ok .treatedAsText
  | some ('I', _) => .ok .skipped
  | some (_, type) =>
    if type = utf8 "binary" then .ok .reported
    else if type = utf8 "text" then .ok .treatedAsText
    else if type = utf8 "without-match" then .ok .skipped
    else .error (.message (utf8 "unknown binary-files type"))

/-- The most lines to select, where a negative number is no limit. -/
def mostLines (call : Call) : Except Refusal (Option Nat) :=
  let invalid : Refusal := .message (utf8 "invalid max count")
  match call.argument? 'm' with
  | none => .ok none
  | some (45 :: digits) => if (natural? digits).isSome then .ok none else .error invalid
  | some digits => match natural? digits with
    | some n => .ok (some n)
    | none => .error invalid

/-- Do matches get colours? The terminal that some ask for is never there. -/
def usesColours (call : Call) : Option Bool :=
  match call.argument? 'χ' with
  | none => some false
  | some word =>
    if (["always", "yes", "force"].map utf8).contains word then some true
    else if (["", "never", "no", "none", "auto", "tty", "if-tty"].map utf8).contains word then some false
    else none

/-- The colours of a user's output, and whether they are given in a way that is not used any more. -/
def userColours (state : State) : Colours × Option Bytes :=
  let settings := (environmentValue? state "GREP_COLORS").getD []
  match environmentValue? state "GREP_COLOR" with
  | some (first :: rest) =>
    let colour := first :: rest
    (Colours.read { selectedMatch := colour, contextMatch := colour } settings, some colour)
  | _ => (Colours.read {} settings, none)

def formatOf (call : Call) : Format :=
  if call.has 'q' then .nothing
  else match call.last? "lL" with
    | some letter => .names (letter == 'l')
    | none => if call.has 'c' then .counts else if call.has 'o' then .parts else .lines

def separatorOf (call : Call) : Option Bytes :=
  match call.flags.find? fun flag => flag.1 == 'γ' || flag.1 == 'σ' with
  | some ('γ', text) => some text
  | some _ => none
  | none => some (utf8 "--")

/-- The search that a call asks for, all but its patterns. -/
def Request.read (call : Call) (wide : Bool) (colours : Option Colours) : Except Refusal Request := do
  let most ← mostLines call
  let binary ← binaryFiles call
  let (before, after) ← context call
  return {
    matching := { patterns := [], wholeLines := call.has 'x', wholeWords := call.has 'w' && !call.has 'x' }
    inverts := call.has 'v', wide, format := formatOf call, most, before, after
    groupSeparator := separatorOf call
    ending := if call.has 'z' then 0 else 10
    binary, showsNumber := call.has 'n', showsOffset := call.has 'b', aligns := call.has 'T'
    endsNames := call.has 'Z', colours }

def withoutSlashes (path : Bytes) : Bytes :=
  if path = [Path.slash] then path else (path.reverse.dropWhile (· == Path.slash)).reverse

/-- Which files a call is about. -/
def filterOf (call : Call) : Action (Except Refusal Filter) :=
  call.flags.reverse.foldlM (fun read flag => do
    match read, flag with
    | .error refusal, _ => return .error refusal
    | .ok (filter : Filter), ('ι', text) => return .ok { filter with names := filter.names ++ [(true, text)] }
    | .ok filter, ('ε', text) => return .ok { filter with names := filter.names ++ [(false, text)] }
    | .ok filter, ('δ', text) =>
      return .ok { filter with directories := withoutSlashes text :: filter.directories }
    | .ok filter, ('φ', path) =>
      return (← patternsOf path).map fun more =>
        { filter with names := filter.names ++ (more.filter (!·.isEmpty)).map (false, ·) }
    | read, _ => return read) (.ok {})

/-- The files that an operand stands for. `isImplied` says that it was not given. -/
def pathsOf (filter : Filter) (directories : Directories) (isImplied : Bool) (operand : Bytes) :
    Action (List Bytes) := do
  if operand = [45] then return [operand]
  let state ← get
  match state.tree.resolve state.directory true operand with
  | .ok ⟨place, some (.directory _)⟩ =>
    match directories with
    | .read => return [operand]
    | .skip => return []
    | .recurse followsLinks =>
      if !isImplied && !filter.takesDirectory matchesEnd (withoutSlashes operand) then return []
      let start := if isImplied then [] else operand
      return filesBelow state.tree filter followsLinks (state.tree.nodes.length + 1) start place
  | _ => return if filter.takesFile matchesEnd operand then [operand] else []

/-- What came of searching all files so far. -/
structure Outcome where
  found : Bool := false
  failed : Bool := false
  isUsed : Bool := false

/-- Searches an open file, unless it is where the output goes. The result is missing if it cannot be
    searched. -/
def searchOpen (request : Request) (name : Option Bytes) (path shownName : Bytes) (isUsed : Bool)
    (report : Bytes → Action Unit) (output : Option (Place × Nat × Bool)) (descriptor : Nat) :
    Action (Option Progress) := do
  let place ← filePlace? descriptor
  let isOutput : Bool := match place, output with
    | some (a, _), some (b, _) => decide (a = b)
    | _, _ => false
  let prints : Bool := match request.format with
    | .lines | .parts | .counts => true
    | _ => false
  if isOutput && prints && request.most != some 1 then
    report (utf8 "input file is also the output")
    return none
  match ← readAll descriptor with
  | .error errno =>
    report errno.wording
    return none
  | .ok text =>
    let progress ← searchText request name shownName isUsed text
    match place with
    | some (_, offset, _) =>
      if path = [45] && request.most.any (· ≤ progress.selected) && 0 < progress.selected then
        seek descriptor (offset + progress.stop)
    | none => pure ()
    return some progress

/-- Searches files one after another; a search that prints nothing ends at the first match. -/
def searchAll (request : Request) (isQuiet : Bool) (nameOf : Bytes → Bytes × Option Bytes) :
    List Bytes → Outcome → Action Outcome
  | [], outcome => return outcome
  | path :: rest, outcome => do
    let (shownName, name) := nameOf path
    let report (text : Bytes) : Action Unit := do
      if !isQuiet then complain (shownName ++ utf8 ": " ++ text)
    let output ← filePlace? 1
    match ← withInput path (searchOpen request name path shownName outcome.isUsed report output) with
    | .error errno =>
      report errno.wording
      searchAll request isQuiet nameOf rest { outcome with failed := true }
    | .ok none => searchAll request isQuiet nameOf rest { outcome with failed := true }
    | .ok (some progress) =>
      let found := progress.selected ≠ 0
      let outcome := { outcome with isUsed := progress.isUsed, found := outcome.found || found }
      if found && request.format = .nothing then return outcome
      searchAll request isQuiet nameOf rest outcome

/-- Runs a search on operands. -/
def search (call : Call) (request : Request) (filter : Filter) (directories : Directories)
    (operands : List Bytes) : Action Nat := do
  let isRecursive : Bool := match directories with
    | .recurse _ => true
    | _ => false
  let given := if operands.isEmpty then [if isRecursive then [46] else [45]] else operands
  let outcome ← given.foldlM (fun outcome operand => do
    if outcome.found && request.format = .nothing then return outcome
    let state ← get
    let isDirectory : Bool := match state.tree.find state.directory operand with
      | .ok node => node.isDirectory
      | .error _ => false
    let isNamed : Bool := match call.last? "Hh" with
      | some letter => letter == 'H'
      | none => decide (1 < given.length) || (isDirectory && isRecursive)
    let nameOf (path : Bytes) : Bytes × Option Bytes :=
      let shown := if path = [45] then (call.argument? 'λ').getD (utf8 "(standard input)") else path
      (shown, if isNamed then some shown else none)
    searchAll request (call.has 's') nameOf
      (← pathsOf filter directories operands.isEmpty operand) outcome) ({} : Outcome)
  if outcome.found && request.format = .nothing then return 0
  finish (if outcome.failed then 2 else if outcome.found then 0 else 1) 2

end Search

open Search in
/-- Prints the lines that match patterns. `kind` says how patterns are written, unless a flag does. -/
def grep (kind : Char) (arguments : List Bytes) : Action Nat := do
  let state ← get
  let wide := hasWideCharacters state
  let refuse (refusal : Refusal) : Action Nat := do
    match refusal with
    | .message text =>
      complain text
      return 2
    | .usage text => usage (some text)
    | .silent => usage none
  match Call.read flags (isStrict state) (arguments.length + 1) arguments {} with
  | .error problem => usage (some problem)
  | .ok call =>
    if (call.last? "?V").isSome then leave .abandoned
    let some usesColours := usesColours call | leave .abandoned
    let (colours, old) := userColours state
    match directoriesOf (Quotation.text wide) call,
        Request.read call wide (if usesColours then some colours else none) with
    | .error refusal, _ | _, .error refusal => refuse refusal
    | .ok directories, .ok request =>
    match old with
    | some colour =>
      if usesColours then complain (utf8 "warning: GREP_COLOR='" ++ colour ++
        utf8 "' is deprecated; use GREP_COLORS='mt=" ++ colour ++ utf8 "'")
    | none => pure ()
    if call.has 'u' then complain (utf8 "warning: --unix-byte-offsets (-u) is obsolete")
    match ← patterns call, ← filterOf call with
    | .error refusal, _ | _, .error refusal => refuse refusal
    | .ok (written, operands), .ok filter =>
    let isAny := request.inverts && written = [[]] && !call.has 'x' && !call.has 'w'
    let isNone := !request.inverts && written.isEmpty
    if (request.most = some 0 || isAny || isNone) && !call.has 'L' then return 1
    let kind := (call.last? "EFGP").getD kind
    if kind == 'P' && 1 < written.length then
      return ← refuse (.message (utf8 "the -P option only supports a single pattern"))
    let folds := call.last? "iyν" != none && call.last? "iyν" != some 'ν'
    match written.mapM (parse kind wide folds) with
    | .error refusal => refuse refusal
    | .ok parsed =>
    for warning in parsed.flatMap (·.2) do
      if !isStrict state then complain (utf8 "warning: " ++ warning)
    let request :=
      { request with matching := { request.matching with patterns := parsed.map (·.1) } }
    search call request filter directories operands

end CleanLaunch.Shell.Utility
