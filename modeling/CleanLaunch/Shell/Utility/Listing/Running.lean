import CleanLaunch.Shell.Utility.Listing.Arrangement

/-! The utilities that list files: `ls`, `dir` and `vdir`. -/

namespace CleanLaunch.Shell.Utility

open Shell.Action
open Files (Place Node Tree)

namespace Listing

/-- The look that flags make of another one, with the order if one was asked for. -/
structure Wish where
  look : Look := {}
  order? : Option Order := none
  /-- Was a time asked for that is not that of the last change? -/
  hasTime : Bool := false
  /-- Was a quoting asked for? -/
  hasQuoting : Bool := false

/-- A wish with a change of its look. -/
def Wish.with_ (wish : Wish) (change : Look → Look) : Except Nat Wish :=
  .ok { wish with look := change wish.look }

/-- The format of times that a style stands for. -/
def timeFormats? (style : Bytes) : Option (Bytes × Bytes) :=
  let same (format : String) : Option (Bytes × Bytes) := some (utf8 format, utf8 format)
  match style with
  | 43 :: text =>
    let first := text.takeWhile (· != 10)
    some (first, if first.length < text.length then text.drop (first.length + 1) else first)
  | _ =>
    if style = utf8 "full-iso" then same "%Y-%m-%d %H:%M:%S.%N %z"
    else if style = utf8 "long-iso" then same "%Y-%m-%d %H:%M"
    else if style = utf8 "iso" then some (utf8 "%Y-%m-%d ", utf8 "%m-%d %H:%M")
    else if style = utf8 "locale" || (utf8 "posix-").isPrefixOf style then
      some (utf8 "%b %e  %Y", utf8 "%b %e %H:%M")
    else none

def quotings : List (List String × Quoting) :=
  [(["literal"], .literal), (["shell"], .shell), (["shell-always"], .shellAlways),
   (["shell-escape"], .shellEscape), (["shell-escape-always"], .shellEscapeAlways), (["c"], .program),
   (["c-maybe"], .programMaybe), (["escape"], .escape), (["locale"], .locale), (["clocale"], .program)]

/-- What a word of a flag stands for. -/
def choose {α : Type} (flag : String) (choices : List (List String × α)) (argument : Bytes)
    (use : α → Except Nat Wish) : Action (Except Nat Wish) := do
  match ← choice? flag (choices.map (·.1)) (some argument) with
  | .error _ => return .error 2
  | .ok word =>
    match choices.find? fun (words, _) => word = words.head? with
    | some (_, value) => return use value
    | none => return .error 2

/-- A whole number of a flag. -/
def number (what : String) (argument : Bytes) (use : Nat → Except Nat Wish) : Action (Except Nat Wish) := do
  match natural? argument with
  | some n => return use n
  | none =>
    complain (utf8 what ++ utf8 ": " ++ (← quoted argument))
    return .error 2

/-- A wish with a format of lists. -/
def Wish.format (wish : Wish) (format : Format) : Except Nat Wish :=
  wish.with_ fun look => { look with format }

/-- A wish with an order of entries. -/
def Wish.sort (wish : Wish) (order : Order) : Except Nat Wish := .ok { wish with order? := some order }

/-- A wish with a flag that is one of the formats, orders, marks or quotings by its letter. -/
def withLetter (wish : Wish) (letter : Char) : Option (Except Nat Wish) :=
  let look := wish.with_
  match letter with
  | 'l' => some (wish.format .long)
  | 'g' => some (look fun look => { look with format := .long, showsOwner := false })
  | 'o' => some (look fun look => { look with format := .long, showsGroup := false })
  | 'n' => some (look fun look => { look with format := .long, numeric := true })
  | 'm' => some (wish.format .commas)
  | 'C' => some (wish.format .columns)
  | 'x' => some (wish.format .across)
  | '1' => some (if wish.look.format = .long then .ok wish else wish.format .single)
  | 'S' => some (wish.sort .size)
  | 't' => some (wish.sort .time)
  | 'U' => some (wish.sort .none)
  | 'v' => some (wish.sort .version)
  | 'X' => some (wish.sort .ending)
  | 'r' => some (look fun look => { look with reverses := true })
  | 'a' => some (look fun look => { look with extent := .all })
  | 'A' => some (look fun look => { look with extent := .almostAll })
  | 'f' => some (.ok { wish with order? := some .none, look := { wish.look with
      extent := .all, format := if wish.look.format = .long then .single else wish.look.format
      showsBlocks := false } })
  | 'B' => some (look fun look => { look with ignored := utf8 "*~" :: utf8 ".*~" :: look.ignored })
  | 'b' => some (.ok { wish with hasQuoting := true, look := { wish.look with quoting := .escape } })
  | 'N' => some (.ok { wish with hasQuoting := true, look := { wish.look with quoting := .literal } })
  | 'Q' => some (.ok { wish with hasQuoting := true, look := { wish.look with quoting := .program } })
  | 'q' => some (look fun look => { look with hidesControls := true })
  | 'ς' => some (look fun look => { look with hidesControls := false })
  | 'd' => some (look fun look => { look with immediate := true })
  | 'R' => some (look fun look => { look with recursive := true })
  | 'G' => some (look fun look => { look with showsGroup := false })
  | 'α' => some (look fun look => { look with showsAuthor := true })
  | 'h' => some (look fun look => { look with sizes := .human 1024, blocks := .human 1024 })
  | 'σ' => some (look fun look => { look with sizes := .human 1000, blocks := .human 1000 })
  | 'k' => some (look fun look => { look with blocks := .units 1024 })
  | 's' => some (look fun look => { look with showsBlocks := true })
  | 'p' => some (look fun look => { look with marks := .directories })
  | 'τ' => some (look fun look => { look with marks := .kinds })
  | 'c' => some (.ok { wish with hasTime := true, look := { wish.look with byAccess := false } })
  | 'u' => some (.ok { wish with hasTime := true, look := { wish.look with byAccess := true } })
  | 'L' => some (look fun look => { look with following := .all })
  | 'H' => some (look fun look => { look with following := .operands })
  | 'δ' => some (look fun look => { look with following := .operandsToDirectories })
  | 'γ' => some (look fun look => { look with directoriesFirst := true })
  | 'ζ' => some (.ok { wish with hasQuoting := true, look := { wish.look with
      ending := 0, quoting := .literal, hidesControls := false
      format := if wish.look.format = .long then .long else .single } })
  | 'ι' => some (look fun look => { look with
      format := .long, timeFormats := (timeFormats? (utf8 "full-iso")).getD look.timeFormats })
  | _ => none

/-- A wish with a flag. -/
def withFlag (wish : Wish) (letter : Char) (argument : Bytes) : Action (Except Nat Wish) := do
  match withLetter wish letter with
  | some result => return result
  | none =>
    match letter with
    | 'w' => number "invalid line width" argument fun width => wish.with_ fun look => { look with width }
    | 'T' => number "invalid tab size" argument fun tab => wish.with_ fun look => { look with tab }
    | 'I' => return wish.with_ fun look => { look with ignored := argument :: look.ignored }
    | 'η' => return wish.with_ fun look => { look with hidden := argument :: look.hidden }
    | 'F' =>
      if argument.isEmpty then return wish.with_ fun look => { look with marks := .all }
      choose "--classify" [(["always", "yes", "force"], Marks.all), (["never", "no", "none"], .none),
        (["auto", "tty", "if-tty"], .none)] argument fun marks => wish.with_ fun look => { look with marks }
    | 'μ' =>
      choose "--indicator-style" [(["none"], Marks.none), (["slash"], .directories), (["file-type"], .kinds),
        (["classify"], .all)] argument fun marks => wish.with_ fun look => { look with marks }
    | 'θ' =>
      choose "--quoting-style" quotings argument fun quoting =>
        .ok { wish with hasQuoting := true, look := { wish.look with quoting } }
    | 'φ' =>
      choose "--format" [(["verbose", "long"], Format.long), (["commas"], .commas),
        (["horizontal", "across"], .across), (["vertical"], .columns), (["single-column"], .single)] argument
        wish.format
    | 'ο' =>
      choose "--sort" [(["none"], Order.none), (["time"], .time), (["size"], .size), (["extension"], .ending),
        (["version"], .version), (["width"], .width)] argument wish.sort
    | 'χ' =>
      choose "--time" [(["atime", "access", "use"], true), (["ctime", "status"], false),
        (["mtime", "modification"], false), (["birth", "creation"], false)] argument fun byAccess =>
        .ok { wish with hasTime := true, look := { wish.look with byAccess } }
    | 'κ' =>
      if argument.isEmpty then leave .abandoned
      let colours ← choice? "--color" [["always", "yes", "force"], ["never", "no", "none"],
        ["auto", "tty", "if-tty"]] (some argument)
      match colours with
      | .error _ => return .error 2
      | .ok (some "always") => leave .abandoned
      | .ok _ => return .ok wish
    | 'ψ' =>
      match timeFormats? argument with
      | some timeFormats => return wish.with_ fun look => { look with timeFormats }
      | none =>
        complain (utf8 "invalid argument " ++ (← quoted argument) ++ utf8 " for " ++
          (← quoted (utf8 "time style")) ++
          utf8 "\nValid arguments are:\n  - [posix-]full-iso\n  - [posix-]long-iso\n  - [posix-]iso\n" ++
          utf8 "  - [posix-]locale\n  - +FORMAT (e.g., +%H:%M) for a 'date'-style format")
        suggestHelp
        return .error 2
    | 'β' =>
      let digits := argument.takeWhile Bytes.isDigit
      match Amount.read "kKmMGT" argument with
      | .value n =>
        if digits.isEmpty || n = 0 then leave .abandoned
        return wish.with_ fun look => { look with sizes := .units n, blocks := .units n }
      | _ => leave .abandoned
    | _ => leave .abandoned

def known : Flags :=
  ⟨"abcdfghiklmnopqrstuvw:xABCDFGHI:LNQRST:UXZ1", [⟨"all", 'a', .nothing⟩, ⟨"escape", 'b', .nothing⟩,
    ⟨"directory", 'd', .nothing⟩, ⟨"dired", 'D', .nothing⟩, ⟨"full-time", 'ι', .nothing⟩,
    ⟨"group-directories-first", 'γ', .nothing⟩, ⟨"human-readable", 'h', .nothing⟩, ⟨"inode", 'i', .nothing⟩,
    ⟨"kibibytes", 'k', .nothing⟩, ⟨"numeric-uid-gid", 'n', .nothing⟩, ⟨"no-group", 'G', .nothing⟩,
    ⟨"hide-control-chars", 'q', .nothing⟩, ⟨"reverse", 'r', .nothing⟩, ⟨"size", 's', .nothing⟩,
    ⟨"width", 'w', .argument⟩, ⟨"almost-all", 'A', .nothing⟩, ⟨"ignore-backups", 'B', .nothing⟩,
    ⟨"classify", 'F', .perhaps⟩, ⟨"file-type", 'τ', .nothing⟩, ⟨"si", 'σ', .nothing⟩,
    ⟨"dereference-command-line", 'H', .nothing⟩, ⟨"dereference-command-line-symlink-to-dir", 'δ', .nothing⟩,
    ⟨"hide", 'η', .argument⟩, ⟨"ignore", 'I', .argument⟩, ⟨"indicator-style", 'μ', .argument⟩,
    ⟨"dereference", 'L', .nothing⟩, ⟨"literal", 'N', .nothing⟩, ⟨"quote-name", 'Q', .nothing⟩,
    ⟨"quoting-style", 'θ', .argument⟩, ⟨"recursive", 'R', .nothing⟩, ⟨"format", 'φ', .argument⟩,
    ⟨"show-control-chars", 'ς', .nothing⟩, ⟨"sort", 'ο', .argument⟩, ⟨"tabsize", 'T', .argument⟩,
    ⟨"time", 'χ', .argument⟩, ⟨"time-style", 'ψ', .argument⟩, ⟨"zero", 'ζ', .nothing⟩,
    ⟨"color", 'κ', .perhaps⟩, ⟨"hyperlink", 'λ', .perhaps⟩, ⟨"block-size", 'β', .argument⟩,
    ⟨"context", 'Z', .nothing⟩, ⟨"author", 'α', .nothing⟩], .atEnd⟩

/-- The look that a call asks for. -/
def lookOf (start : Look) (call : Call) : Action (Except Nat Look) := do
  let state ← get
  let number? (name : String) : Option Nat := (environmentValue? state name).bind natural?
  let start := { start with
    wide := hasWideCharacters state
    width := ((number? "COLUMNS").filter (0 < ·)).getD start.width
    tab := (number? "TABSIZE").getD start.tab }
  let wish ← call.flags.reverse.foldlM (fun (wish : Except Nat Wish) (letter, argument) => do
    match wish with
    | .error status => return .error status
    | .ok wish => withFlag wish letter argument) (.ok { look := start : Wish })
  match wish with
  | .error status => return .error status
  | .ok { look, order?, hasTime, hasQuoting } =>
    let order := order?.getD (if hasTime && look.format != .long then .time else .name)
    let isChosen := (call.last? "LHδ").isSome
    let following := if isChosen then look.following
      else if look.immediate || look.marks = .all || look.format = .long then .never
      else .operandsToDirectories
    let styled := if hasQuoting then none else environmentValue? state "QUOTING_STYLE"
    let times? := if (call.last? "ψι").isSome then none
      else (environmentValue? state "TIME_STYLE").bind timeFormats?
    let quoting := (styled.bind fun style => (quotings.find? fun (words, _) =>
      words.any fun word => utf8 word = style).map (·.2)).getD look.quoting
    return .ok { look with order, following, quoting, timeFormats := times?.getD look.timeFormats }

/-- An entry with what its place tells. -/
def knownOf (look : Look) (tree : Tree) (entry : Entry) : Known :=
  let stamp := tree.stampOf entry.place
  let links := match entry.node with
    | some node => Inspecting.names tree ⟨entry.place, node⟩
    | none => 0
  let goal? := match entry.node with
    | some (.link target) => match tree.resolve entry.place.dropLast true target with
      | .ok found => found.node?
      | .error _ => none
    | node? => node?
  ⟨entry, if look.byAccess then stamp.accessed else stamp.modified, links, goal?.any (·.isDirectory)⟩

/-- Prints entries. -/
def put (look : Look) (entries : List Entry) : Action Unit := do
  let state ← get
  let zone ← environmentZone
  let all := ordered look (entries.map (knownOf look state.tree))
  match arranged? look state.tree zone state.world.now all with
  | some text => print text
  | none => leave .abandoned

/-- The file at a path, as an operand. -/
def operand (look : Look) (path : Bytes) : Action (Except Errno Entry) := do
  let entry (found : Found) : Entry := ⟨path, found.place, some found.node⟩
  let itself := (← foundAt false path).map entry
  match look.following with
  | .never => return itself
  | .all | .operands => return (← foundAt true path).map entry
  | .operandsToDirectories =>
    match ← foundAt true path with
    | .ok found => return if found.node.isDirectory then .ok (entry found) else itself
    | .error _ => return itself

/-- Must more be known of entries than their names and kinds? -/
def needsMore (look : Look) : Bool :=
  look.format = .long || look.showsBlocks || look.order = .size || look.order = .time || look.marks = .all ||
    look.following = .all

/-- The entries of a directory, and a status if something is not known. -/
def entriesOf (look : Look) (tree : Tree) (directory : Entry) (names : List Bytes) :
    Action (List Entry × Nat) := do
  let place (name : Bytes) : Place := directory.place ++ [name]
  let isHidden := needsMore look && !tree.isSearchable directory.place
  let dots : List Entry := if look.extent = .all then
      [⟨[46], directory.place, tree.node? directory.place⟩,
       ⟨[46, 46], directory.place.dropLast, tree.node? directory.place.dropLast⟩] else []
  let (entries, status) ← (names.filter (isListed look)).foldlM
    (fun ((entries : List Entry), (status : Nat)) name => do
      let report (errno : Errno) : Action (List Entry × Nat) := do
        complain (utf8 "cannot access " ++ (← quotedName (within directory.name name)) ++ utf8 ": " ++
          errno.wording)
        return (⟨name, place name, none⟩ :: entries, 1)
      if isHidden then return ← report .EACCES
      let node? := tree.node? (place name)
      match look.following, node? with
      | .all, some (.link target) =>
        match tree.resolve directory.place true target with
        | .ok ⟨goal, some node⟩ => return (⟨name, goal, some node⟩ :: entries, status)
        | .ok _ => report .ENOENT
        | .error errno => report errno
      | _, _ => return (⟨name, place name, node?⟩ :: entries, status)) ([], 0)
  return (dots ++ entries.reverse, status)

/-- The line that tells what entries take on the disk. -/
def totalLine (look : Look) (entries : List Known) : Action Unit := do
  if look.format = .long || look.showsBlocks then
    match totalSize? entries with
    | some n => print (utf8 "total " ++ sizeText look.blocks n ++ [look.ending])
    | none => leave .abandoned

/-- Lists one directory. The result is the directories in it, and a status. -/
def listDirectory (look : Look) (hasHeading isFirst isOperand : Bool) (directory : Entry) :
    Action (List Entry × Nat × Bool) := do
  match ← openPath .input directory.name with
  | .error errno =>
    complain (utf8 "cannot open directory " ++ (← quotedName directory.name) ++ utf8 ": " ++ errno.wording)
    return ([], if isOperand then 2 else 1, isFirst)
  | .ok descriptor =>
    let state ← get
    let names := if look.order = .none then state.tree.children directory.place |>.eraseDups
      else state.entries directory.place
    close descriptor
    if hasHeading then
      print ((if isFirst then [] else [10]) ++ quotedAs look true directory.name ++ utf8 ":\n")
    let (entries, status) ← entriesOf look state.tree directory names
    totalLine look (entries.map (knownOf look state.tree))
    put look entries
    let sorted := (ordered look (entries.map (knownOf look state.tree))).map (·.entry)
    let below := sorted.filter fun entry => isDirectory entry && entry.name ≠ [46] && entry.name ≠ [46, 46]
    let deeper := below.map fun entry => { entry with name := within directory.name entry.name }
    return (if look.recursive then deeper else [], status, false)

/-- Lists files. -/
def list (start : Look) (arguments : List Bytes) : Action Nat :=
  withCall known 2 arguments fun call => do
    if (call.last? "iDZλ").isSome then leave .abandoned
    match ← lookOf start call with
    | .error status => return status
    | .ok look =>
      let operands := if call.operands.isEmpty then [utf8 "."] else call.operands
      let (entries, status) ← operands.foldlM (fun ((entries : List Entry), (status : Nat)) path => do
        match ← operand look path with
        | .ok entry => return (entry :: entries, status)
        | .error errno =>
          complain (utf8 "cannot access " ++ (← quotedName path) ++ utf8 ": " ++ errno.wording)
          return (entries, 2)) ([], 0)
      let tree := (← get).tree
      let sorted := (ordered look (entries.reverse.map (knownOf look tree))).map (·.entry)
      let isOpened (entry : Entry) : Bool := !look.immediate && isDirectory entry
      let files := sorted.filter (!isOpened ·)
      let directories := sorted.filter isOpened
      put look files
      if !files.isEmpty && !directories.isEmpty then print [10]
      let hasHeading := look.recursive || 1 < operands.length
      let bound := tree.nodes.length + directories.length + 1
      let waiting := directories.map fun entry => (entry, true)
      let (_, status, _) ← (List.range bound).foldlM
        (fun ((waiting : List (Entry × Bool)), (status : Nat), (isFirst : Bool)) _ => do
          match waiting with
          | [] => return ([], status, isFirst)
          | (directory, isOperand) :: rest =>
            let (below, worse, isFirst) ← listDirectory look hasHeading isFirst isOperand directory
            return (below.map (·, false) ++ rest, max status worse, isFirst)) (waiting, status, true)
      finish status 2

end Listing

/-- Lists files, one on a line. -/
def ls (arguments : List Bytes) : Action Nat := Listing.list {} arguments

/-- Lists files in columns. -/
def dir (arguments : List Bytes) : Action Nat :=
  Listing.list { format := .columns, quoting := .escape } arguments

/-- Lists files with all that is known of them. -/
def vdir (arguments : List Bytes) : Action Nat :=
  Listing.list { format := .long, quoting := .escape } arguments

end CleanLaunch.Shell.Utility
