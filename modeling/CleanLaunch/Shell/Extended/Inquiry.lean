import CleanLaunch.Shell.Extended.Finding
import CleanLaunch.Shell.Extended.Switches

/-! The builtins of the extended language that tell what names stand for, or decide it: `type`, `command`
    where it only describes, `hash`, `alias`, `enable` and `caller`. -/

namespace CleanLaunch.Shell

namespace Inquiry

open Shell.Action

/-- How a name is described. -/
inductive View
  /-- In words. -/
  | words
  /-- As a text that can be used as a command. -/
  | reusable
  /-- By the kind of what it stands for. -/
  | kind
  /-- By the path, if it stands for a file. -/
  | path
  deriving DecidableEq

/-- What is asked about a name. -/
structure Question where
  view : View
  /-- Is everything it may stand for asked for, or only what a command would be? -/
  all : Bool := false
  functions : Bool := true
  onlyFiles : Bool := false
  path? : Option Bytes := none

/-- Something a name stands for. -/
inductive Meaning
  | synonym (value : Bytes)
  | keyword
  | special
  | function
  | builtin
  | named
  | hashed (path : Bytes)
  | file (path : Bytes)

/-- Is a name a reserved word? -/
def isReserved (name : Bytes) : Bool :=
  (Keyword.all .extended).any fun keyword => utf8 keyword.text = name

/-- A path that was found on the search path, from the root on where it must be. -/
def located (state : State) (path : Bytes) : Bytes :=
  if Path.isAbsolute path then path
  else
    let rest := if (utf8 "./").isPrefixOf path then path.drop 2 else path
    state.directoryPath ++ Path.slash :: rest

/-- What a name stands for, in the order in which that is looked for. -/
def meanings (state : State) (question : Question) (name : Bytes) : List Meaning :=
  let isStrict := state.options.isOn .strict
  let synonym := if Switches.isOn state "expand_aliases" then
      (state.aliases.lookup name).toList.map Meaning.synonym else []
  let keyword : List Meaning := if isReserved name then [.keyword] else []
  let isBuiltin := Finding.isBuiltin state name
  let special : List Meaning := if isBuiltin && Finding.isSpecial state name then [.special] else []
  let function : List Meaning :=
    if question.functions && state.functions.any (·.name = name) then [.function] else []
  let builtin : List Meaning := if isBuiltin && special.isEmpty then [.builtin] else []
  let internal := if question.onlyFiles then []
    else synonym ++ keyword ++ special ++ function ++ builtin
  let files : List Meaning :=
    if name.contains Path.slash then
      if Finding.isProgram state name && !Finding.isDirectory state name then [.named] else []
    else
      let path := question.path?.getD
        (((state.bindings.lookup (utf8 "PATH")).bind (·.value?)).getD [])
      let isUsable (file : Bytes) : Bool := !isStrict || Finding.isProgram state file
      let found := (Finding.onPath state path name).filter isUsable
      let known? := if question.all && !question.onlyFiles then none
        else state.extras.found.find? (·.name = name)
      match known? with
      | some entry => [.hashed entry.path]
      | none => found.map fun file => .file (located state file)
  let all := internal ++ files
  if question.all then all else all.take 1

/-- A meaning of a name in a certain view. -/
def described (view : View) (name : Bytes) : Meaning → Bytes
  | .synonym value => match view with
    | .words => name ++ utf8 " is aliased to \x60" ++ value ++ utf8 "'\n"
    | .reusable => utf8 "alias " ++ name ++ 61 :: Quoting.single value ++ [10]
    | .kind => utf8 "alias\n"
    | .path => []
  | .keyword => inWords " is a shell keyword\n" "keyword\n"
  | .special => inWords " is a special shell builtin\n" "builtin\n"
  | .function => inWords " is a function\n" "function\n"
  | .builtin => inWords " is a shell builtin\n" "builtin\n"
  | .named => ofFile name (name ++ utf8 " is " ++ name ++ [10])
  | .hashed path => ofFile path (name ++ utf8 " is hashed (" ++ path ++ utf8 ")\n")
  | .file path => ofFile path (name ++ utf8 " is " ++ path ++ [10])
where
  inWords (words kind : String) : Bytes :=
    match view with
    | .words => name ++ utf8 words
    | .reusable => name ++ [10]
    | .kind => utf8 kind
    | .path => []
  ofFile (path words : Bytes) : Bytes :=
    match view with
    | .words => words
    | .kind => utf8 "file\n"
    | .reusable | .path => path ++ [10]

/-- Describes a name; says whether it stands for anything. -/
def describe (question : Question) (name : Bytes) : Action Bool := do
  let meanings := meanings (← get) question name
  for meaning in meanings do
    match meaning, question.view with
    | .function, .words =>
      print (described question.view name meaning)
      let state ← get
      match state.functions.find? (·.name = name) with
      | some function => print (Outline.shownFunction state.hereTexts name function.written)
      | none => pure ()
    | _, _ => print (described question.view name meaning)
  return !meanings.isEmpty

/-- Describes a name, or reports that it stands for nothing where that is said in words. -/
def describeOrReport (question : Question) (name : Bytes) : Action Bool := do
  let isKnown ← describe question name
  match isKnown, question.view with
  | false, .words => warn (name ++ utf8 ": not found")
  | _, _ => pure ()
  return isKnown

/-- Runs `type`. -/
def describeAll (arguments : List Bytes) : Action Nat := do
  let read ← Usage.flags "afptP" arguments
  let view : View := match read.flags.find? fun flag => (utf8 "ptP").contains flag.1 with
    | some (116, _) => .kind
    | some _ => .path
    | none => .words
  let question : Question := {
    view, all := read.has 'a', functions := !read.has 'f', onlyFiles := read.has 'P' }
  let mut status := 0
  for name in read.rest do
    if !(← describeOrReport question name) then status := 1
  return status

/-- Runs `command` where it only describes commands. -/
def describeCommands (usesDefault : Bool) (view : View) (names : List Bytes) : Action Nat := do
  let question : Question := { view, path? := if usesDefault then some Lookup.defaultPath else none }
  let mut status := 1
  for name in names do
    if ← describeOrReport question name then status := 0
  return status

/-- Lists that remembered commands are kept in. -/
def bucketCount : Nat := 256

/-- The remembered commands, list by list. -/
def remembered (state : State) : List Remembered :=
  state.extras.found.mergeSort fun a b =>
    Lists.bucket a.name % bucketCount ≤ Lists.bucket b.name % bucketCount

/-- A remembered command as a command that makes it remembered. -/
def rememberedText (entry : Remembered) : Bytes :=
  utf8 "builtin hash -p " ++ entry.path ++ 32 :: entry.name ++ [10]

def forget (name : Bytes) : Action Unit :=
  modify fun state => { state with
    extras := { state.extras with found := state.extras.found.filter (·.name ≠ name) } }

/-- Shows all remembered commands. -/
def showRemembered (asCommands : Bool) : Action Unit := do
  let state ← get
  let entries := remembered state
  if entries.isEmpty then
    if !state.options.isOn .strict then print (state.builtin.getD [] ++ utf8 ": hash table empty\n")
  else if asCommands then print (entries.flatMap rememberedText)
  else
    print (utf8 "hits\tcommand\n")
    for entry in entries do
      let digits := Bytes.decimal entry.hits
      print (List.replicate (4 - digits.length) 32 ++ digits ++ 9 :: entry.path ++ [10])

/-- Shows the paths of some remembered commands. -/
def showPaths (asCommands : Bool) (names : List Bytes) : Action Nat := do
  let mut status := 0
  for name in names do
    match (← get).extras.found.find? (·.name = name) with
    | some entry =>
      if asCommands then print (rememberedText entry)
      else print ((if names.length = 1 then [] else name ++ [9]) ++ entry.path ++ [10])
    | none =>
      warn (name ++ utf8 ": not found")
      status := 1
  return status

/-- Remembers or forgets one command, as the flags of `hash` ask for. -/
def changeRemembered (read : Arguments.Flags) (name : Bytes) : Action Nat := do
  let state ← get
  if name.contains Path.slash then return 0
  match Usage.argument? read 'p' with
  | some path =>
    if Finding.isDirectory state path then
      return ← Usage.failing (path ++ utf8 ": " ++ Errno.EISDIR.wording)
    forget name
    Finding.remember name path 0
    return 0
  | none =>
    if read.has 'd' then
      if state.extras.found.any (·.name = name) then
        forget name
        return 0
      else return ← Usage.failing (name ++ utf8 ": not found")
    if state.functions.any (·.name = name) || Finding.isBuiltin state name then return 0
    forget name
    match (Finding.onPath state (← Finding.searchPath) name).find? (Finding.isProgram state) with
    | some path =>
      Finding.remember name path 0
      return 0
    | none => Usage.failing (name ++ utf8 ": not found")

/-- Runs `hash`. -/
def hash (arguments : List Bytes) : Action Nat := do
  if !(← get).options.isOn .remembering then return ← Usage.failing (utf8 "hashing disabled")
  let read ← Usage.flags "dlp:rt" arguments
  if read.rest.isEmpty && (read.has 'd' || read.has 't') then
    return ← Usage.failing (utf8 (if read.has 'd' then "-d" else "-t") ++
      utf8 ": option requires an argument")
  if read.rest.isEmpty && !read.has 'r' then
    showRemembered (read.has 'l')
    return 0
  if read.has 'r' then
    modify fun state => { state with extras := { state.extras with found := [] } }
  if read.has 't' then return ← showPaths (read.has 'l') read.rest
  let mut status := 0
  for name in read.rest do status := max status (← changeRemembered read name)
  return status

/-- A synonym as it is shown; `reusable` says that it is as a command. -/
def synonymText (reusable : Bool) (entry : Bytes × Bytes) : Bytes :=
  let front := if !reusable then []
    else if entry.1.head? = some 45 then utf8 "alias -- " else utf8 "alias "
  front ++ entry.1 ++ 61 :: Quoting.single entry.2 ++ [10]

/-- May a synonym have a name? -/
def isSynonymName (name : Bytes) : Bool := !name.any (utf8 " \t\n|&;()<>\\'\"\x60$/").contains

/-- Runs `alias`. -/
def synonyms (arguments : List Bytes) : Action Nat := do
  let read ← Usage.flags "p" arguments
  let reusable := read.has 'p' || !(← get).options.isOn .strict
  if read.rest.isEmpty || read.has 'p' then
    let all := (← get).aliases.mergeSort fun a b => !decide (b.1 < a.1)
    print (all.flatMap (synonymText reusable))
  let mut status := 0
  for word in read.rest do
    let name := word.takeWhile (· != 61)
    if !name.isEmpty && name.length < word.length then
      if isSynonymName name then
        let value := word.drop (name.length + 1)
        modify fun state => { state with
          aliases := (name, value) :: state.aliases.filter (·.1 ≠ name) }
      else
        warn (utf8 "\x60" ++ name ++ utf8 "': invalid alias name")
        status := 1
    else match (← get).aliases.lookup word with
      | some value => print (synonymText reusable (word, value))
      | none =>
        warn (word ++ utf8 ": not found")
        status := 1
  return status

/-- Runs `unalias`. -/
def dropSynonyms (arguments : List Bytes) : Action Nat := do
  let read ← Usage.flags "a" arguments
  if read.has 'a' then
    modify fun state => { state with aliases := [] }
    return 0
  if read.rest.isEmpty then Usage.refuse
  let mut status := 0
  for name in read.rest do
    if (← get).aliases.any (·.1 = name) then
      modify fun state => { state with aliases := state.aliases.filter (·.1 ≠ name) }
    else
      warn (name ++ utf8 ": not found")
      status := 1
  return status

/-- Runs `enable`. -/
def enable (arguments : List Bytes) : Action Nat := do
  let read ← Usage.flags "adnpsf:" arguments
  if read.has 'f' || read.has 'd' then leave .abandoned
  let all := (Finding.specialBuiltins ++ Finding.regularBuiltins).mergeSort fun a b => !decide (b < a)
  if read.rest.isEmpty || read.has 'p' then
    let disabled := (← get).extras.disabled
    for name in all do
      let isListed := !read.has 's' || Finding.specialBuiltins.contains name
      let isOff := disabled.contains name
      if isListed && (read.has 'a' || isOff = read.has 'n') then
        print (utf8 (if isOff then "enable -n " else "enable ") ++ name ++ [10])
    return 0
  let mut status := 0
  for name in read.rest do
    if all.contains name then
      modify fun state =>
        let others := state.extras.disabled.filter (· ≠ name)
        { state with extras := { state.extras with
            disabled := if read.has 'n' then name :: others else others } }
    else
      warn (name ++ utf8 ": not a shell builtin")
      status := 1
  return status

/-- Runs `caller`: tells where the running function was called. -/
def caller (arguments : List Bytes) : Action Nat := do
  let state ← get
  if state.extras.frames.isEmpty then return 1
  let words := (← Usage.flags "" arguments).rest
  let element (name : String) (n : Nat) : Option Bytes :=
    (Lists.innate? state (utf8 name)).bind fun entry => Lists.element? entry (Bytes.decimal n)
  match words with
  | [] =>
    print ((element "BASH_LINENO" 0).getD (utf8 "NULL") ++ 32 ::
      (element "BASH_SOURCE" 1).getD (utf8 "NULL") ++ [10])
    return 0
  | word :: _ =>
    match Usage.number? word with
    | none =>
      warn (word ++ utf8 ": invalid number")
      Usage.refuse
    | some n =>
      let n := n.toNat
      match element "BASH_LINENO" n, element "FUNCNAME" (n + 1), element "BASH_SOURCE" (n + 1) with
      | some line, some name, some source =>
        print (line ++ 32 :: name ++ 32 :: source ++ [10])
        return 0
      | _, _, _ => return 1

end Inquiry

end CleanLaunch.Shell
