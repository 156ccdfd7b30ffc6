import CleanLaunch.Shell.Builtin.Settings
import CleanLaunch.Shell.Extended.Switches
import CleanLaunch.Shell.Task

/-! How a shell of the extended language starts: its variables, its switches, and where its commands come
    from. -/

namespace CleanLaunch.Shell

namespace Beginning

open Shell.Action

/-- The shell's variables that are there unless they are inherited. -/
def defaults : List (Bytes × Variable) :=
  [("BASH_LOADABLES_PATH",
      "/usr/local/lib/bash:/usr/lib/bash:/opt/local/lib/bash:/usr/pkg/lib/bash:/opt/pkg/lib/bash:."),
   ("HOSTNAME", "vm"), ("HOSTTYPE", "x86_64"), ("MACHTYPE", "x86_64-pc-linux-gnu"),
   ("OSTYPE", "linux-gnu"), ("PATH", "/usr/local/sbin:/usr/local/bin:/usr/sbin:/usr/bin:/sbin:/bin"),
   ("SHELL", "/bin/bash"), ("TERM", "dumb")].map fun (name, value) =>
    (utf8 name, { value? := some (utf8 value) })

/-- The parts of the version. -/
def version : List Bytes := ["5", "2", "21", "1", "release", "x86_64-pc-linux-gnu"].map utf8

/-- The version in one text. -/
def versionText : Bytes := utf8 "5.2.21(1)-release"

/-- Puts a variable, with the value it has if it is inherited and keeps that. -/
def put (name : String) (change : Variable → Variable) : Action Unit := do
  let entry ← Lists.variableOf (utf8 name)
  modify fun state => { state with
    bindings := Variables.put state.bindings (utf8 name) (change entry) }

/-- Gives a variable a value. -/
def give (name : String) (value : Bytes) : Action Unit :=
  put name fun entry => { entry with value? := some value }

/-- Takes over a function from an entry of the environment, if it holds one; says whether it does. -/
def inheritFunction (entry value : Bytes) : Action Bool := do
  let (front, back) := (utf8 "BASH_FUNC_", utf8 "%%")
  let isFunction := front.isPrefixOf entry && back.isSuffixOf entry && (utf8 "() \x7b").isPrefixOf value
  if !isFunction then return false
  let name := (entry.drop front.length).dropLast.dropLast
  let refuse : Action Bool := do
    printError (utf8 "sh: error importing function definition for \x60" ++ name ++ utf8 "'\n")
    return false
  if !Parser.isName name then return ← refuse
  let state ← get
  let source : Source := {
    rest := name ++ 32 :: value ++ [10], dialect := .extended, nextText := state.hereTexts.length }
  match CommandLine.next? source with
  | .ok (some { command := some (.define line name body written), after, .. }) =>
    let function : Function := { name, line, body, written, exported := true, origin := utf8 "environment" }
    modify fun state => { state with
      hereTexts := state.hereTexts ++ after.texts.reverse
      functions := function :: state.functions.filter (·.name ≠ name) }
    return true
  | _ => refuse

/-- Takes over the variables of the environment. -/
def inheritAll : Action Unit := do
  for entry in (← get).environment do
    match Variables.declaration entry with
    | (name, some value) =>
      if Parser.isName name then
        modify fun state => { state with
          bindings := Variables.put state.bindings name { value? := some value, exported := true } }
      else if !(← inheritFunction name value) then
        modify fun state => { state with
          extras := { state.extras with strangers := entry :: state.extras.strangers } }
    | (_, none) => pure ()

/-- The path of the shell: its name, if that is one, or the file that is found under it. -/
def ownPath (state : State) : Bytes :=
  let name := state.name
  let path := ((state.bindings.lookup (utf8 "PATH")).bind (·.value?)).getD []
  let isProgram (file : Bytes) : Bool :=
    match state.tree.find state.directory file with
    | .ok node => node.isExecutable
    | .error _ => false
  let usual := utf8 "/bin/bash"
  if Path.isAbsolute name then name
  else if name.contains Path.slash then usual
  else
    let candidates := (path.splitAt 58).filter (!·.isEmpty) |>.map fun directory =>
      directory ++ Path.slash :: name
    (candidates.find? isProgram).getD usual

/-- The highest level of nested shells. -/
def maxLevel : Int := 1000

/-- Counts the levels of nested shells. -/
def countLevel : Action Unit := do
  let old := ((← valueOf? (utf8 "SHLVL")).bind (Number.ofText? (some 10))).getD 0
  let level := old + 1
  let level ←
    if level < 0 then pure 0
    else if maxLevel ≤ level then
      printError ((← get).name ++ utf8 ": warning: shell level (" ++ Number.text level ++
        utf8 ") too high, resetting to 1\n")
      pure 1
    else pure level
  put "SHLVL" fun entry => { entry with value? := some (Number.text level), exported := true }

/-- The name of the working directory: the inherited one, if it is right, with nothing in it that goes up. -/
def directoryName (state : State) : Bytes :=
  let physical := state.directory.path
  match (state.bindings.lookup (utf8 "PWD")).bind (·.value?) with
  | some path =>
    match state.tree.resolve state.directory true path with
    | .ok ⟨place, some _⟩ =>
      if Path.isAbsolute path && place = state.directory then Settings.logical [] path else physical
    | _ => physical
  | none => physical

/-- Sets the variables of a shell. -/
def setVariables : Action Unit := do
  modify fun state => { state with bindings := [] }
  inheritAll
  let lastWord ← valueOf? [95]
  modify fun state => { state with
    bindings := Variables.erase state.bindings [95]
    extras := { state.extras with lastWord := lastWord.getD state.name } }
  for (name, entry) in defaults do
    if !(← get).bindings.any (·.1 = name) then
      modify fun state => { state with bindings := Variables.put state.bindings name entry }
  let state ← get
  give "BASH" (ownPath state)
  give "BASH_VERSION" versionText
  put "BASH_VERSINFO" fun _ => {
    value? := version.head?, readOnly := true
    elements := .numbered (version.zipIdx.map fun (part, n) => (n, part)) }
  let number (value : Nat) (entry : Variable) : Variable :=
    { entry with value? := some (Bytes.decimal value), treatment := .evaluated }
  for name in ["EUID", "UID"] do
    if !state.bindings.any (·.1 = utf8 name) then
      put name fun entry => { number 0 entry with readOnly := true }
  put "PPID" fun entry => { number state.parent entry with readOnly := true }
  give "IFS" [32, 9, 10]
  give "PS4" (utf8 "+ ")
  give "OPTERR" [49]
  put "OPTIND" fun entry => { number 1 entry with isFixed := true }
  put "PATH" fun entry => { entry with isFixed := true }
  let path := directoryName (← get)
  modify fun state => { state with directoryPath := path }
  put "PWD" fun entry => { entry with value? := some path, exported := true }
  let isDirectory (path : Bytes) : Bool :=
    match state.tree.find state.directory path with
    | .ok (.directory _) => true
    | _ => false
  put "OLDPWD" fun entry => { entry with value? := entry.value?.filter isDirectory, exported := true }
  countLevel
  if (← get).options.isOn .strict then give "POSIXLY_CORRECT" [121]

/-- What the arguments of a shell ask for. -/
structure Wish where
  options : Options
  /-- Additional switches that are to be turned on or off. -/
  additional : List (Bool × Bytes) := []
  hasCommand : Bool := false
  fromInput : Bool := false
  rest : List Bytes

/-- Long options without an argument, and those with one. -/
def longOptions : List Bytes :=
  ["debug", "debugger", "dump-po-strings", "dump-strings", "help", "login", "noediting", "noprofile",
   "norc", "posix", "pretty-print", "restricted", "verbose", "version"].map utf8

def longOptionsWithArgument : List Bytes := ["init-file", "rcfile"].map utf8

/-- How a shell is used. -/
def usage (name : Bytes) : Bytes :=
  let names := (longOptions ++ longOptionsWithArgument).mergeSort fun a b => !decide (b < a)
  utf8 "Usage:\t" ++ name ++ utf8 " [GNU long option] [option] ...\n\t" ++ name ++
    utf8 " [GNU long option] [option] script-file ...\nGNU long options:\n" ++
    names.flatMap (fun option => utf8 "\t--" ++ option ++ [10]) ++
    utf8 ("Shell options:\n\t-ilrsD or -c command or -O shopt_option\t\t(invocation only)\n" ++
      "\t-abefhkmnptuvxBCEHPT or -o option\n")

/-- Ends the shell with a message. -/
def refuse {α : Type} (status : Nat) (message : Bytes) : Action α := do
  printError ((← get).name ++ utf8 ": " ++ message ++ [10])
  setStatus status
  leave .ended

/-- Refuses an option. -/
def refuseOption {α : Type} (option : Bytes) : Action α := do
  let name := (← get).name
  refuse 2 (option ++ utf8 ": invalid option\n" ++ (usage name).dropLast)

/-- Obeys a long option. -/
def obey (option : Bytes) (wish : Wish) : Action Wish := do
  match String.fromUTF8? ⟨option.toArray⟩ with
  | some "posix" => return { wish with options := wish.options.put true .strict }
  | some "verbose" => return { wish with options := wish.options.put true .verbose }
  | some "noediting" | some "noprofile" | some "norc" => return wish
  | some "version" =>
    print (utf8 "GNU bash, version " ++ versionText ++ utf8 (" (x86_64-pc-linux-gnu)\n" ++
      "Copyright (C) 2022 Free Software Foundation, Inc.\n" ++
      "License GPLv3+: GNU GPL version 3 or later <http://gnu.org/licenses/gpl.html>\n\n" ++
      "This is free software; you are free to change and redistribute it.\n" ++
      "There is NO WARRANTY, to the extent permitted by law.\n"))
    let _ ← flush
    setStatus 0
    leave .ended
  | _ => leave .abandoned

/-- Reads the long options at the head of the arguments. -/
def longWords : (bound : Nat) → Wish → Action Wish
  | 0, wish => return wish
  | bound + 1, wish => do
    match wish.rest with
    | (45 :: first :: more) :: rest =>
      let isLong := first == 45 && !more.isEmpty
      let name := if isLong then more else first :: more
      if longOptions.contains name then longWords bound (← obey name { wish with rest })
      else if longOptionsWithArgument.contains name then
        match rest with
        | _ :: rest => longWords bound { wish with rest }
        | [] => refuse 2 (name ++ utf8 ": option requires an argument")
      else if isLong then refuseOption (45 :: first :: more)
      else return wish
    | _ => return wish

/-- Obeys the letters of an option. -/
def letters (on : Bool) : Bytes → Wish → Action Wish
  | [], wish => return wish
  | letter :: more, wish => do
    let sign : UInt8 := if on then 45 else 43
    match Char.ofNat letter.toNat, wish.rest with
    | 'c', _ => letters on more { wish with hasCommand := true }
    | 's', _ => letters on more { wish with fromInput := true }
    | 'o', [] =>
      print (if on then Options.table .extended wish.options.isOn
        else Options.commands .extended wish.options.isOn)
      letters on more wish
    | 'o', name :: rest =>
      match Switch.ofName? .extended name with
      | some switch => letters on more { wish with options := wish.options.put on switch, rest }
      | none =>
        let own := (← get).name
        refuse 2 (utf8 "line 0: " ++ own ++ utf8 ": " ++ name ++ utf8 ": invalid option name")
    | 'O', name :: rest =>
      letters on more { wish with additional := wish.additional ++ [(on, name)], rest }
    | 'D', _ | 'O', [] | 'i', _ | 'l', _ | 'r', _ | 't', _ => leave .abandoned
    | _, _ =>
      match Switch.ofLetter? .extended letter with
      | some switch => letters on more { wish with options := wish.options.put on switch }
      | none => refuseOption [sign, letter]

/-- Reads the options at the head of the arguments. -/
def words : (bound : Nat) → Wish → Action Wish
  | 0, wish => return wish
  | bound + 1, wish => do
    match wish.rest with
    | [45] :: rest | [45, 45] :: rest => return { wish with rest }
    | (sign :: letter :: more) :: rest =>
      if sign == 45 || sign == 43 then
        words bound (← letters (sign == 45) (letter :: more) { wish with rest })
      else return wish
    | _ => return wish

/-- The switches a shell starts with: it is strict if it is called by the name of the standard shell, or if the
    environment asks for that. -/
def startOptions (state : State) : Options :=
  let base := (state.name.splitAt Path.slash).getLast?.getD []
  let isAsked := state.environment.any fun entry => (utf8 "POSIXLY_CORRECT=").isPrefixOf entry
  let isStrict := base = utf8 "sh" || base = utf8 "-sh" || isAsked
  { on := [.braces, .remembering, .comments] ++ if isStrict then [.strict] else [] }

/-- Turns the additional switches on or off that were asked for. -/
def turnAll (additional : List (Bool × Bytes)) : Action Unit := do
  for (on, name) in additional do
    if Switches.additional.any fun entry => utf8 entry.1 = name then Switches.put on name
    else refuse 2 (utf8 "line 0: " ++ name ++ utf8 ": invalid shell option name")

/-- Does a text begin like a program, and not like a text? -/
def isBinary (content : Bytes) : Bool :=
  (utf8 "\x7fELF").isPrefixOf content || ((content.take 80).takeWhile (· != 10)).contains 0

/-- The file of commands under a name: one in the working directory, or else on the search path. -/
def openScript (name : Bytes) : Action Bytes := do
  let state ← get
  let isRegular (path : Bytes) : Bool :=
    match state.tree.find state.directory path with
    | .ok node => node.isRegular
    | .error _ => false
  let path := ((state.bindings.lookup (utf8 "PATH")).bind (·.value?)).getD []
  let isMissing := match state.tree.find state.directory name with
    | .error .ENOENT => true
    | _ => false
  let file := if !isMissing || name.contains Path.slash then name
    else ((Lookup.candidates path name).find? isRegular).getD name
  match ← openPath .input file with
  | .error errno =>
    refuse (if errno = .ENOENT then 127 else 126) (file ++ utf8 ": " ++ errno.wording)
  | .ok number =>
    let content ← readInput number none
    close number
    modify fun state => { state with name }
    match content with
    | .error errno => refuse 126 (file ++ utf8 ": " ++ errno.wording)
    | .ok content =>
      if isBinary content then refuse 126 (file ++ utf8 ": cannot execute binary file")
      else return content

/-- Runs the commands of the file that the environment names for shells that are not strict. -/
def runEnvironmentFile (run : Runner) : Action Unit := do
  let state ← get
  match (state.bindings.lookup (utf8 "BASH_ENV")).bind (·.value?) with
  | some path =>
    if path.contains 36 || path.contains 96 then leave .abandoned
    if !state.options.isOn .strict then
      match ← openPath .input path with
      | .ok number =>
        let content ← readInput number none
        close number
        match content with
        | .ok content => run (.file content)
        | .error _ => pure ()
      | .error _ => pure ()
  | none => pure ()

/-- Runs commands from standard input. All of it is read ahead. -/
def runInput (run : Runner) (positional : List Bytes) : Action Unit := do
  modify fun state => { state with positional, options := state.options.put true .fromInput }
  match ← readInput 0 none with
  | .ok content => run (.file content)
  | .error _ => pure ()

/-- Starts a shell with some arguments, and runs what they ask for. -/
def start (run : Runner) (arguments : List Bytes) : Action Unit := do
  let wish ← longWords (arguments.length + 1) { options := startOptions (← get), rest := arguments }
  let wish ← words (arguments.length + 1) wish
  let isStrict := wish.options.isOn .strict
  modify fun state => { state with
    options := wish.options
    extras := { state.extras with switches := Switches.atStart isStrict } }
  if wish.hasCommand && wish.rest.isEmpty then refuse 2 (utf8 "-c: option requires an argument")
  setVariables
  turnAll wish.additional
  let _ ← flush
  match wish.hasCommand, wish.fromInput, wish.rest with
  | true, _, command :: own =>
    modify fun state => { state with
      name := own.headD state.name
      positional := own.drop 1
      extras := { state.extras with commandLine := some command } }
    give "BASH_EXECUTION_STRING" command
    runEnvironmentFile run
    run (.text command .argument { last := true })
  | false, false, name :: own =>
    modify fun state => { state with positional := own }
    let content ← openScript name
    runEnvironmentFile run
    run (.file content)
  | _, _, positional => runInput run positional

end Beginning

end CleanLaunch.Shell
