import CleanLaunch.Shell.Builtin.Commands
import CleanLaunch.Shell.Extended.Beginning

/-! How a shell starts: its variables, its switches, and where its commands come from. -/

namespace CleanLaunch.Shell

open Shell.Action

namespace Startup

/-- The variables every shell has. They stay known when they are unset. -/
def ownVariables : List (Bytes × Variable) :=
  [("OPTIND", some "1"), ("PS4", some "+ "), ("PS2", some "> "), ("PS1", some "# "),
   ("PATH", some "/usr/local/sbin:/usr/local/bin:/usr/sbin:/usr/bin:/sbin:/bin"),
   ("MAILPATH", none), ("MAIL", none), ("IFS", some " \t\n")].map fun (name, value?) =>
    (utf8 name, { value? := value?.map utf8, isFixed := true })

/-- The name a shell has for its working directory: the one it inherits, if that is right. -/
def directoryName (state : State) : Bytes :=
  let physical := state.directory.path
  match (state.bindings.lookup (utf8 "PWD")).bind (·.value?) with
  | some path =>
    match state.tree.resolve state.directory true path with
    | .ok ⟨place, some _⟩ =>
      if Path.isAbsolute path && place = state.directory then path else physical
    | _ => physical
  | none => physical

/-- Takes over the variables of the environment and sets the shell's own. -/
def setUp : Action Unit := do
  modify fun state => { state with bindings := ownVariables }
  for entry in (← get).environment do
    match Variables.declaration entry with
    | (name, some value) =>
      if Parser.isName name then Variables.change name (some value) { exported := true }
    | (_, none) => pure ()
  Variables.change (utf8 "IFS") (some [32, 9, 10]) {}
  Variables.change (utf8 "OPTIND") (some (utf8 "1")) {}
  Variables.change (utf8 "PPID") (some (Bytes.decimal (← get).parent)) {}
  let path := directoryName (← get)
  modify fun state => { state with directoryPath := path }
  Variables.change (utf8 "PWD") (some path) { exported := true }

/-- Runs commands from standard input. All of it is read ahead. -/
def runInput (run : Runner) : Action Unit := do
  match ← readInput 0 none with
  | .ok content => run (.file content)
  | .error _ => pure ()

/-- Runs what the arguments of a shell ask for. -/
def runArguments (run : Runner) (words : List Bytes) : Action Unit := do
  match Options.read true (words.length + 1) { options := {}, rest := words } with
  | .error refusal =>
    print refusal.before.listings
    fail refusal.problem.text
  | .ok reading =>
    print reading.listings
    let fromInput := reading.rest.isEmpty || reading.options.isOn .fromInput
    let options := if reading.rest.isEmpty then reading.options.put true .fromInput
      else reading.options
    let hasTerminal := options.isOn .monitor || options.isOn .interactive
    modify fun state => { state with options := options.put false .monitor }
    let lackTerminal : Action Unit := do
      if hasTerminal then complain .noTerminal
    let name (words : List Bytes) : Action Unit :=
      modify fun state => { state with
        name := words.headD state.name, positional := words.drop 1 }
    match reading.rest with
    | [] =>
      if reading.hasCommand then fail (utf8 "-c requires an argument")
      lackTerminal
      runInput run
    | first :: rest =>
      if reading.hasCommand then
        name rest
        lackTerminal
        run (.text first .argument {})
        if fromInput then runInput run
      else if fromInput then
        modify fun state => { state with positional := reading.rest }
        lackTerminal
        runInput run
      else
        let (_, content) ← Commands.openCommands first
        name reading.rest
        lackTerminal
        run (.file content)

/-- Runs a shell in place of this process. -/
def shell (run : Runner) (dialect : Dialect) (arguments : List Bytes) : Action Unit := do
  modify fun state => { state with
    shellPid := state.pid
    dialect
    extras := {}
    name := arguments.headD (utf8 "sh")
    output := [], positional := [], optionProgress := {}, functions := [], aliases := []
    hashed := [], hereTexts := [], locals := [], options := {}, status := 0, heldStatus := none
    substitutionStatus := 0, skip := .nothing, loopDepth := 0, jobs := [], lastBackground := none
    line := 0, builtin := none, traps := [], redirections := [], traceDescriptor := 2
    isTracing := false, atTextEnd := false }
  Task.conclude run do
    match dialect with
    | .standard =>
      setUp
      runArguments run (arguments.drop 1)
    | .extended => Beginning.start run (arguments.drop 1)

end Startup

end CleanLaunch.Shell
