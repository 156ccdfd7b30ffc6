import CleanLaunch.Shell.Extended.Declarations

/-! The switches of a shell of the extended language.

    Some switches have letters, and `set` changes them; the additional ones only have names, and `shopt`
    changes them. Those that are on are remembered by name. -/

namespace CleanLaunch.Shell

namespace Switches

open Shell.Action

/-- The additional switches in the order of their listing, each with whether it is on at the start. -/
def additional : List (String × Bool) :=
  [("autocd", false), ("assoc_expand_once", false), ("cdable_vars", false), ("cdspell", false),
   ("checkhash", false), ("checkjobs", false), ("checkwinsize", true), ("cmdhist", true),
   ("compat31", false), ("compat32", false), ("compat40", false), ("compat41", false),
   ("compat42", false), ("compat43", false), ("compat44", false), ("complete_fullquote", true),
   ("direxpand", false), ("dirspell", false), ("dotglob", false), ("execfail", false),
   ("expand_aliases", false), ("extdebug", false), ("extglob", false), ("extquote", true),
   ("failglob", false), ("force_fignore", true), ("globasciiranges", true), ("globskipdots", true),
   ("globstar", false), ("gnu_errfmt", false), ("histappend", false), ("histreedit", false),
   ("histverify", false), ("hostcomplete", true), ("huponexit", false), ("inherit_errexit", false),
   ("interactive_comments", true), ("lastpipe", false), ("lithist", false),
   ("localvar_inherit", false), ("localvar_unset", false), ("login_shell", false),
   ("mailwarn", false), ("no_empty_cmd_completion", false), ("nocaseglob", false),
   ("nocasematch", false), ("noexpand_translation", false), ("nullglob", false),
   ("patsub_replacement", true), ("progcomp", true), ("progcomp_alias", false), ("promptvars", true),
   ("restricted_shell", false), ("shift_verbose", false), ("sourcepath", true),
   ("varredir_close", false), ("xpg_echo", false)]

/-- Additional switches that a strict shell has on. -/
def ofStrict : List Bytes := ["expand_aliases", "inherit_errexit", "shift_verbose"].map utf8

/-- The additional switches that are on when a shell starts. -/
def atStart (isStrict : Bool) : List Bytes :=
  (additional.filter (·.2)).map (fun (name, _) => utf8 name) ++ if isStrict then ofStrict else []

/-- Is an additional switch on? -/
def isOn (state : State) (name : String) : Bool := state.extras.switches.contains (utf8 name)

/-- Turns an additional switch on or off. -/
def put (on : Bool) (name : Bytes) : Action Unit :=
  modify fun state =>
    let isOn (other : Bytes) : Bool := if other = name then on else state.extras.switches.contains other
    { state with extras := { state.extras with
        switches := (additional.map fun entry => utf8 entry.1).filter isOn } }

/-- Does what belongs to a change of switches. The variable that asks for the standard goes with the
    switch for it. -/
def settle (before after : Options) : Action Unit := do
  modify fun state => { state with options := after }
  let name := utf8 "POSIXLY_CORRECT"
  match before.isOn .strict, after.isOn .strict with
  | false, true =>
    ofStrict.forM (put true)
    modify fun state => { state with
      bindings := Variables.put state.bindings name { value? := some (utf8 "y") } }
  | true, false =>
    ofStrict.forM (put false)
    modify fun state => { state with bindings := Variables.erase state.bindings name }
  | _, _ => pure ()

def refuseName (name : Bytes) : Action Unit := warn (name ++ utf8 ": invalid option name")

/-- The letters that `set` takes. -/
def letters : String := "abefhkmnptuvxBCEHPT"

/-- Is a word one that `set` reads switches from? -/
def isSwitches (word : Bytes) : Bool :=
  match word with
  | sign :: _ :: _ => sign == 45 || sign == 43
  | _ => false

/-- The first letter that `set` does not know, with the sign before it. `named` says that the first word
    may be the name of a switch. -/
def unknownLetter? : (named : Bool) → List Bytes → Option (UInt8 × UInt8)
  | _, [] => none
  | named, word :: rest =>
    if named && !isSwitches word then unknownLetter? false rest
    else if !isSwitches word || word = [45, 45] then none
    else
      let own := word.drop 1
      match own.find? fun letter => letter != 111 && !(utf8 letters).contains letter with
      | some letter => some (word.headD 0, letter)
      | none => unknownLetter? (own.contains 111) rest

/-- Lists the switches with letters. -/
def listing (asCommands : Bool) : Action Unit := do
  let options := (← get).options
  print (if asCommands then Options.commands .extended options.isOn
    else Options.table .extended options.isOn)

/-- Reads the letters of one word of `set`; a name that is unknown is given back. -/
def applyLetters (on : Bool) : Bytes → List Bytes → Action (List Bytes × Bool)
  | [], rest => return (rest, true)
  | letter :: more, rest => do
    let change (switch : Switch) : Action Unit := do
      let before := (← get).options
      settle before (before.put on switch)
    if letter == 111 then
      match rest with
      | name :: others =>
        if name.isEmpty || name.head? = some 45 || name.head? = some 43 then
          listing !on
          applyLetters on more rest
        else match Switch.ofName? .extended name with
          | some switch =>
            change switch
            applyLetters on more others
          | none =>
            refuseName name
            return (others, false)
      | [] =>
        listing !on
        applyLetters on more []
    else
      match Switch.ofLetter? .extended letter with
      | some switch => change switch
      | none => pure ()
      applyLetters on more rest

/-- Reads the words of `set`. The result is what becomes of the positional parameters, unless a name is
    unknown. -/
def apply : (bound : Nat) → List Bytes → Action (Option (Option (List Bytes)))
  | 0, _ => return none
  | bound + 1, words => do
    match words with
    | [] => return some none
    | [45, 45] :: rest => return some (some rest)
    | [45] :: rest =>
      let state ← get
      settle state.options ((state.options.put false .trace).put false .verbose)
      return some (if rest.isEmpty && !state.options.isOn .strict then none else some rest)
    | (sign :: letter :: more) :: rest =>
      if sign == 45 || sign == 43 then
        let (rest, isKnown) ← applyLetters (sign == 45) (letter :: more) rest
        if isKnown then apply bound rest else return none
      else return some (some words)
    | _ => return some (some words)

/-- Runs `set`. -/
def set (arguments : List Bytes) : Action Nat := do
  let state ← get
  if arguments.isEmpty then
    Declarations.listing {}
    if !state.options.isOn .strict then
      let shown (function : Function) : Bytes := Outline.shownFunction state.hereTexts function.name function.written
      print ((Declarations.allFunctions state).flatMap shown)
    return 0
  match unknownLetter? false arguments with
  | some (sign, letter) => Usage.refuseFlag sign letter
  | none =>
    match ← apply (arguments.length + 1) arguments with
    | none =>
      setStatus 2
      let _ ← flush
      leave .failed
    | some none => return 0
    | some (some positional) =>
      modify fun state => { state with positional, optionProgress := {} }
      return 0

/-- How `shopt` shows a switch. -/
def shown (asCommand : Bool) (name : Bytes) (on : Bool) : Bytes :=
  if asCommand then utf8 (if on then "shopt -s " else "shopt -u ") ++ name ++ [10]
  else name ++ List.replicate (15 - name.length) 32 ++ 9 :: utf8 (if on then "on\n" else "off\n")

/-- Shows some additional switches, or tells whether they are on. -/
def showEach (quiet asCommand : Bool) (names : List Bytes) : Action Nat := do
  let mut status := 0
  for name in names do
    if additional.any fun entry => utf8 entry.1 = name then
      let on := (← get).extras.switches.contains name
      if !on then status := 1
      if !quiet then print (shown asCommand name on)
    else
      warn (name ++ utf8 ": invalid shell option name")
      status := 1
  return status

/-- Turns some additional switches on or off. -/
def putEach (on : Bool) (names : List Bytes) : Action Nat := do
  let mut status := 0
  for name in names do
    if additional.any fun entry => utf8 entry.1 = name then put on name
    else
      warn (name ++ utf8 ": invalid shell option name")
      status := 1
  return status

/-- Runs `shopt` on the switches of `set`. -/
def named (quiet asCommand : Bool) (change? : Option Bool) (names : List Bytes) : Action Nat := do
  let line (name : Bytes) (on : Bool) : Bytes :=
    if asCommand then utf8 (if on then "set -o " else "set +o ") ++ name ++ [10]
    else shown false name on
  match change?, names with
  | none, [] =>
    if !quiet then listing asCommand
    return 0
  | some on, [] =>
    let options := (← get).options
    for (switch, name, _) in Switch.extended do
      if options.isOn switch = on && !quiet then print (line (utf8 name) on)
    return 0
  | none, names =>
    let mut status := 0
    for name in names do
      match Switch.ofName? .extended name with
      | none =>
        refuseName name
        status := 1
      | some switch =>
        let on := (← get).options.isOn switch
        if !on then status := 1
        if !quiet then print (line name on)
    return status
  | some on, names =>
    for name in names do
      match Switch.ofName? .extended name with
      | none => refuseName name
      | some switch =>
        let before := (← get).options
        settle before (before.put on switch)
    return 0

/-- Runs `shopt`. -/
def additionalSet (arguments : List Bytes) : Action Nat := do
  let read ← Usage.flags "psuoq" arguments
  let quiet := read.has 'q'
  if read.has 's' && read.has 'u' then
    return ← Usage.failing (utf8 "cannot set and unset shell options simultaneously")
  let change? := if read.has 's' then some true else if read.has 'u' then some false else none
  if read.has 'o' then return ← named quiet (read.has 'p') change? read.rest
  let names := additional.map fun (name, _) => utf8 name
  match change?, read.rest with
  | some on, [] =>
    let state ← get
    for name in names do
      if state.extras.switches.contains name = on && !quiet then
        print (shown (read.has 'p') name on)
    return 0
  | some on, names => putEach on names
  | none, [] =>
    let _ ← showEach quiet (read.has 'p') names
    return 0
  | none, names => showEach quiet (read.has 'p') names

end Switches

end CleanLaunch.Shell
