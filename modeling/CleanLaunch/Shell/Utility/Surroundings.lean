import CleanLaunch.Shell.Utility.Starting

/-! The utility `env`, which runs a program in other surroundings: another environment, another directory,
    other arrangements for signals.

    A word of a call can hold several words, which it is split into as a shell would do it, but with rules of
    its own. -/

namespace CleanLaunch.Shell.Utility

open Shell.Action

namespace Surroundings

/-- Splitting in progress: the words so far, the last one first, and whether the next byte begins another
    one. -/
structure Splitting where
  words : List Bytes := []
  isApart : Bool := true
  /-- Variables that stood in the text, the last one first, each with its value. -/
  seen : List (Bytes × Option Bytes) := []

/-- Adds bytes to the last word, or begins one with them. -/
def Splitting.add (splitting : Splitting) (bytes : Bytes) : Splitting :=
  if splitting.isApart then { splitting with words := bytes :: splitting.words, isApart := false }
  else match splitting.words with
    | word :: words => { splitting with words := (word ++ bytes) :: words }
    | [] => { splitting with words := [bytes] }

/-- Splits a text into words. `quote` is the quotation mark that is open. -/
def split (value? : Bytes → Option Bytes) :
    (bound : Nat) → (quote : Option UInt8) → Bytes → Splitting → Except Bytes Splitting
  | 0, _, _, splitting => .ok splitting
  | _, none, [], splitting => .ok splitting
  | _, some _, [], _ => .error (utf8 "no terminating quote in -S string")
  | bound + 1, quote, byte :: rest, splitting =>
    let goOn (text rest : Bytes) : Except Bytes Splitting :=
      split value? bound quote rest (splitting.add text)
    let isBlank := byte == 32 || (9 ≤ byte && byte ≤ 13)
    if (byte == 39 && quote ≠ some 34) || (byte == 34 && quote ≠ some 39) then
      split value? bound (if quote.isSome then none else some byte) rest (splitting.add [])
    else if isBlank && quote.isNone then
      split value? bound quote rest { splitting with isApart := true }
    else if byte == 35 && splitting.isApart then .ok splitting
    else if byte == 92 then
      match rest with
      | [] => .error (utf8 "invalid backslash at end of string in -S")
      | letter :: after =>
        if quote = some 39 && letter != 92 && letter != 39 then goOn [92] rest
        else if (utf8 "\"#$'\\").contains letter then goOn [letter] after
        else match Char.ofNat letter.toNat with
          | '_' =>
            if quote = some 34 then goOn [32] after
            else split value? bound quote after { splitting with isApart := true }
          | 'c' =>
            if quote = some 34 then
              .error (utf8 "'\\c' must not appear in double-quoted -S string")
            else .ok splitting
          | 'f' => goOn [12] after
          | 'n' => goOn [10] after
          | 'r' => goOn [13] after
          | 't' => goOn [9] after
          | 'v' => goOn [11] after
          | _ => .error (utf8 "invalid sequence '\\" ++ [letter] ++ utf8 "' in -S")
    else if byte == 36 && quote ≠ some 39 then
      let isStart (byte : UInt8) : Bool :=
        byte == 95 || (65 ≤ byte && byte ≤ 90) || (97 ≤ byte && byte ≤ 122)
      let name := (rest.drop 1).takeWhile fun byte => isStart byte || Bytes.isDigit byte
      if rest.head? == some 123 && name.head?.any isStart && (rest.drop (name.length + 1)).head? == some 125
      then
        let after := rest.drop (name.length + 2)
        let splitting := { splitting with seen := (name, value? name) :: splitting.seen }
        match value? name with
        | some value => split value? bound quote after (splitting.add value)
        | none => split value? bound quote after splitting
      else .error (utf8 "only $\x7bVARNAME\x7d expansion is supported, error at: " ++ byte :: rest)
    else goOn [byte] rest

/-- What is done to a signal. -/
inductive Change
  | byDefault | ignored | blocked
  deriving DecidableEq

/-- What is read of a call: flags and the words behind them. -/
structure Request where
  call : Call := {}
  words : List Bytes := []

/-- The flags of a call. -/
def known : Flags :=
  ⟨"C:iS:u:v0", [⟨"ignore-environment", 'i', .nothing⟩, ⟨"null", '0', .nothing⟩, ⟨"unset", 'u', .argument⟩,
    ⟨"chdir", 'C', .argument⟩, ⟨"default-signal", 'δ', .perhaps⟩, ⟨"ignore-signal", 'ι', .perhaps⟩,
    ⟨"block-signal", 'β', .perhaps⟩, ⟨"list-signal-handling", 'λ', .nothing⟩, ⟨"debug", 'v', .nothing⟩,
    ⟨"split-string", 'S', .argument⟩, ⟨"help", '?', .nothing⟩, ⟨"version", '?', .nothing⟩], .atOperand⟩

/-- Tells what is done, if that is wanted. -/
def tell (call : Call) (text : Bytes) : Action Unit := do
  if call.has 'v' then printError (text ++ [10])

/-- Says how a word was split. -/
def tellSplit (call : Call) (text : Bytes) (splitting : Splitting) : Action Unit := do
  for (name, value) in splitting.seen.reverse do
    match value with
    | some value => tell call (utf8 "expanding $\x7b" ++ name ++ utf8 "\x7d into " ++ (← quoted value))
    | none => tell call (utf8 "replacing $\x7b" ++ name ++ utf8 "\x7d with null string")
  if !splitting.words.isEmpty then
    tell call (utf8 "split -S:  " ++ (← quoted text))
    for (word, n) in splitting.words.reverse.zipIdx do
      tell call (utf8 (if n = 0 then " into:    " else "     &    ") ++ (← quoted word))

/-- Does a word try to be flags with a blank among them? -/
def hasBlankFlag (word : Bytes) : Bool :=
  let letters := word.takeWhile fun byte => !(byte == 32 || (9 ≤ byte && byte ≤ 13))
  letters.length < word.length && letters.all (utf8 "iv0").contains

/-- Complains about a word that should have been split. -/
def suggestSplitting : Action Unit := complain (utf8 "use -[v]S to pass options in shebang lines")

/-- Reads flags and the words behind them; none if the call cannot be used. -/
def read : (bound : Nat) → List Bytes → Call → Action (Option Request)
  | 0, words, call => return some ⟨call, words⟩
  | _, [], call => return some ⟨call, []⟩
  | bound + 1, word :: words, call => do
    let refuseIt (problem : Bytes) : Action (Option Request) := do
      let _ ← refuse 125 problem
      return none
    let goOn (result : Except Bytes (List Bytes × Call)) : Action (Option Request) := do
      match result with
      | .error problem => refuseIt problem
      | .ok (words, after) =>
        let isSplit := call.flags.length < after.flags.length && after.flags.head?.any (·.1 == 'S')
        if !isSplit then read bound words after
        else
          let text := (after.argument? 'S').getD []
          let state ← get
          let find (name : Bytes) : Option Bytes :=
            ((state.environment.find? (name ++ [61]).isPrefixOf).map (·.drop (name.length + 1)))
          match split find (text.length + 1) none text {} with
          | .error problem =>
            complain problem
            return none
          | .ok splitting =>
            tellSplit after text splitting
            read bound (splitting.words.reverse ++ words) after
    match word with
    | [45, 45] => return some ⟨call, words⟩
    | 45 :: 45 :: name => goOn (Call.readLong known.long name words call)
    | 45 :: letter :: more =>
      if hasBlankFlag (letter :: more) then
        let blank := ((letter :: more).find? fun byte => !(utf8 "iv0").contains byte).getD 32
        complain (utf8 "invalid option -- '" ++ [blank] ++ utf8 "'")
        suggestSplitting
        suggestHelp
        return none
      else goOn (Call.readLetters (utf8 known.letters) (letter :: more) words call)
    | _ => return some ⟨call, word :: words⟩

/-- The signals that a call makes arrangements for, in the order of their numbers, or the problem with one
    of them. -/
def signalChanges (call : Call) : Except Bytes (List (Nat × Change × Bool)) :=
  let kind? (letter : Char) : Option Change := match letter with
    | 'δ' => some .byDefault
    | 'ι' => some .ignored
    | 'β' => some .blocked
    | _ => none
  call.flags.reverse.foldlM (fun changes (letter, argument) =>
    match kind? letter with
    | none => .ok changes
    | some kind =>
      if argument.isEmpty then
        .ok (changes ++ (List.range' 1 Signal.maxNumber).map fun n => (n, kind, false))
      else
        let names := (argument.splitAt 44).filter (!·.isEmpty)
        names.foldlM (fun changes name =>
          match operandSignal? name with
          | some n =>
            if n = 0 then .error name
            else .ok (changes ++ [(n, kind, true)])
          | none => .error name) changes) ([] : List (Nat × Change × Bool))

/-- Makes arrangements for signals; a status if that fails. -/
def arrange (call : Call) (changes : List (Nat × Change × Bool)) : Action (Option Nat) := do
  let isFixed (n : Nat) : Bool := n = 9 || n = 19 || n = 32 || n = 33
  let text (n : Nat) : Bytes := Signal.nameOf n ++ utf8 " (" ++ Bytes.decimal n ++ utf8 ")"
  for n in List.range' 1 Signal.maxNumber do
    match (changes.filter fun change => change.1 = n && change.2.1 != .blocked).getLast? with
    | none => pure ()
    | some (_, kind, isNamed) =>
      if isFixed n then
        if isNamed then
          complain (utf8 "failed to set signal action for signal " ++ Bytes.decimal n ++
            utf8 ": Invalid argument")
          return some 125
      else
        tell call (utf8 "Reset signal " ++ text n ++
          utf8 (if kind = .byDefault then " to DEFAULT" else " to IGNORE"))
        modify fun state => { state with
          ignored := (if kind = .byDefault then [] else [n]) ++ state.ignored.filter (· ≠ n) }
  for n in List.range' 1 Signal.maxNumber do
    match (changes.filter fun change => change.1 = n && change.2.1 != .ignored).getLast? with
    | none => pure ()
    | some (_, kind, _) =>
      if kind = .blocked then modify fun state => { state with ignored := n :: state.ignored }
      tell call (utf8 "signal " ++ text n ++
        utf8 (if kind = .byDefault then " mask set to UNBLOCK" else " mask set to BLOCK"))
  return none

/-- Lists the signals that have no effect. -/
def listSignals (changes : List (Nat × Change × Bool)) : Action Unit := do
  let state ← get
  for n in List.range' 1 Signal.maxNumber do
    let own := changes.filter (·.1 = n)
    let isBlocked := own.any (·.2.1 = .blocked)
    let isIgnored := state.ignored.contains n && (!isBlocked || own.any (·.2.1 = .ignored))
    if isBlocked || isIgnored then
      let name := Signal.nameOf n
      let number := Bytes.decimal n
      printError (name ++ List.replicate (10 - name.length) 32 ++ utf8 " (" ++
        List.replicate (2 - number.length) 32 ++ number ++ utf8 "): " ++
        utf8 (if isBlocked then "BLOCK" else "") ++ utf8 (if isBlocked && isIgnored then "," else "") ++
        utf8 (if isIgnored then "IGNORE" else "") ++ [10])

/-- An environment with an entry in place of another one of the same name. -/
def withEntry (environment : List Bytes) (entry : Bytes) : List Bytes :=
  let start := entry.takeWhile (· != 61) ++ [61]
  if environment.any start.isPrefixOf then
    environment.map fun other => if start.isPrefixOf other then entry else other
  else environment ++ [entry]

/-- Takes variables out of the environment; a status if one of them cannot be a variable. -/
def unsetAll (call : Call) : Action (Option Nat) := do
  for (letter, name) in call.flags.reverse do
    if letter == 'u' then
      tell call (utf8 "unset:    " ++ name)
      if name.isEmpty || name.contains 61 then
        complain (utf8 "cannot unset " ++ (← quoted name) ++ utf8 ": Invalid argument")
        return some 125
      modify fun state => { state with
        environment := state.environment.filter (!(name ++ [61]).isPrefixOf ·) }
  return none

/-- Goes to another directory; a status if that fails. -/
def enter (call : Call) : Action (Option Nat) := do
  match call.argument? 'C' with
  | none => return none
  | some path =>
    tell call (utf8 "chdir:    " ++ (← quotedName path))
    let problem ← match ← resolve true path with
      | .ok ⟨place, some (.directory _)⟩ =>
        if (← get).tree.isSearchable place then
          modify fun state => { state with directory := place }
          pure none
        else pure (some Errno.EACCES)
      | .error errno => pure (some errno)
      | .ok ⟨_, none⟩ => pure (some .ENOENT)
      | _ => pure (some .ENOTDIR)
    match problem with
    | none => return none
    | some errno =>
      complain (utf8 "cannot change directory to " ++ (← quotedName path) ++ utf8 ": " ++ errno.wording)
      return some 125

/-- Runs a command. -/
def runCommand (run : Runner) (call : Call) (words : List Bytes) : Action Nat := do
  match signalChanges call with
  | .error name => refuse 125 ((← quoted name) ++ utf8 ": invalid signal")
  | .ok changes =>
    if let some status ← arrange call changes then return status
    if call.has 'λ' then listSignals changes
    if let some status ← enter call then return status
    let name := words.headD []
    tell call (utf8 "executing: " ++ name)
    for (word, n) in words.zipIdx do
      tell call (utf8 "   arg[" ++ Bytes.decimal n ++ utf8 "]= " ++ (← quoted word))
    let errno ← execute run words
    complain ((← quoted name) ++ utf8 ": " ++ errno.wording)
    if errno = .ENOENT && name.any fun byte => byte == 32 || (9 ≤ byte && byte ≤ 13) then suggestSplitting
    return startFailure errno

end Surroundings

open Surroundings in
/-- Changes the environment, and prints it or runs a command in it. -/
def env (run : Runner) (arguments : List Bytes) : Action Nat := do
  let size := (arguments.map List.length).foldl (· + ·) 0
  match ← read (arguments.length + size + 1) arguments {} with
  | none => return 125
  | some ⟨call, words⟩ =>
    if call.has '?' then leave .abandoned
    if let .error name := signalChanges call then
      return ← refuse 125 ((← quoted name) ++ utf8 ": invalid signal")
    let isBare := words.head? = some [45]
    let words := if isBare then words.drop 1 else words
    if call.has 'i' || isBare then
      tell call (utf8 "cleaning environ")
      modify fun state => { state with environment := [] }
    else if let some status ← unsetAll call then return status
    let entries := words.takeWhile (·.contains 61)
    for entry in entries do tell call (utf8 "setenv:   " ++ entry)
    modify fun state => { state with environment := entries.foldl withEntry state.environment }
    let words := words.drop entries.length
    if call.has '0' && !words.isEmpty then
      refuse 125 (utf8 "cannot specify --null (-0) with command")
    else if (call.argument? 'C').isSome && words.isEmpty then
      refuse 125 (utf8 "must specify command with --chdir (-C)")
    else if words.isEmpty then
      let ending : Bytes := if call.has '0' then [0] else [10]
      print ((← get).environment.flatMap (· ++ ending))
      finish 0 125
    else runCommand run call words

end CleanLaunch.Shell.Utility
