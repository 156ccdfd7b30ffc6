import CleanLaunch.Shell.Number
import CleanLaunch.Shell.Utility.Amount
import CleanLaunch.Shell.Utility.Starting

/-! Utilities about time and rank: `sleep`, `timeout`, `nice`, `nohup`, `setsid` and `stdbuf`. -/

namespace CleanLaunch.Shell.Utility

open Shell.Action

/-- Lets time pass. -/
def sleep (arguments : List Bytes) : Action Nat :=
  withCall ⟨"", [], .atOperand⟩ 1 arguments fun call => do
    if call.operands.isEmpty then missingOperand "operand"
    else
      let wrong := call.operands.filter fun text => (duration? text).isNone
      for text in wrong do
        complain (utf8 "invalid time interval " ++ (← quoted text))
      if wrong.isEmpty then
        let times := call.operands.filterMap duration?
        let total := sumOf (times.map fun time => time.getD farTime)
        let clock := (← get).world.clock
        let _ ← waitUntil (clock + total)
        if farTime ≤ total then leave .abandoned
        return 0
      else
        suggestHelp
        return 1

namespace Timeout

/-- What a call asks for. -/
structure Request where
  signal : Nat
  /-- The time after which the signal is sent, and the time after that until the command is killed. -/
  limit : Option Nat
  killAfter : Option Nat
  /-- Do signals reach the command alone? -/
  isForeground : Bool
  keepsStatus : Bool
  isVerbose : Bool
  command : List Bytes

/-- Reads a call; the result is a status if it cannot be used. -/
def read (call : Call) : Action (Except Nat Request) := do
  let invalidTime (text : Bytes) : Action (Except Nat Request) := do
    return .error (← refuse ownFailure (utf8 "invalid time interval " ++ (← quoted text)))
  let killAfter := call.argument? 'k'
  let killTime := killAfter.map duration?
  let signal := (call.argument? 's').map operandSignal?
  match killTime, signal, call.operands with
  | some none, _, _ => invalidTime (killAfter.getD [])
  | _, some none, _ =>
    return .error (← refuse ownFailure ((← quoted ((call.argument? 's').getD [])) ++
      utf8 ": invalid signal"))
  | killTime, signal, time :: name :: words =>
    match duration? time with
    | none => invalidTime time
    | some limit =>
      return .ok {
        signal := (signal.join).getD 15
        limit := limit.filter (0 < ·)
        killAfter := (killTime.join.join).filter (0 < ·)
        isForeground := call.has 'φ', keepsStatus := call.has 'π', isVerbose := call.has 'v'
        command := name :: words }
  | _, _, _ =>
    suggestHelp
    return .error ownFailure

/-- Signals that will be sent to the command, which begins to run now. -/
def arrivals (request : Request) (pid clock : Nat) : List Host.Arrival :=
  match request.limit with
  | none => []
  | some limit =>
    let isShared := !request.isForeground
    let first : Host.Arrival := { pid, signal := request.signal, time := clock + limit, isShared }
    match request.killAfter with
    | none => [first]
    | some more => [first, { pid, signal := 9, time := clock + limit + more, isShared }]

/-- Runs the command, and ends as it does unless its time was up. -/
def supervise (run : Runner) (request : Request) : Action Nat := do
  let state ← get
  let clock := state.world.clock
  let pid := state.world.nextPid
  let sent := arrivals request pid clock
  changeWorld fun world => { world with pending := world.pending ++ sent }
  let name ← ownName
  let (_, ending) ← inChild do
    let errno ← execute run request.command
    let quotedCommand ← quoted (request.command.headD [])
    printError (name ++ utf8 ": failed to run command " ++ quotedCommand ++ utf8 ": " ++
      errno.wording ++ [10])
    setStatus (startFailure errno)
  let after := (← get).world.clock
  changeWorld fun world => { world with
    pending := world.pending.filter fun arrival => arrival.pid ≠ pid }
  let happened := sent.filter fun arrival => arrival.time ≤ after
  if request.isVerbose then
    for arrival in happened do
      changeWorld fun world => { world with clock := arrival.time }
      complain (utf8 "sending signal " ++ Signal.nameOf arrival.signal ++ utf8 " to command " ++
        (← quoted (request.command.headD [])))
    changeWorld fun world => { world with clock := after }
  if !request.isForeground && happened.any (·.signal = 9) then leave (.killed 9)
  match ending, happened with
  | .exited status, _ => return if happened.isEmpty || request.keepsStatus then status else 124
  | .killed signal, [] => leave (.killed signal)
  | .killed signal, _ => return if request.keepsStatus || signal = 9 then 128 + signal else 124

end Timeout

/-- Runs a command with a signal that ends it after some time. -/
def timeout (run : Runner) (arguments : List Bytes) : Action Nat :=
  withCall ⟨"k:s:v", [⟨"signal", 's', .argument⟩, ⟨"kill-after", 'k', .argument⟩, ⟨"verbose", 'v', .nothing⟩,
    ⟨"foreground", 'φ', .nothing⟩, ⟨"preserve-status", 'π', .nothing⟩], .atOperand⟩ ownFailure
    arguments fun call => do
    match ← Timeout.read call with
    | .error status => return status
    | .ok request => Timeout.supervise run request

/-- Runs a command that outlives its terminal. -/
def nohup (run : Runner) (arguments : List Bytes) : Action Nat :=
  withCall ⟨"", [], .atOperand⟩ ownFailure arguments fun call => do
    let failure := if isStrict (← get) then 127 else ownFailure
    if call.operands.isEmpty then refuse failure (utf8 "missing operand")
    else
      modify fun state => { state with ignored := 1 :: state.ignored }
      startOr run call.operands fun name => return utf8 "failed to run command " ++ (← quoted name)

namespace Niceness

/-- Reads flags, among them numbers with a hyphen before them; gives the last adjustment and the words
    behind. -/
def read : (bound : Nat) → Option Bytes → List Bytes → Except Bytes (Option Bytes × List Bytes)
  | 0, adjustment, words => .ok (adjustment, words)
  | _, adjustment, [] => .ok (adjustment, [])
  | bound + 1, adjustment, word :: words =>
    let isNumber : Bool := match word with
      | 45 :: byte :: rest =>
        Bytes.isDigit byte || ((byte == 45 || byte == 43) && rest.head?.any Bytes.isDigit)
      | _ => false
    if isNumber then read bound (some (word.drop 1)) words
    else
      let goOn (result : Except Bytes (List Bytes × Call)) :
          Except Bytes (Option Bytes × List Bytes) :=
        match result with
        | .error problem => .error problem
        | .ok (words, call) => read bound ((call.argument? 'n').or adjustment) words
      match word with
      | [45, 45] => .ok (adjustment, words)
      | 45 :: 45 :: name => goOn (Call.readLong [⟨"adjustment", 'n', .argument⟩] name words {})
      | 45 :: letter :: more => goOn (Call.readLetters (utf8 "n:") (letter :: more) words {})
      | _ => .ok (adjustment, word :: words)

/-- The highest niceness. -/
def highest : Int := 19

end Niceness

/-- Runs a command that is nicer than others, or says how nice this process is. -/
def nice (run : Runner) (arguments : List Bytes) : Action Nat := do
  if arguments = [utf8 "--help"] || arguments = [utf8 "--version"] then leave .abandoned
  match Niceness.read (arguments.length + 1) none arguments with
  | .error problem => refuse ownFailure problem
  | .ok (adjustment, words) =>
    let text := adjustment.getD (utf8 "10")
    let value : Option Int := do
      let read ← Number.read? (some 10) text
      if read.rest.isEmpty then some read.value else none
    let own := (← get).niceness
    match value, words with
    | none, _ =>
      complain (utf8 "invalid adjustment " ++ (← quoted text))
      return ownFailure
    | some _, [] =>
      if adjustment.isSome then
        refuse ownFailure (utf8 "a command must be given with an adjustment")
      else
        print (Number.text own ++ [10])
        finish 0 ownFailure
    | some value, words =>
      if value < 0 && -20 < own then
        complain (utf8 "cannot set niceness: " ++ Errno.EACCES.wording)
      else modify fun state => { state with niceness := min Niceness.highest (own + max value 0) }
      startOr run words quoted

/-- Runs a command in a session of its own. -/
def setsid (run : Runner) (arguments : List Bytes) : Action Nat :=
  withCall ⟨"cfw", [⟨"ctty", 'c', .nothing⟩, ⟨"fork", 'f', .nothing⟩, ⟨"wait", 'w', .nothing⟩], .atOperand⟩ 1
    arguments fun call => do
    if call.operands.isEmpty then
      complain (utf8 "no command specified")
      suggestHelp
      return 1
    else
      if call.has 'c' then leave .abandoned
      let start : Action Nat :=
        startOr run call.operands fun name => return utf8 "failed to execute " ++ name
      if !call.has 'f' then start
      else
        let asChild : Action Unit := do setStatus (← start)
        if call.has 'w' then
          let (_, ending) ← inChild asChild
          return ending.status
        else
          let _ ← inBackground asChild
          return 0

namespace Buffering

/-- The streams, each with the letter of its flag and the variable that says how it is buffered. -/
def streams : List (Char × String) := [('e', "_STDBUF_E"), ('i', "_STDBUF_I"), ('o', "_STDBUF_O")]

/-- The library that reads the variables. -/
def library : String := "/usr/libexec/coreutils/libstdbuf.so"

end Buffering

/-- Runs a command with another buffering of its streams, which makes no difference here. -/
def stdbuf (run : Runner) (arguments : List Bytes) : Action Nat :=
  withCall ⟨"i:o:e:", [⟨"input", 'i', .argument⟩, ⟨"output", 'o', .argument⟩, ⟨"error", 'e', .argument⟩],
    .atOperand⟩ ownFailure arguments fun call => do
    for (letter, argument) in call.flags.reverse do
      if letter == 'i' && argument = [76] then
        return ← refuse ownFailure (utf8 "line buffering stdin is meaningless")
      let isMode := argument = [76] || (match Amount.read Amount.usualSuffixes argument with
        | .value _ => true
        | _ => false)
      if !isMode then
        complain (utf8 "invalid mode " ++ (← quoted argument))
        return ownFailure
    if call.operands.isEmpty then refuse ownFailure (utf8 "missing operand")
    else if call.flags.isEmpty then
      refuse ownFailure (utf8 "you must specify a buffering mode option")
    else
      let entries := Buffering.streams.filterMap fun (letter, name) =>
        (call.argument? letter).map fun mode => utf8 name ++ [61] ++
          match Amount.read Amount.usualSuffixes mode with
          | .value n => Bytes.decimal n
          | _ => mode
      modify fun state => { state with
        environment := state.environment ++ entries ++ [utf8 ("LD_PRELOAD=" ++ Buffering.library)] }
      startOr run call.operands fun name => return utf8 "failed to run command " ++ (← quoted name)

end CleanLaunch.Shell.Utility
