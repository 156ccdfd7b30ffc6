import CleanLaunch.Shell.Job
import CleanLaunch.Shell.Number
import CleanLaunch.Files.System
import CleanLaunch.Shell.Utility.Paths

/-! The utilities that print words: parts of paths, and facts about the user and the system. -/

namespace CleanLaunch.Shell.Utility

open Shell.Action

/-- Prints the last parts of paths, without an ending that is not all of one. -/
def basename (arguments : List Bytes) : Action Nat :=
  withCall ⟨"as:z", [⟨"multiple", 'a', .nothing⟩, ⟨"suffix", 's', .argument⟩, ⟨"zero", 'z', .nothing⟩],
    .atOperand⟩ 1 arguments fun call => do
    let separator : UInt8 := if call.has 'z' then 0 else 10
    let part (path ending : Bytes) : Bytes :=
      let name := lastPart path
      let name :=
        if ending.length < name.length && ending.isSuffixOf name then
          name.take (name.length - ending.length)
        else name
      name ++ [separator]
    match call.operands with
    | [] => missingOperand "operand"
    | path :: rest =>
      if call.has 'a' || call.has 's' then
        print ((path :: rest).flatMap (part · ((call.argument? 's').getD [])))
        finish 0 1
      else match rest with
        | _ :: extra :: _ => extraOperand extra
        | _ =>
          print (part path (rest.headD []))
          finish 0 1

/-- Prints paths without their last parts. -/
def dirname (arguments : List Bytes) : Action Nat :=
  withCall ⟨"z", [⟨"zero", 'z', .nothing⟩], .atOperand⟩ 1 arguments fun call => do
    if call.operands.isEmpty then missingOperand "operand"
    else
      print (call.operands.flatMap fun path => withoutLast path ++ [if call.has 'z' then 0 else 10])
      finish 0 1

/-- Prints some variables of the environment, or all of it. -/
def printenv (arguments : List Bytes) : Action Nat :=
  withCall ⟨"0iu:", [⟨"null", '0', .nothing⟩], .atOperand⟩ 2 arguments fun call => do
    let environment := (← get).environment
    let ending : Bytes := if call.has '0' then [0] else [10]
    if call.operands.isEmpty then
      print (environment.flatMap (· ++ ending))
      finish 0 2
    else
      let values := call.operands.map fun name =>
        if name.contains 61 then none
        else (environment.find? fun entry => (name ++ [61]).isPrefixOf entry).map
          (·.drop (name.length + 1))
      print (values.flatMap fun value => match value with
        | some text => text ++ ending
        | none => [])
      finish (if values.all (·.isSome) then 0 else 1) 2

/-- Prints the working directory. -/
def pwd (arguments : List Bytes) : Action Nat :=
  withCall ⟨"LP", [⟨"logical", 'L', .nothing⟩, ⟨"physical", 'P', .nothing⟩], .atEnd⟩ 1 arguments
    fun call => do
    if !call.operands.isEmpty then complain (utf8 "ignoring non-option arguments")
    let state ← get
    let physical := state.directory.path
    let inherited := (environmentValue? state "PWD").filter fun path =>
      Path.isAbsolute path && (match state.tree.resolve state.directory true path with
        | .ok ⟨place, some _⟩ => place = state.directory
        | _ => false)
    match state.tree.node? state.directory with
    | some _ => pure ()
    | none =>
      complain (utf8 "couldn't find directory entry in '..' with matching i-node")
      return 1
    let logical := call.last? "LP" == some 'L' || (call.last? "LP" == none && isStrict state)
    print ((if logical then inherited.getD physical else physical) ++ [10])
    finish 0 1

/-- Bytes that `yes` writes at a time. -/
def yesLength : Nat := 8192

/-- Prints a line again and again until nobody takes it. -/
def yes (arguments : List Bytes) : Action Nat :=
  withCall ⟨"", [], .atOperand⟩ 1 arguments fun call => do
    let line := (if call.operands.isEmpty then [121] else Bytes.joinWith [32] call.operands) ++ [10]
    let block := (List.replicate (yesLength / line.length + 1) line).flatten
    let problem ← repeatFrom (none : Option Errno) fun _ => do
      let answer ← write 1 block
      let _ ← arrived
      return (answer, answer.isNone)
    complain (utf8 "standard output: " ++ (problem.getD .EPIPE).wording)
    return 1

/-- Complains about operands of a utility that takes none. -/
def withoutOperands (call : Call) (body : Action Nat) : Action Nat :=
  match call.operands with
  | [] => body
  | extra :: _ => extraOperand extra

/-- Prints who an account is. -/
def account (arguments : List Bytes) : Action Nat :=
  withCall ⟨"agnruzGZ", [⟨"user", 'u', .nothing⟩, ⟨"group", 'g', .nothing⟩, ⟨"groups", 'G', .nothing⟩,
    ⟨"name", 'n', .nothing⟩, ⟨"real", 'r', .nothing⟩], .atEnd⟩ 1 arguments fun call => do
    let name := call.operands.headD (utf8 "root")
    let kinds := ["u", "g", "G"].filter fun kind => (call.last? kind).isSome
    match Files.Account.all.find? fun account => utf8 account.name = name with
    | none =>
      complain ((← quoted name) ++ utf8 ": no such user")
      return 1
    | some account =>
      if 1 < kinds.length then
        complain (utf8 "cannot print \"only\" of more than one choice")
        return 1
      let group := (Files.Account.all.find? fun other => other.user = account.group).getD account
      let pair (n : Nat) (name : String) : Bytes :=
        Bytes.decimal n ++ utf8 "(" ++ utf8 name ++ utf8 ")"
      match kinds with
      | [] =>
        if call.has 'n' || call.has 'r' then
          complain (utf8 "cannot print only names or real IDs in default format")
          return 1
        print (utf8 "uid=" ++ pair account.user account.name ++ utf8 " gid=" ++
          pair account.group group.name ++ utf8 " groups=" ++ pair account.group group.name ++ [10])
        finish 0 1
      | kind :: _ =>
        let (number, word) :=
          if kind = "u" then (account.user, account.name) else (account.group, group.name)
        print ((if call.has 'n' then utf8 word else Bytes.decimal number) ++ [10])
        finish 0 1

def whoami (arguments : List Bytes) : Action Nat :=
  withCall ⟨"", [], .atEnd⟩ 1 arguments fun call => withoutOperands call do
    print (utf8 "root\n")
    finish 0 1

/-- Prints what system this is. -/
def uname (arguments : List Bytes) : Action Nat :=
  withCall ⟨"asnrvmpio", [⟨"kernel-name", 's', .nothing⟩, ⟨"machine", 'm', .nothing⟩,
    ⟨"operating-system", 'o', .nothing⟩], .atEnd⟩ 1 arguments fun call => withoutOperands call do
    if (call.last? "anrv").isSome then leave .abandoned
    let parts := (if call.flags.isEmpty || call.has 's' then [utf8 "Linux"] else []) ++
      (if call.has 'm' then [utf8 "x86_64"] else []) ++
      (if call.has 'p' then [utf8 "x86_64"] else []) ++
      (if call.has 'i' then [utf8 "x86_64"] else []) ++
      (if call.has 'o' then [utf8 "GNU/Linux"] else [])
    print (Bytes.joinWith [32] parts ++ [10])
    finish 0 1

/-- Prints the name of the terminal that the input is, which it never is. -/
def tty (arguments : List Bytes) : Action Nat :=
  withCall ⟨"s", [⟨"silent", 's', .nothing⟩, ⟨"quiet", 's', .nothing⟩], .atEnd⟩ 2 arguments
    fun call => withoutOperands call do
    if !call.has 's' then print (utf8 "not a tty\n")
    finish 1 3

/-- Does nothing, with a status. -/
def nothing (status : Nat) (arguments : List Bytes) : Action Nat := do
  if arguments = [utf8 "--help"] || arguments = [utf8 "--version"] then leave .abandoned
  return status

end CleanLaunch.Shell.Utility
