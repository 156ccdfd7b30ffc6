import CleanLaunch.Shell.Character
import CleanLaunch.Shell.State
import CleanLaunch.Shell.Utility.Quotation

/-! How utilities are called: flags and operands, and complaints about them.

    A flag is a letter behind a hyphen or a word behind two of them. Flags may stand behind operands,
    unless the user wants things strict. Everything that is read of a call is in `Call`. -/

namespace CleanLaunch.Shell.Utility

open Shell.Action

/-- The value of a variable of the environment, if it has one. -/
def environmentValue? (state : State) (name : String) : Option Bytes :=
  let start := utf8 name ++ [61]
  (state.environment.find? start.isPrefixOf).map (·.drop start.length)

/-- Can characters have several bytes here? -/
def hasWideCharacters (state : State) : Bool :=
  let value? (name : Bytes) : Option Bytes :=
    let start := name ++ [61]
    ((state.environment.find? start.isPrefixOf).map (·.drop start.length)).filter (!·.isEmpty)
  (Character.localeVariables.findSome? value?).any Character.isWideIn

/-- Does the user want utilities to keep to the letter? -/
def isStrict (state : State) : Bool := (environmentValue? state "POSIXLY_CORRECT").isSome

/-- A word in the quotation marks of the language. -/
def quoted (word : Bytes) : Action Bytes :=
  return Quotation.text (hasWideCharacters (← get)) word

/-- A word in quotes of the shell. -/
def quotedName (word : Bytes) : Action Bytes :=
  return Quotation.word (hasWideCharacters (← get)) word

/-- A word in quotes of the shell where it needs them. -/
def plainName (word : Bytes) : Action Bytes :=
  return Quotation.wordIfNeeded (hasWideCharacters (← get)) word

/-- The name the running utility was called by. -/
def ownName : Action Bytes := return (← get).arguments.headD []

/-- Reports a problem with the name of the running utility, behind all that it has printed. -/
def complain (message : Bytes) : Action Unit := do
  let _ ← flush
  printError ((← ownName) ++ utf8 ": " ++ message ++ [10])

/-- Points to the help of the running utility. -/
def suggestHelp : Action Unit := do
  printError (utf8 "Try '" ++ (← ownName) ++ utf8 " --help' for more information.\n")

/-- Complains about a call and points to the help. -/
def refuse (status : Nat) (message : Bytes) : Action Nat := do
  complain message
  suggestHelp
  return status

/-- What a flag takes. -/
inductive Takes
  | nothing
  | argument
  /-- An argument in the same word, if there is one. -/
  | perhaps
  deriving DecidableEq

/-- A flag that is a word, and the letter it stands for. -/
structure LongFlag where
  name : String
  letter : Char
  takes : Takes := .nothing

/-- Where the flags of a call end. -/
inductive FlagsEnd
  /-- With the words, as flags may stand behind operands. -/
  | atEnd
  /-- At the first operand. -/
  | atOperand
  /-- At the first operand or negative number. -/
  | atNumber
  deriving DecidableEq

/-- The flags of a utility. -/
structure Flags where
  /-- The letters; a colon says that the flag before it takes an argument, two colons that it may. -/
  letters : String
  long : List LongFlag := []
  finish : FlagsEnd := .atEnd

/-- Flags of a call, the last one first, each with its argument if it takes one, and the operands,
    in reverse order while they are read. -/
structure Call where
  flags : List (Char × Bytes) := []
  operands : List Bytes := []

namespace Call

def has (call : Call) (letter : Char) : Bool := call.flags.any (·.1 == letter)

/-- The argument of a flag, where it was given last. -/
def argument? (call : Call) (letter : Char) : Option Bytes := call.flags.lookup letter

/-- The last one of some flags that was given. -/
def last? (call : Call) (letters : String) : Option Char :=
  (call.flags.find? fun flag => letters.toList.contains flag.1).map (·.1)

def add (call : Call) (letter : Char) (argument : Bytes) : Call :=
  { call with flags := (letter, argument) :: call.flags }

/-- What a letter takes, if it is known. -/
def takes? (letters : Bytes) (letter : UInt8) : Option Takes :=
  if letter == 58 then none
  else match letters.dropWhile (· != letter) with
    | [] => none
    | _ :: 58 :: 58 :: _ => some .perhaps
    | _ :: 58 :: _ => some .argument
    | _ => some .nothing

/-- Reads the letters of a word; `words` are those behind it. -/
def readLetters (known : Bytes) : Bytes → List Bytes → Call → Except Bytes (List Bytes × Call)
  | [], words, call => .ok (words, call)
  | letter :: rest, words, call =>
    let character := Char.ofNat letter.toNat
    match takes? known letter with
    | none => .error (utf8 "invalid option -- '" ++ [letter] ++ utf8 "'")
    | some .nothing => readLetters known rest words (call.add character [])
    | some .perhaps => .ok (words, call.add character rest)
    | some .argument =>
      if !rest.isEmpty then .ok (words, call.add character rest)
      else match words with
        | [] => .error (utf8 "option requires an argument -- '" ++ [letter] ++ utf8 "'")
        | argument :: words => .ok (words, call.add character argument)

/-- Reads a flag that is a word, or the beginning of one. -/
def readLong (known : List LongFlag) (word : Bytes) (words : List Bytes) (call : Call) :
    Except Bytes (List Bytes × Call) :=
  let name := word.takeWhile (· != 61)
  let argument? := if name.length < word.length then some (word.drop (name.length + 1)) else none
  let shown (name : Bytes) : Bytes := utf8 "option '--" ++ name ++ utf8 "'"
  let add (flag : LongFlag) : Except Bytes (List Bytes × Call) :=
    match flag.takes, argument? with
    | .nothing, some _ => .error (shown (utf8 flag.name) ++ utf8 " doesn't allow an argument")
    | .argument, none => match words with
      | [] => .error (shown (utf8 flag.name) ++ utf8 " requires an argument")
      | argument :: words => .ok (words, call.add flag.letter argument)
    | _, _ => .ok (words, call.add flag.letter (argument?.getD []))
  match known.find? fun flag => utf8 flag.name = name with
  | some flag => add flag
  | none =>
    match known.filter fun flag => name.isPrefixOf (utf8 flag.name) with
    | [] => .error (utf8 "unrecognized option '--" ++ word ++ utf8 "'")
    | flag :: others =>
      if others.all fun other => other.letter == flag.letter then add flag
      else .error (shown word ++ utf8 " is ambiguous; possibilities:" ++
        (flag :: others).flatMap fun flag => utf8 (" '--" ++ flag.name ++ "'"))

/-- Reads flags and operands. -/
def read (known : Flags) (strict : Bool) : (bound : Nat) → List Bytes → Call → Except Bytes Call
  | 0, _, call | _, [], call => .ok { call with operands := call.operands.reverse }
  | bound + 1, word :: words, call =>
    let goOn (read : Except Bytes (List Bytes × Call)) : Except Bytes Call :=
      match read with
      | .ok (words, call) => Call.read known strict bound words call
      | .error problem => .error problem
    match word with
    | [45, 45] => .ok { call with operands := call.operands.reverse ++ words }
    | 45 :: 45 :: name => goOn (readLong known.long name words call)
    | 45 :: letter :: more =>
      if known.finish = .atNumber && (letter == 46 || Bytes.isDigit letter) then
        .ok { call with operands := call.operands.reverse ++ word :: words }
      else goOn (readLetters (utf8 known.letters) (letter :: more) words call)
    | _ =>
      if strict || known.finish != .atEnd then
        .ok { call with operands := call.operands.reverse ++ word :: words }
      else Call.read known strict bound words { call with operands := word :: call.operands }

end Call

/-- Runs a utility on its flags and operands; `failure` is its status for flags it does not know. -/
def withCall (known : Flags) (failure : Nat) (arguments : List Bytes)
    (body : Call → Action Nat) : Action Nat := do
  let known := { known with long := known.long ++ [⟨"help", '?', .nothing⟩, ⟨"version", '?', .nothing⟩] }
  match Call.read known (isStrict (← get)) (arguments.length + 1) arguments {} with
  | .ok call => if call.has '?' then leave .abandoned else body call
  | .error problem => refuse failure problem

/-- The word that a flag's argument stands for: one of some or the beginning of one. Words that mean the same
    are in one group, whose first one is the result. Complains about any other argument, with the status to
    end with. -/
def choice? (flag : String) (groups : List (List String)) (argument : Option Bytes) :
    Action (Except Nat (Option String)) := do
  match argument with
  | none => return .ok none
  | some text =>
    let first (group : List String) : Option String := group.head?
    match groups.find? fun group => group.any fun word => utf8 word = text with
    | some group => return .ok (first group)
    | none =>
      let refuseIt (problem : String) : Action (Except Nat (Option String)) := do
        let line (group : List String) : Action Bytes := do
          return utf8 "\n  - " ++ Bytes.joinWith (utf8 ", ") (← group.mapM fun word => quoted (utf8 word))
        let listed ← groups.mapM line
        complain (utf8 problem ++ utf8 " argument " ++ (← quoted text) ++ utf8 " for " ++
          (← quoted (utf8 flag)) ++ utf8 "\nValid arguments are:" ++ listed.flatten)
        suggestHelp
        return .error 1
      match groups.filter fun group => group.any fun word => text.isPrefixOf (utf8 word) with
      | [] => refuseIt "invalid"
      | [group] => return .ok (first group)
      | _ => refuseIt "ambiguous"

/-- Complains that there are no operands. -/
def missingOperand (what : String) : Action Nat := refuse 1 (utf8 ("missing " ++ what))

/-- Complains that there are not enough operands behind one. -/
def missingAfter (operand : Bytes) : Action Nat := do
  refuse 1 (utf8 "missing operand after " ++ (← quoted operand))

/-- Complains about an operand that is one too many. -/
def extraOperand (operand : Bytes) : Action Nat := do
  refuse 1 (utf8 "extra operand " ++ (← quoted operand))

/-- Writes everything that was printed, and complains if that fails. -/
def finish (status failure : Nat) : Action Nat := do
  match ← flush with
  | none => return status
  | some errno =>
    complain (utf8 "write error: " ++ errno.wording)
    return failure

/-- A word as a number, if it is one. -/
def natural? (text : Bytes) : Option Nat :=
  if !text.isEmpty && text.all Bytes.isDigit then
    some (text.foldl (fun n byte => n * 10 + Bytes.digitValue byte) 0)
  else none

end CleanLaunch.Shell.Utility
