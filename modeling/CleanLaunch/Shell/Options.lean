import CleanLaunch.Shell.Dialect

/-! The switches of a shell, and reading them from its arguments or those of `set`. -/

namespace CleanLaunch.Shell

inductive Switch
  | exitOnError | noPathnames | ignoreEnd | interactive | monitor | readOnly | fromInput | trace
  | verbose | viKeys | emacsKeys | noClobber | exportAll | notify | refuseUnset | privileged
  | noLog | debug
  /- Those of the extended language. -/
  | braces | errorTrap | callTrap | remembering | historyMarks | history | comments | keywords
  | oneCommand | physical | pipeFailure | strict
  deriving DecidableEq

namespace Switch

/-- Every switch of the standard language with its name and its letter, if it has one, in the order of
    their listing. -/
def standard : List (Switch × String × Option Char) :=
  [(exitOnError, "errexit", some 'e'), (noPathnames, "noglob", some 'f'),
   (ignoreEnd, "ignoreeof", some 'I'), (interactive, "interactive", some 'i'),
   (monitor, "monitor", some 'm'), (readOnly, "noexec", some 'n'),
   (fromInput, "stdin", some 's'), (trace, "xtrace", some 'x'), (verbose, "verbose", some 'v'),
   (viKeys, "vi", some 'V'), (emacsKeys, "emacs", some 'E'), (noClobber, "noclobber", some 'C'),
   (exportAll, "allexport", some 'a'), (notify, "notify", some 'b'),
   (refuseUnset, "nounset", some 'u'), (privileged, "privileged", some 'p'),
   (noLog, "nolog", none), (debug, "debug", none)]

/-- The same for the extended language. -/
def extended : List (Switch × String × Option Char) :=
  [(exportAll, "allexport", some 'a'), (braces, "braceexpand", some 'B'),
   (emacsKeys, "emacs", none), (exitOnError, "errexit", some 'e'),
   (errorTrap, "errtrace", some 'E'), (callTrap, "functrace", some 'T'),
   (remembering, "hashall", some 'h'), (historyMarks, "histexpand", some 'H'),
   (history, "history", none), (ignoreEnd, "ignoreeof", none),
   (comments, "interactive-comments", none), (keywords, "keyword", some 'k'),
   (monitor, "monitor", some 'm'), (noClobber, "noclobber", some 'C'),
   (readOnly, "noexec", some 'n'), (noPathnames, "noglob", some 'f'), (noLog, "nolog", none),
   (notify, "notify", some 'b'), (refuseUnset, "nounset", some 'u'),
   (oneCommand, "onecmd", some 't'), (physical, "physical", some 'P'),
   (pipeFailure, "pipefail", none), (strict, "posix", none), (privileged, "privileged", some 'p'),
   (verbose, "verbose", some 'v'), (viKeys, "vi", none), (trace, "xtrace", some 'x')]

def all : Dialect → List (Switch × String × Option Char)
  | .standard => standard
  | .extended => extended

def ofLetter? (dialect : Dialect) (letter : UInt8) : Option Switch :=
  ((all dialect).find? fun (_, _, own) => own.any (·.toNat == letter.toNat)).map (·.1)

def ofName? (dialect : Dialect) (name : Bytes) : Option Switch :=
  ((all dialect).find? fun (_, own, _) => utf8 own = name).map (·.1)

end Switch

/-- The switches that are on. -/
structure Options where
  on : List Switch := []

namespace Options

def isOn (options : Options) (switch : Switch) : Bool := options.on.contains switch

def put (options : Options) (isOn : Bool) (switch : Switch) : Options :=
  let others := options.on.filter (· ≠ switch)
  { on := if isOn then switch :: others else others }

/-- The letters of the switches that are on: in the reverse order of the listing in the standard
    language, in the order of the alphabet with small letters first in the extended one. -/
def letters (dialect : Dialect) (options : Options) : Bytes :=
  let on := (Switch.all dialect).filterMap fun (switch, _, letter) =>
    if options.isOn switch then letter.map fun letter => letter.toNat.toUInt8 else none
  match dialect with
  | .standard => on.reverse
  | .extended =>
    let rank (letter : UInt8) : Nat := if 97 ≤ letter then letter.toNat else letter.toNat + 256
    on.mergeSort fun a b => rank a ≤ rank b

/-- The names of the switches that are on, as the extended language lists them. -/
def names (options : Options) : Bytes :=
  let on := Switch.extended.filter fun (switch, _, _) => options.isOn switch
  Bytes.joinWith [58] (on.map fun (_, name, _) => utf8 name)

/-- Switches by its letter. Each of the two kinds of keys switches the other one off. -/
def putByLetter (options : Options) (isOn : Bool) (switch : Switch) : Options :=
  let others := match isOn, switch with
    | true, .viKeys => options.put false .emacsKeys
    | true, .emacsKeys => options.put false .viKeys
    | _, _ => options
  others.put isOn switch

/-- A table of the switches that tells which are on. -/
def table (dialect : Dialect) (isOn : Switch → Bool) : Bytes :=
  let state (switch : Switch) : Bytes := utf8 (if isOn switch then "on\n" else "off\n")
  match dialect with
  | .standard =>
    utf8 "Current option settings\n" ++ (Switch.all dialect).flatMap fun (switch, name, _) =>
      utf8 name ++ List.replicate (16 - name.length) 32 ++ state switch
  | .extended =>
    (Switch.all dialect).flatMap fun (switch, name, _) =>
      utf8 name ++ List.replicate (15 - name.length) 32 ++ 9 :: state switch

/-- The commands that put all switches as they are. -/
def commands (dialect : Dialect) (isOn : Switch → Bool) : Bytes :=
  (Switch.all dialect).flatMap fun (switch, name, _) =>
    utf8 (if isOn switch then "set -o " else "set +o ") ++ utf8 name ++ [10]

/-- What was read from a list of words. -/
structure Reading where
  dialect : Dialect := .standard
  options : Options
  /-- The words behind the switches. -/
  rest : List Bytes
  /-- Was there a `c`, which says that the next word is a command line? -/
  hasCommand : Bool := false
  /-- Did `--` or `-` end the switches? -/
  ended : Bool := false
  /-- Listings of the switches that were asked for. -/
  listings : Bytes := []

/-- Why a word cannot be read. -/
inductive Problem
  | unknownLetter (on : Bool) (letter : UInt8)
  | unknownName (name : Bytes)

/-- What is said of a problem in the standard language. -/
def Problem.text : Problem → Bytes
  | .unknownLetter _ letter => utf8 "Illegal option -" ++ [letter]
  | .unknownName name => utf8 "Illegal option -o " ++ name

/-- A word that cannot be read, and what was read before it. -/
structure Refusal where
  problem : Problem
  before : Reading

/-- Reads the letters of one word. A shell that is starting has not settled its switches, and its
    listings show all of them as on. -/
def readLetters (isShell on : Bool) : Bytes → Reading → Except Refusal Reading
  | [], reading => .ok reading
  | letter :: rest, reading =>
    if letter == 99 && isShell then
      readLetters isShell on rest { reading with hasCommand := true }
    else if letter == 108 && isShell then readLetters isShell on rest reading
    else if letter == 111 then
      match reading.rest with
      | [] =>
        let isOn (switch : Switch) : Bool := isShell || reading.options.isOn switch
        let listing := if on then table reading.dialect isOn else commands reading.dialect isOn
        readLetters isShell on rest { reading with listings := reading.listings ++ listing }
      | name :: words =>
        match Switch.ofName? reading.dialect name with
        | some switch =>
          readLetters isShell on rest
            { reading with options := reading.options.put on switch, rest := words }
        | none => .error ⟨.unknownName name, reading⟩
    else match Switch.ofLetter? reading.dialect letter with
      | some switch =>
        readLetters isShell on rest
          { reading with options := reading.options.putByLetter on switch }
      | none => .error ⟨.unknownLetter on letter, reading⟩

/-- Reads the switches at the head of some words; an unknown one is an error with its wording. A
    shell also takes `c` for a command line. -/
def read (isShell : Bool) : (bound : Nat) → Reading → Except Refusal Reading
  | 0, reading => .ok reading
  | bound + 1, reading =>
    match reading.rest with
    | [45] :: rest =>
      let options := if isShell then reading.options
        else (reading.options.put false .trace).put false .verbose
      .ok { reading with options, rest, ended := !rest.isEmpty }
    | [45, 45] :: rest => .ok { reading with rest, ended := true }
    | (45 :: letters) :: rest => do
      read isShell bound (← readLetters isShell true letters { reading with rest })
    | (43 :: letters) :: rest => do
      read isShell bound (← readLetters isShell false letters { reading with rest })
    | _ => .ok reading

end Options

end CleanLaunch.Shell
