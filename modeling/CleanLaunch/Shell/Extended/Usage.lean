import CleanLaunch.Shell.Builtin.Arguments
import CleanLaunch.Shell.Number

/-! How the builtins of the extended language are used, and reading their flags.

    What a builtin does not know it refuses with two lines: what is wrong, and how it is used. -/

namespace CleanLaunch.Shell

namespace Usage

open Shell.Action

/-- The words that each builtin takes. -/
def table : List (String × String) :=
  [(".", "filename [arguments]"), ("source", "filename [arguments]"),
   ("alias", "[-p] [name[=value] ... ]"), ("unalias", "[-a] name [name ...]"),
   ("builtin", "[shell-builtin [arg ...]]"), ("caller", "[expr]"),
   ("cd", "[-L|[-P [-e]] [-@]] [dir]"), ("command", "[-pVv] command [arg ...]"),
   ("declare", "[-aAfFgiIlnrtux] [name[=value] ...] or declare -p [-aAfFilnrtux] [name ...]"),
   ("typeset", "[-aAfFgiIlnrtux] name[=value] ... or typeset -p [-aAfFilnrtux] [name ...]"),
   ("local", "[option] name[=value] ..."), ("dirs", "[-clpv] [+N] [-N]"),
   ("enable", "[-a] [-dnps] [-f filename] [name ...]"), ("eval", "[arg ...]"),
   ("exec", "[-cl] [-a name] [command [argument ...]] [redirection ...]"),
   ("export", "[-fn] [name[=value] ...] or export -p"),
   ("readonly", "[-aAf] [name[=value] ...] or readonly -p"),
   ("getopts", "optstring name [arg ...]"), ("hash", "[-lr] [-p pathname] [-dt] [name ...]"),
   ("jobs", "[-lnprs] [jobspec ...] or jobs -x command [args]"),
   ("kill", "[-s sigspec | -n signum | -sigspec] pid | jobspec ... or kill -l [sigspec]"),
   ("mapfile", "[-d delim] [-n count] [-O origin] [-s count] [-t] [-u fd] [-C callback] [-c quantum] " ++
     "[array]"),
   ("readarray", "[-d delim] [-n count] [-O origin] [-s count] [-t] [-u fd] [-C callback] " ++
     "[-c quantum] [array]"),
   ("popd", "[-n] [+N | -N]"), ("pushd", "[-n] [+N | -N | dir]"),
   ("printf", "[-v var] format [arguments]"), ("pwd", "[-LP]"),
   ("read", "[-ers] [-a array] [-d delim] [-i text] [-n nchars] [-N nchars] [-p prompt] [-t timeout] " ++
     "[-u fd] [name ...]"),
   ("set", "[-abefhkmnptuvxBCEHPT] [-o option-name] [--] [-] [arg ...]"),
   ("shopt", "[-pqsu] [-o] [optname ...]"), ("times", ""),
   ("trap", "[-lp] [[arg] signal_spec ...]"), ("type", "[-afptP] name [name ...]"),
   ("ulimit", "[-SHabcdefiklmnpqrstuvxPRT] [limit]"), ("umask", "[-p] [-S] [mode]"),
   ("unset", "[-f] [-v] [-n] [name ...]"), ("wait", "[-fn] [-p var] [id ...]")]

/-- Says how the running builtin is used and gives it up. -/
def refuse {α : Type} : Action α := do
  let name := (← get).builtin.getD []
  let words := match table.find? fun (other, _) => utf8 other = name with
    | some (_, words) => utf8 words
    | none => []
  printError (name ++ utf8 ": usage: " ++ name ++ (if words.isEmpty then [] else 32 :: words) ++ [10])
  setStatus 2
  let _ ← flush
  leave .failed

/-- Refuses a flag that is none. -/
def refuseFlag {α : Type} (sign letter : UInt8) : Action α := do
  warn ([sign, letter] ++ utf8 ": invalid option")
  refuse

/-- Reads the letters of one word; `words` are those behind it. -/
def letters (known : String) : Bytes → Arguments.Flags → Action Arguments.Flags
  | [], read => return read
  | letter :: rest, read => do
    match if letter == 58 then [] else (utf8 known).dropWhile (· != letter) with
    | _ :: 58 :: _ =>
      if !rest.isEmpty then return { read with flags := (letter, rest) :: read.flags }
      else match read.rest with
        | argument :: words => return ⟨(letter, argument) :: read.flags, words⟩
        | [] =>
          warn ([45, letter] ++ utf8 ": option requires an argument")
          refuse
    | _ :: _ => letters known rest { read with flags := (letter, []) :: read.flags }
    | [] => refuseFlag 45 letter

/-- Reads the flags at the head of some words. A colon behind a known letter says that it takes an
    argument. -/
def flags (known : String) (words : List Bytes) : Action Arguments.Flags :=
  go (words.length + 1) ⟨[], words⟩
where
  go : (bound : Nat) → Arguments.Flags → Action Arguments.Flags
    | 0, read => return read
    | bound + 1, read => do
      match read.rest with
      | [45, 45] :: words => return { read with rest := words }
      | (45 :: letter :: more) :: words =>
        go bound (← letters known (letter :: more) { read with rest := words })
      | _ => return read

/-- The argument of a flag that was given last. -/
def argument? (read : Arguments.Flags) (letter : Char) : Option Bytes :=
  (read.flags.find? fun flag => flag.1.toNat == letter.toNat).map (·.2)

/-- A number among the arguments of a builtin. -/
def number? (text : Bytes) : Option Int := Number.ofText? (some 10) text

/-- Reports a problem of the running builtin, and gives the status of a failure. -/
def failing (message : Bytes) : Action Nat := do
  warn message
  return 1

end Usage

end CleanLaunch.Shell
