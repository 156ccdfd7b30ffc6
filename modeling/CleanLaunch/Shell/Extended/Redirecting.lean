import CleanLaunch.Shell.Extended.Assigning
import CleanLaunch.Shell.Extended.Wording
import CleanLaunch.Shell.Redirection

/-! Redirections of the extended language.

    Each is expanded when those before it have been performed. Its target must come to one word; a strict
    shell neither cuts it nor takes it for a pattern. -/

namespace CleanLaunch.Shell

namespace Redirecting

open Shell.Action

/-- The word that the target of a redirection comes to. -/
def target (substitute : Expansion.Substitute) (word : Word) : Action Bytes := do
  let refuse : Action Bytes := failSoftly (Wording.text none word ++ utf8 ": ambiguous redirect")
  if (← get).options.isOn .strict then
    let marks ← Expansion.expand substitute .single word
    let text := Mark.text marks
    if text.isEmpty && !marks.contains .quote then refuse else return text
  else
    match ← Expansion.fields substitute word with
    | [text] => return text
    | _ => refuse

/-- What a redirection asks for. -/
def openings (substitute : Expansion.Substitute) : Redirect → Action (List Opening)
  | .file descriptor kind word => return [.file descriptor kind (← target substitute word)]
  | .copyOf descriptor word => do
    let text ← target substitute word
    let isNumber := !text.isEmpty && text.all Bytes.isDigit
    let number := text.dropLast
    if text.getLast? = some 45 && !number.isEmpty && number.all Bytes.isDigit then
      let n := (Number.digits 10 number).1
      if (← fileOf? n).isNone then failSoftly (Wording.text none word ++ utf8 ": " ++ Errno.EBADF.wording)
      return [.copy descriptor (some n), .copy n none]
    if isNumber && (← fileOf? (Number.digits 10 text).1).isNone then
      failSoftly (Wording.text none word ++ utf8 ": " ++ Errno.EBADF.wording)
    else if isNumber || text = [45] || descriptor = 1 then Opening.ofCopy descriptor text
    else failSoftly (Wording.text none word ++ utf8 ": ambiguous redirect")
  | .copy descriptor (some number) => do
    if (← fileOf? number).isNone then
      failSoftly (Bytes.decimal number ++ utf8 ": " ++ Errno.EBADF.wording)
    else return [.copy descriptor (some number)]
  | redirect => Opening.ofRedirect substitute redirect

/-- The lowest number of the descriptors that variables are given. -/
def firstNamed : Nat := 10

/-- Gives what was opened a new descriptor, whose number the variable gets. It stays when the command is
    done. -/
def bindNew (substitute : Expansion.Substitute) (name : Bytes) (opening : Opening) : Action Unit := do
  let (source, isOwn) : Nat × Bool ← match opening with
    | .copy _ (some number) => pure (number, false)
    | opening => match ← Opening.begin substitute opening with
      | .opened number => pure (number, true)
      | _ => pure (0, false)
  match ← fileOf? source with
  | none => failSoftly (Bytes.decimal source ++ utf8 ": " ++ Errno.EBADF.wording)
  | some file =>
    match ← attach firstNamed file false with
    | none => failSoftly (name ++ utf8 ": " ++ Errno.EMFILE.wording)
    | some number =>
      if isOwn then close source
      let isRefused ← catchFailure (Lists.assign name (Bytes.decimal number))
      if isRefused then
        close number
        failSoftly (name ++ utf8 ": cannot assign fd to variable")

/-- Closes the descriptor whose number a variable has. -/
def closeNamed (name : Bytes) : Action Unit := do
  let text := (← valueOf? name).getD []
  if !text.isEmpty && text.all Bytes.isDigit then close (Number.digits 10 text).1
  else failSoftly (name ++ utf8 ": ambiguous redirect")

/-- Performs redirections in order. `keeps` says that they are noted in the last table. -/
def performAll (substitute : Expansion.Substitute) (keeps : Bool) : List Redirect → Action Unit
  | [] => pure ()
  | .named name redirect :: rest => do
    match ← openings substitute redirect with
    | [.copy _ none] => closeNamed name
    | [.copy own (some number), .copy _ none] =>
      bindNew substitute name (.copy own (some number))
      close number
    | [opening] => bindNew substitute name opening
    | _ => failSoftly (name ++ utf8 ": ambiguous redirect")
    performAll substitute keeps rest
  | redirect :: rest => do
    Opening.performAll substitute keeps (← openings substitute redirect)
    performAll substitute keeps rest

/-- Performs redirections; the status is that of a failure then, if one of them fails, and the result says
    so. -/
def attempt (substitute : Expansion.Substitute) (keeps : Bool) (redirects : List Redirect) :
    Action Bool := do
  let builtin := (← get).builtin
  modify fun state => { state with builtin := none }
  let failed ← catchFailure (performAll substitute keeps redirects)
  modify fun state => { state with builtin }
  if failed then setStatus 1
  return failed

/-- Performs redirections in a process of their own, which ends if one of them fails. -/
def insist (substitute : Expansion.Substitute) (redirects : List Redirect) : Action Unit := do
  if ← attempt substitute false redirects then leave .ended

/-- Runs something with redirections in this process, unless one of them fails; the result says so. They
    are undone afterwards if they are not to stay. -/
def within (substitute : Expansion.Substitute) (stay : Bool) (redirects : List Redirect)
    (action : Action Unit) : Action Bool := do
  if redirects.isEmpty then
    action
    return false
  modify fun state => { state with redirections := [] :: state.redirections }
  let failed ← attempt substitute true redirects
  if !failed then action
  Opening.popTable (stay && !failed)
  return failed

end Redirecting

end CleanLaunch.Shell
