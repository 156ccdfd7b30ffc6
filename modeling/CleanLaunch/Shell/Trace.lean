import CleanLaunch.Shell.Process

/-! Showing commands before they run.

    A shell that is asked to shows every command behind a sign, which is the expanded value of a variable.
    While the sign is expanded, nothing is shown. In the extended language, the first byte of the sign is
    repeated for texts of commands inside of others. -/

namespace CleanLaunch.Shell

namespace Trace

open Shell.Action

/-- The sign that commands are shown with. What cannot be expanded stays as it is. -/
def sign (run : Runner) : Action Bytes := do
  let text := (← valueOf? (utf8 "PS4")).getD []
  let state ← get
  let text ← if state.dialect = .extended then Prompt.decoded text else pure text
  let source : Source := {
    rest := text, dialect := state.dialect, aliases := state.aliases, nextText := state.hereTexts.length
    isPushed := state.atTextEnd, token := .endOfFile }
  match CommandLine.quotedText? source with
  | .error error =>
    modify fun state => { state with line := error.line, atTextEnd := false }
    let _ ← catchFailure (fail (utf8 "Syntax error: " ++ error.fault.text))
    return text
  | .ok (word, isPushed) =>
    modify fun state => { state with atTextEnd := isPushed }
    try Expansion.text (Process.substitute run) .here word catch
      | .failed => return text
      | escape => throw escape

/-- The sign with its first byte repeated as the nesting asks for. -/
def repeatedSign (state : State) (sign : Bytes) : Bytes :=
  match state.dialect with
  | .standard => sign
  | .extended => List.replicate (state.extras.traceDepth - 1) (sign.headD 0) ++ sign

/-- Shows a text, if the shell is to do so. -/
def display (run : Runner) (text : Bytes) : Action Unit := do
  let state ← get
  if state.options.isOn .trace && !state.isTracing then
    set { state with isTracing := true }
    let sign ← sign run
    modify fun state => { state with isTracing := false }
    let state ← get
    let _ ← write state.traceDescriptor (repeatedSign state sign ++ text ++ [10])

/-- Runs something whose commands are shown as inside of others. -/
def deeper {α : Type} (action : Action α) : Action α := do
  let move (change : Nat → Nat) : Action Unit :=
    modify fun state => { state with
      extras := { state.extras with traceDepth := change state.extras.traceDepth } }
  move (· + 1)
  andFinally action (move (· - 1))

end Trace

end CleanLaunch.Shell
