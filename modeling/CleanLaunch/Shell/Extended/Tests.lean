import CleanLaunch.Shell.Builtin.Condition
import CleanLaunch.Shell.Extended.Assigning
import CleanLaunch.Shell.Trace
import CleanLaunch.Shell.Utility.Expression

/-! Conditions in double brackets.

    The words of a condition are expanded as it is evaluated, and only as far as it takes to tell whether it
    holds. A text may be compared with a pattern or searched for a regular expression; quoted bytes stand
    for themselves in both. -/

namespace CleanLaunch.Shell

namespace Tests

open Shell.Action

/-- The bytes of marks, each with whether it was quoted. -/
def quotedBytes : (inQuotes : Bool) → List Mark → List (UInt8 × Bool)
  | _, [] => []
  | inQuotes, .quote :: rest => quotedBytes (!inQuotes) rest
  | inQuotes, .byte value isEscaped :: rest => (value, isEscaped || inQuotes) :: quotedBytes inQuotes rest
  | inQuotes, _ :: rest => quotedBytes inQuotes rest

/-- Marks as a pattern is shown: what was quoted has a backslash before it. -/
def shownPattern (marks : List Mark) : Bytes :=
  (quotedBytes false marks).flatMap fun (byte, isQuoted) => if isQuoted then [92, byte] else [byte]

/-- The regular expression that marks stand for. -/
def expression (marks : List Mark) : Bytes :=
  (quotedBytes false marks).flatMap fun (byte, isQuoted) =>
    if isQuoted && (utf8 "\\^$.[]|()*+?\x7b\x7d").contains byte then [92, byte] else [byte]

/-- Searches a text for a regular expression and keeps what matched, and what each group did. The result is
    missing if the expression is none. -/
def matchExpression (pattern text : Bytes) : Action (Option Bool) := do
  let name := utf8 "BASH_REMATCH"
  let keep (values : List Bytes) : Action Unit := do
    let elements := values.zipIdx.map fun (value, n) => (n, value)
    let entry : Variable := { value? := values.head?, elements := .numbered elements }
    modify fun state => { state with bindings := Variables.put state.bindings name entry }
  let ignoresCase := Expansion.isOn (← get) "nocasematch"
  let wide := (← get).hasWideTexts
  match Expression.parse { extended := true, wide, isStrict := true, allowsClosing := true } pattern with
  | .error _ => return none
  | .ok parsed =>
    match parsed.expression.search? (parsed.look wide ignoresCase) text with
    | none =>
      keep []
      return some false
    | some (first, after) =>
      let whole := (text.drop first.offset).take (after.offset - first.offset)
      let group (n : Nat) : Bytes := (after.groups.lookup (n + 1)).getD []
      keep (whole :: (List.range parsed.groups).map group)
      return some true

/-- Does a unary operator hold of an operand? -/
def unary (operator operand : Bytes) : Action Bool := do
  match Char.ofNat (operator.getD 1 0).toNat with
  | 'z' => return operand.isEmpty
  | 'n' => return !operand.isEmpty
  | 't' => return false
  | 'v' => return (Lists.valueOf? (← get) operand).isSome
  | 'o' =>
    let state ← get
    return (Switch.ofName? .extended operand).any state.options.isOn
  | 'a' => Condition.fileTest 101 operand
  | _ => Condition.fileTest (operator.getD 1 0) operand

/-- A number in a comparison: an expression, where nothing at all is zero. -/
def number (text : Bytes) : Action Int := do
  if text.all Number.isSpace then return 0 else Expansion.evaluate text

/-- How an operator compares numbers. -/
def comparison? (operator : Bytes) : Option (Int → Int → Bool) :=
  match String.fromUTF8? ⟨operator.toArray⟩ with
  | some "-eq" => some fun a b => a == b
  | some "-ne" => some fun a b => a != b
  | some "-lt" => some fun a b => decide (a < b)
  | some "-le" => some fun a b => decide (a ≤ b)
  | some "-gt" => some fun a b => decide (a > b)
  | some "-ge" => some fun a b => decide (a ≥ b)
  | _ => none

/-- Does a binary operator hold? The result is missing if its second operand means nothing. -/
def binary (first operator : Bytes) (second : List Mark) : Action (Option Bool) := do
  let text := Mark.text second
  match comparison? operator, String.fromUTF8? ⟨operator.toArray⟩ with
  | some holds, _ =>
    let a ← number first
    let b ← number text
    return some (holds a b)
  | none, some "=" | none, some "==" =>
    return some (← Expansion.isMatch (Mark.pattern second) first)
  | none, some "!=" => return some (!(← Expansion.isMatch (Mark.pattern second) first))
  | none, some "=~" => matchExpression (expression second) first
  | none, _ => some <$> Condition.binary first operator text

/-- Does a condition hold? `isNegated` says that the opposite is asked for, as it is shown. The result is
    missing if the condition means nothing. -/
def holds (run : Runner) (isNegated : Bool) : Test → Action (Option Bool)
  | .negated test => do return (← holds run (!isNegated) test).map (!·)
  | .both first second => do
    match ← holds run false first with
    | some true => holds run false second
    | other => return other
  | .either first second => do
    match ← holds run false first with
    | some false => holds run false second
    | other => return other
  | .word word => do
    let text ← Expansion.text (Process.substitute run) .single word
    display [utf8 "-n", shownWord text]
    return some !text.isEmpty
  | .unary operator operand => do
    let text ← Expansion.text (Process.substitute run) .single operand
    display [operator, shownWord text]
    some <$> unary operator text
  | .binary first operator second => do
    let text ← Expansion.text (Process.substitute run) .single first
    let marks ← Expansion.expand (Process.substitute run) .single second
    let isPattern := ([utf8 "=", utf8 "==", utf8 "!="]).contains operator
    let shown := if isPattern then shownPattern marks else Mark.text marks
    display [shownWord text, operator, shownWord shown]
    binary text operator marks
where
  shownWord (text : Bytes) : Bytes := if text.isEmpty then utf8 "''" else text
  display (words : List Bytes) : Action Unit :=
    let sign : List Bytes := if isNegated then [utf8 "!"] else []
    Trace.display run (Bytes.joinWith [32] ([utf8 "[["] ++ sign ++ words ++ [utf8 "]]"]))

/-- Runs something as part of a command that messages name, and whose status is 1 if it comes to an
    error. -/
def named (name : String) (action : Action Nat) : Action Unit := do
  let before := (← get).builtin
  modify fun state => { state with builtin := some (utf8 name) }
  let status ← try action catch
    | .failed => pure 1
    | escape => throw escape
  modify fun state => { state with builtin := before, status }

/-- Runs a condition as a command. -/
def run (run : Runner) (test : Test) : Action Unit :=
  named "[[" do
    return match ← holds run false test with
      | some true => 0
      | some false => 1
      | none => 2

/-- The value of an expression in a command. -/
def calculate (run : Runner) (expression : Word) : Action Int := do
  let text ← Expansion.text (Process.substitute run) { tildeFirst := false } expression
  if text.all Number.isSpace then return 0 else Expansion.evaluate text

/-- Runs an expression as a command. -/
def runExpression (run : Runner) (expression : Word) : Action Unit := do
  let text ← Expansion.text (Process.substitute run) { tildeFirst := false } expression
  Trace.display run (utf8 "(( " ++ text ++ utf8 " ))")
  named "((" do return if (← number text) = 0 then 1 else 0

end Tests

end CleanLaunch.Shell
