import CleanLaunch.Shell.Extended.Tests

/-! The builtin `test` of the extended language, also known as `[`.

    Up to four words mean what their number and places say; more are read as a condition with operators
    between its parts. What cannot be read is reported, with a status of its own. -/

namespace CleanLaunch.Shell

namespace WordTest

open Shell.Action

/-- Reports what is wrong with a condition and gives it up. -/
def refuse {α : Type} (message : Bytes) : Action α := do
  setStatus 2
  warn message
  let _ ← flush
  leave .failed

def binaryOperators : List Bytes :=
  ["=", "==", "!=", "<", ">", "-eq", "-ne", "-lt", "-le", "-gt", "-ge", "-nt", "-ot", "-ef"].map utf8

def isBinary (word : Bytes) : Bool := binaryOperators.contains word

def isUnary (word : Bytes) : Bool := CommandLine.isUnary (some word)

/-- A number in a comparison. -/
def number (text : Bytes) : Action Int := do
  match Number.ofText? (some 10) text with
  | some value => return value
  | none => refuse (text ++ utf8 ": integer expression expected")

/-- Does a binary operator hold? -/
def binary (first operator second : Bytes) : Action Bool := do
  match Tests.comparison? operator, String.fromUTF8? ⟨operator.toArray⟩ with
  | some holds, _ =>
    let a ← number first
    let b ← number second
    return holds a b
  | none, some "==" => return first == second
  | none, some "-nt" => newer first second
  | none, some "-ot" => newer second first
  | none, _ => Condition.binary first operator second
where
  newer (first second : Bytes) : Action Bool := do
    let state ← get
    let time? (path : Bytes) : Option Int :=
      match state.tree.resolve state.directory true path with
      | .ok ⟨place, some _⟩ => some (state.tree.time place)
      | _ => none
    return match time? first, time? second with
      | some a, some b => b < a
      | some _, none => true
      | none, _ => false

/-- Does a unary operator hold of an operand? -/
def unary (operator operand : Bytes) : Action Bool := Tests.unary operator operand

def isNegation (word : Bytes) : Bool := word = [33]

/-- Does a condition of two words hold? -/
def ofTwo (first second : Bytes) : Action Bool := do
  if isNegation first then return second.isEmpty
  else if first.head? = some 45 && first.length = 2 && isUnary first then unary first second
  else refuse (first ++ utf8 ": unary operator expected")

/-- Does a condition of three words hold? -/
def ofThree (first second third : Bytes) : Action Bool := do
  if isBinary second then binary first second third
  else if second = utf8 "-a" then return !first.isEmpty && !third.isEmpty
  else if second = utf8 "-o" then return !first.isEmpty || !third.isEmpty
  else if isNegation first then return !(← ofTwo second third)
  else if first.head? = some 40 && third.head? = some 41 then return !second.isEmpty
  else refuse (second ++ utf8 ": binary operator expected")

mutual

/-- Conditions joined by `-o`. `after` is what stands behind all the words. -/
def either (after : Bytes) : (bound : Nat) → List Bytes → Action (Bool × List Bytes)
  | 0, words => return (false, words)
  | bound + 1, words => do
    let (value, rest) ← both after bound words
    match rest with
    | word :: more =>
      if word = utf8 "-o" then
        let (other, rest) ← either after bound more
        return (value || other, rest)
      else return (value, rest)
    | [] => return (value, [])

/-- Conditions joined by `-a`. -/
def both (after : Bytes) : (bound : Nat) → List Bytes → Action (Bool × List Bytes)
  | 0, words => return (false, words)
  | bound + 1, words => do
    let (value, rest) ← term after bound words
    match rest with
    | word :: more =>
      if word = utf8 "-a" then
        let (other, rest) ← both after bound more
        return (value && other, rest)
      else return (value, rest)
    | [] => return (value, [])

/-- One condition. -/
def term (after : Bytes) : (bound : Nat) → List Bytes → Action (Bool × List Bytes)
  | 0, words => return (false, words)
  | bound + 1, words => do
    match words with
    | [] => refuse (utf8 "argument expected")
    | first :: rest =>
      if isNegation first then
        let (value, rest) ← term after bound rest
        return (!value, rest)
      else if first = [40] then
        let (value, rest) ← either after bound rest
        match rest with
        | [41] :: rest => return (value, rest)
        | word :: _ => refuse (utf8 "\x60)' expected, found " ++ word)
        | [] =>
          if after.isEmpty then refuse (utf8 "\x60)' expected")
          else refuse (utf8 "\x60)' expected, found " ++ after)
      else match rest with
        | operator :: second :: more =>
          if isBinary operator then return (← binary first operator second, more)
          else if isUnary first then return (← unary first operator, second :: more)
          else return (!first.isEmpty, rest)
        | [operand] =>
          if isUnary first then return (← unary first operand, []) else return (!first.isEmpty, rest)
        | [] => return (!first.isEmpty, [])

end

/-- Does a condition of any number of words hold? -/
def ofMany (after : Bytes) (words : List Bytes) : Action Bool := do
  let (value, rest) ← either after (4 * words.length + 4) words
  match rest with
  | [] => return value
  | word :: _ =>
    if word.head? = some 45 then refuse (utf8 "syntax error: \x60" ++ word ++ utf8 "' unexpected")
    else refuse (utf8 "too many arguments")

/-- Does a condition hold? -/
def holds (after : Bytes) (words : List Bytes) : Action Bool := do
  match words with
  | [] => return false
  | [word] => return !word.isEmpty
  | [first, second] => ofTwo first second
  | [first, second, third] => ofThree first second third
  | [first, second, third, fourth] =>
    if isNegation first then return !(← ofThree second third fourth)
    else if first.head? = some 40 && fourth.head? = some 41 then ofTwo second third
    else ofMany after words
  | words => ofMany after words

/-- Runs a condition. -/
def run (after : Bytes) (words : List Bytes) : Action Nat := do
  try
    return if ← holds after words then 0 else 1
  catch
    | .failed => return 2
    | escape => throw escape

/-- Runs `test`. -/
def test (arguments : List Bytes) : Action Nat := run [] arguments

/-- Runs `[`. -/
def bracket (arguments : List Bytes) : Action Nat := do
  if arguments.getLast? = some [93] then run [93] arguments.dropLast
  else
    warn (utf8 "missing \x60]'")
    return 2

end WordTest

end CleanLaunch.Shell
