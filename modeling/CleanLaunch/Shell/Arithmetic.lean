import CleanLaunch.Shell.Number
import CleanLaunch.Shell.Parser

/-! Arithmetic expressions.

    Values are 64-bit signed integers that wrap around. An expression is read and evaluated in one
    pass; the parts that a condition leaves out are read without effect. -/

namespace CleanLaunch.Shell

namespace Arithmetic

/-- Why an expression has no value. -/
inductive Fault
  | expecting (what : String)
  | divisionByZero
  /-- A quotient that does not fit, which kills the process. -/
  | overflow
  /-- A variable holds a text that is not a number. -/
  | illegalNumber (text : Bytes)

/-- An evaluation in progress: the text still to be read, and the variables assigned so far. -/
structure Progress where
  rest : Bytes
  assigned : List (Bytes × Int64) := []

abbrev Evaluator := ExceptT Fault (StateM Progress)

def isSpace (byte : UInt8) : Bool := byte == 32 || byte == 9 || byte == 10

def skipSpace : Evaluator Unit :=
  modify fun progress => { progress with rest := progress.rest.dropWhile isSpace }

/-- The value of a variable; nothing and the empty text count as zero. -/
def variableValue (lookup : Bytes → Option Bytes) (name : Bytes) : Evaluator Int64 := do
  match (← get).assigned.lookup name with
  | some value => return value
  | none =>
    match lookup name with
    | none => return 0
    | some text =>
      match Number.ofText? none text with
      | some value => return Int64.ofInt value
      | none => throw (.illegalNumber text)

def assign (name : Bytes) (value : Int64) : Evaluator Unit :=
  modify fun progress => { progress with assigned := (name, value) :: progress.assigned }

/-- Passes over a text if it comes next. -/
def accept (text : String) : Evaluator Bool := do
  let bytes := utf8 text
  if bytes.isPrefixOf (← get).rest then
    modify fun progress => { progress with rest := progress.rest.drop bytes.length }
    return true
  else return false

def truth (condition : Bool) : Int64 := if condition then 1 else 0

/-- A binary operator with its strength. -/
structure Operator where
  text : String
  strength : Nat
  apply : Int64 → Int64 → Except Fault Int64

def total (apply : Int64 → Int64 → Int64) (a b : Int64) : Except Fault Int64 := .ok (apply a b)

def divide (apply : Int64 → Int64 → Int64) (a b : Int64) : Except Fault Int64 :=
  if b == 0 then .error .divisionByZero
  else if a == Int64.minValue && b == -1 then .error .overflow
  else .ok (apply a b)

/-- The binary operators that evaluate both sides; longer ones before those they begin with. -/
def operators : List Operator :=
  [⟨"<<", 8, total (· <<< ·)⟩, ⟨">>", 8, total (· >>> ·)⟩,
   ⟨"<=", 7, total fun a b => truth (a ≤ b)⟩, ⟨">=", 7, total fun a b => truth (a ≥ b)⟩,
   ⟨"==", 6, total fun a b => truth (a == b)⟩, ⟨"!=", 6, total fun a b => truth (a != b)⟩,
   ⟨"<", 7, total fun a b => truth (a < b)⟩, ⟨">", 7, total fun a b => truth (a > b)⟩,
   ⟨"*", 10, total (· * ·)⟩, ⟨"/", 10, divide (· / ·)⟩, ⟨"%", 10, divide (· % ·)⟩,
   ⟨"+", 9, total (· + ·)⟩, ⟨"-", 9, total (· - ·)⟩,
   ⟨"&", 5, total (· &&& ·)⟩, ⟨"^", 4, total (· ^^^ ·)⟩, ⟨"|", 3, total (· ||| ·)⟩]

/-- The operators that may come with an assignment. -/
def assignable : List String := ["*", "/", "%", "+", "-", "<<", ">>", "&", "^", "|"]

/-- The operator at the head of a text, unless it begins another one: `&&`, `||` or an assignment. -/
def operator? (text : Bytes) : Option Operator :=
  (operators.find? fun operator => (utf8 operator.text).isPrefixOf text).filter fun operator =>
    let after := text.drop (utf8 operator.text).length
    !((operator.text = "&" && after.head? == some 38) ||
      (operator.text = "|" && after.head? == some 124) ||
      (assignable.contains operator.text && after.head? == some 61 && after[1]? != some 61))

/-- The assignment at the head of a text: its operator, if any, and the text after it. -/
def assignment? (text : Bytes) : Option (Option Operator × Bytes) :=
  let compound := operators.find? fun operator =>
    assignable.contains operator.text && (utf8 (operator.text ++ "=")).isPrefixOf text
  match compound, text with
  | some operator, _ => some (some operator, text.drop ((utf8 operator.text).length + 1))
  | none, 61 :: rest => if rest.head? == some 61 then none else some (none, rest)
  | none, _ => none

mutual

/-- An expression with its assignments, the loosest level. -/
def expression (lookup : Bytes → Option Bytes) : (bound : Nat) → (active : Bool) → Evaluator Int64
  | 0, _ => throw (.expecting "primary")
  | bound + 1, active => do
    skipSpace
    let text := (← get).rest
    let name := text.takeWhile Parser.inName
    let after := (text.drop name.length).dropWhile isSpace
    match (if Parser.isName name then assignment? after else none) with
    | some (operator, rest) =>
      modify fun progress => { progress with rest }
      let value ← expression lookup bound active
      let value ← match operator with
        | none => pure value
        | some operator => do
          let old ← if active then variableValue lookup name else pure 0
          if active then MonadExcept.ofExcept (operator.apply old value) else pure 0
      if active then assign name value
      return value
    | none => conditional lookup bound active

/-- A choice between two values. -/
def conditional (lookup : Bytes → Option Bytes) : (bound : Nat) → (active : Bool) → Evaluator Int64
  | 0, _ => throw (.expecting "primary")
  | bound + 1, active => do
    let test ← disjunction lookup bound active
    skipSpace
    if ← accept "?" then
      let yes ← expression lookup bound (active && test != 0)
      skipSpace
      if !(← accept ":") then throw (.expecting "':'")
      let no ← conditional lookup bound (active && test == 0)
      return if test != 0 then yes else no
    else return test

/-- Values joined by `||`. -/
def disjunction (lookup : Bytes → Option Bytes) : (bound : Nat) → (active : Bool) → Evaluator Int64
  | 0, _ => throw (.expecting "primary")
  | bound + 1, active => do
    let first ← conjunction lookup bound active
    skipSpace
    if ← accept "||" then
      let second ← disjunction lookup bound (active && first == 0)
      return truth (first != 0 || second != 0)
    else return first

/-- Values joined by `&&`. -/
def conjunction (lookup : Bytes → Option Bytes) : (bound : Nat) → (active : Bool) → Evaluator Int64
  | 0, _ => throw (.expecting "primary")
  | bound + 1, active => do
    let first ← binary lookup bound active 0 (← unary lookup bound active)
    skipSpace
    if ← accept "&&" then
      let second ← conjunction lookup bound (active && first != 0)
      return truth (first != 0 && second != 0)
    else return first

/-- Continues a value with the binary operators that follow it and bind more tightly than a given
    strength. -/
def binary (lookup : Bytes → Option Bytes) :
    (bound : Nat) → (active : Bool) → (strength : Nat) → Int64 → Evaluator Int64
  | 0, _, _, _ => throw (.expecting "primary")
  | bound + 1, active, strength, first => do
    skipSpace
    match operator? (← get).rest with
    | some operator =>
      if operator.strength ≤ strength then return first
      else
        let _ ← accept operator.text
        let second ← binary lookup bound active operator.strength (← unary lookup bound active)
        let value ← if active then MonadExcept.ofExcept (operator.apply first second) else pure 0
        binary lookup bound active strength value
    | none => return first

/-- A constant, a variable, or an expression in parentheses, with its signs. -/
def unary (lookup : Bytes → Option Bytes) : (bound : Nat) → (active : Bool) → Evaluator Int64
  | 0, _ => throw (.expecting "primary")
  | bound + 1, active => do
    skipSpace
    if ← accept "-" then return 0 - (← unary lookup bound active)
    else if ← accept "+" then unary lookup bound active
    else if ← accept "~" then return ~~~(← unary lookup bound active)
    else if ← accept "!" then return truth ((← unary lookup bound active) == 0)
    else if ← accept "(" then
      let value ← expression lookup bound active
      skipSpace
      if !(← accept ")") then throw (.expecting "')'")
      return value
    else
      let text := (← get).rest
      match (if text.head?.any Bytes.isDigit then Number.read? none text else none) with
      | some read =>
        modify fun progress => { progress with rest := read.rest }
        return Int64.ofInt read.value
      | none =>
        let name := text.takeWhile Parser.inName
        if name.isEmpty then throw (.expecting "primary")
        else
          modify fun progress => { progress with rest := text.drop name.length }
          if active then variableValue lookup name else return 0

end

/-- The value of a whole text, and the variables it assigns in order. A fault does not undo what has been
    assigned before it. -/
def evaluate (lookup : Bytes → Option Bytes) (text : Bytes) :
    Except Fault Int × List (Bytes × Int) :=
  let whole : Evaluator Int64 := do
    let value ← expression lookup (8 * text.length + 16) true
    skipSpace
    if (← get).rest.isEmpty then return value else throw (.expecting "EOF")
  let (value, progress) := whole.run.run { rest := text }
  (value.map (·.toInt), progress.assigned.reverse.map fun (name, value) => (name, value.toInt))

/-- Wording of a fault in a text. -/
def Fault.message (text : Bytes) : Fault → Bytes
  | .expecting what =>
    utf8 "arithmetic expression: expecting " ++ utf8 what ++ utf8 ": \"" ++ text ++ utf8 "\""
  | .divisionByZero | .overflow =>
    utf8 "arithmetic expression: division by zero: \"" ++ text ++ utf8 "\""
  | .illegalNumber number => utf8 "Illegal number: " ++ number

end Arithmetic

end CleanLaunch.Shell
