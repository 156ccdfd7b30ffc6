import CleanLaunch.Shell.Number
import CleanLaunch.Shell.Parser
import CleanLaunch.Shell.RandomNumbers

/-! Arithmetic expressions of the extended language.

    Values are 64-bit signed integers that wrap around. An expression is read token by token and evaluated
    in the same pass. The value of a variable is an expression of its own. A fault tells which
    expression it is in and where its last token began, as messages show both. -/

namespace CleanLaunch.Shell

namespace Calculation

/-- A token of an expression. -/
inductive Token
  | ending
  | number
  /-- A variable, perhaps with a subscript. -/
  | reference
  /-- An operator that assigns after it has been applied. -/
  | assignment (operator : String)
  | operator (text : String)
  | before (step : Int64)
  | after (step : Int64)
  deriving DecidableEq

/-- Why an expression has no value. -/
structure Fault where
  expression : Bytes
  problem : String
  /-- The text from the last token on. -/
  token : Bytes
  /-- The variable that has no value, if that is what is wrong. -/
  unset? : Option Bytes := none

/-- What is said of a fault. -/
def Fault.message (fault : Fault) : Bytes :=
  fault.expression.dropWhile Number.isSpace ++ utf8 ": " ++ utf8 fault.problem ++
    utf8 " (error token is \"" ++ fault.token ++ utf8 "\")"

/-- An evaluation in progress. -/
structure Progress where
  expression : Bytes
  /-- The text behind the current token, and from the last token on that was none of the end. -/
  rest : Bytes
  lastText : Bytes := []
  current : Token := .ending
  last : Token := .ending
  /-- The variable that was read last, and the value of the current token. -/
  name : Option Bytes := none
  value : Int64 := 0
  /-- How many conditions leave out what is being read. -/
  idle : Nat := 0
  assigned : List (Bytes × Int64) := []
  random : RandomNumbers

abbrev Evaluator := ExceptT Fault (StateM Progress)

/-- What variables are worth. -/
structure Values where
  /-- The text of a variable or element. -/
  value? : Bytes → Option Bytes
  /-- Has a variable elements under names? Then subscripts are no expressions. -/
  isNamed : Bytes → Bool
  /-- Must a variable have a value? -/
  refusesUnset : Bool
  /-- The name that stands for a new random number each time. -/
  drawsFor? : Option Bytes

def fail {α : Type} (problem : String) : Evaluator α := do
  let progress ← get
  throw { expression := progress.expression, problem, token := progress.lastText }

/-- Stops at a token that begins with some text. -/
def failAt {α : Type} (text : Bytes) (problem : String) : Evaluator α := do
  throw { expression := (← get).expression, problem, token := text.dropWhile Number.isSpace }

/-- Value of a digit in a base up to 64: capital letters follow the small ones if the base needs
    them. -/
def digitIn (base : Nat) (byte : UInt8) : Option Nat :=
  if Bytes.isDigit byte then some (Bytes.digitValue byte)
  else if 97 ≤ byte && byte ≤ 122 then some (byte.toNat - 87)
  else if 65 ≤ byte && byte ≤ 90 then some (if base ≤ 36 then byte.toNat - 55 else byte.toNat - 29)
  else if byte == 64 then some 62
  else if byte == 95 then some 63
  else none

/-- A constant from its text: after `0x` hexadecimal, after `0` octal, in another base after its number
    and a `#`. -/
def constant (text : Bytes) : Evaluator Int64 := do
  let read (base : Nat) (digits : Bytes) : Evaluator Int64 :=
    digits.foldlM (fun value byte => do
      match digitIn base byte with
      | some digit =>
        if digit < base then return value * Int64.ofNat base + Int64.ofNat digit
        else fail "value too great for base"
      | none => fail "invalid number") 0
  let head := text.takeWhile (· != 35)
  match text.drop head.length with
  | _ :: digits =>
    if head.head? == some 48 then fail "invalid number"
    else
      let base := (Number.digits 10 head).1
      if !head.all Bytes.isDigit then fail "invalid number"
      else if base < 2 || 64 < base then fail "invalid arithmetic base"
      else if digits.isEmpty then fail "invalid integer constant"
      else if digits.contains 35 then fail "invalid number"
      else read base digits
  | [] =>
    match text with
    | 48 :: letter :: digits =>
      if letter == 120 || letter == 88 then read 16 digits else read 8 (letter :: digits)
    | _ => read 10 text

/-- The length of a subscript behind its opening bracket, with its closing one. -/
def subscriptLength? : (depth : Nat) → Bytes → Option Nat
  | _, [] => none
  | depth, byte :: rest =>
    if byte == 93 && depth = 0 then some 1
    else
      let depth := if byte == 91 then depth + 1 else if byte == 93 then depth - 1 else depth
      (subscriptLength? depth rest).map (· + 1)

/-- Operators of one and of two bytes. -/
def singles : List String :=
  ["=", ">", "<", "+", "-", "*", "/", "%", "!", "(", ")", "&", "|", "^", "~", "?", ":", ","]

def doubles : List String := ["==", "!=", ">=", "<=", "<<", ">>", "&&", "||", "**"]

/-- Operators that may come with an assignment. -/
def assignable : List String := ["<<", ">>", "*", "/", "%", "+", "-", "&", "^", "|"]

/-- The operator at the head of a text, and the text behind it. `afterReference` says that the token
    before is a variable. -/
def operator? (afterReference : Bool) (text : Bytes) : Option (Token × Bytes) :=
  let written (all : List String) (suffix : String) : Option (String × Bytes) :=
    all.findSome? fun operator =>
      let bytes := utf8 (operator ++ suffix)
      if bytes.isPrefixOf text then some (operator, text.drop bytes.length) else none
  let step? : Option Int64 := match text with
    | 43 :: 43 :: _ => some 1
    | 45 :: 45 :: _ => some (-1)
    | _ => none
  let plain : Option (Token × Bytes) :=
    ((written doubles "").or (written singles "")).map fun (operator, rest) => (.operator operator, rest)
  match step?, (written ["<<", ">>"] "=").or ((if (written doubles "").isSome then none else
      written assignable "=")) with
  | some step, _ =>
    let rest := text.drop 2
    if afterReference then some (.after step, rest)
    else if (rest.dropWhile Number.isSpace).head?.any Parser.startsName then some (.before step, rest)
    else plain
  | none, some (operator, rest) => some (.assignment operator, rest)
  | none, none => plain

/-- How deeply the values of variables are followed. -/
def maxDepth : Nat := 1024

/-- Passes on to the next token. `evaluate` gives the value of an expression of its own; the value of a
    variable is not asked for if it is to be assigned. -/
def advance (values : Values) (evaluate : Bytes → Evaluator Int64) : Evaluator Unit := do
  let progress ← get
  let text := progress.rest.dropWhile Number.isSpace
  match text with
  | [] => set { progress with rest := [], last := progress.current, current := .ending }
  | first :: _ =>
    set { progress with lastText := text }
    let become (current : Token) (rest : Bytes) : Evaluator Unit :=
      modify fun progress => { progress with rest, last := progress.current, current }
    if Parser.startsName first then
      let name := text.takeWhile Parser.inName
      let behind := text.drop name.length
      let length? := match behind with
        | 91 :: inside => (subscriptLength? 0 inside).map (· + 1)
        | _ => some 0
      match length? with
      | none => fail "bad array subscript"
      | some length =>
        let rest := behind.drop length
        let reference ← do
          if length = 0 then pure name
          else
            let index := (behind.take length).drop 1 |>.dropLast
            if progress.idle ≠ 0 then pure name
            else if values.isNamed name then pure (name ++ 91 :: index ++ [93])
            else pure (name ++ 91 :: Number.text (← evaluate index).toInt ++ [93])
        let isAssigned := match operator? true (rest.dropWhile Number.isSpace) with
          | some (.operator "=", _) => true
          | _ => false
        let value ←
          if isAssigned || progress.idle ≠ 0 then pure 0
          else match (← get).assigned.lookup reference with
            | some value => pure value
            | none =>
              if values.drawsFor? = some reference then
                modify fun progress => { progress with random := progress.random.draw }
                pure (Int64.ofNat (← get).random.last)
              else match values.value? reference with
                | some text => evaluate text
                | none =>
                  if values.refusesUnset then
                    throw { expression := [], problem := "", token := [], unset? := some reference }
                  else pure 0
        modify fun progress => { progress with name := some reference, value }
        become .reference rest
    else if Bytes.isDigit first then
      let isDigit (byte : UInt8) : Bool := Parser.inName byte || byte == 35 || byte == 64
      let digits := text.takeWhile isDigit
      let value ← constant digits
      modify fun progress => { progress with value }
      become .number (text.drop digits.length)
    else match operator? (progress.current = .reference) text with
      | some (token, rest) => become token rest
      | none =>
        let expectsOperand := match progress.current with
          | .number | .reference | .after _ => false
          | _ => true
        fail (if expectsOperand then "syntax error: operand expected"
          else "syntax error: invalid arithmetic operator")

/-- A value to some power, which has at most `bits` binary digits. -/
def power : (bits : Nat) → (value : Int64) → (exponent : Nat) → Int64
  | 0, _, _ => 1
  | bits + 1, value, exponent =>
    let rest := power bits (value * value) (exponent / 2)
    if exponent % 2 = 1 then rest * value else rest

def truth (condition : Bool) : Int64 := if condition then 1 else 0

/-- The binary operators that evaluate both sides, by their strength, the weakest first. -/
def strengths : List (List String) :=
  [["|"], ["^"], ["&"], ["==", "!="], ["<", ">", "<=", ">="], ["<<", ">>"], ["+", "-"],
   ["*", "/", "%"]]

/-- Applies a binary operator. A divisor of zero has been refused by then. -/
def apply (operator : String) (a b : Int64) : Int64 :=
  match operator with
  | "|" => a ||| b
  | "^" => a ^^^ b
  | "&" => a &&& b
  | "==" => truth (a == b)
  | "!=" => truth (a != b)
  | "<" => truth (a < b)
  | ">" => truth (a > b)
  | "<=" => truth (a ≤ b)
  | ">=" => truth (a ≥ b)
  | "<<" => a <<< b
  | ">>" => a >>> b
  | "+" => a + b
  | "-" => a - b
  | "*" => a * b
  | "/" => a / b
  | _ => a % b

/-- Assigns a value unless it is left out. -/
def assign (name : Bytes) (value : Int64) : Evaluator Unit :=
  modify fun progress =>
    if progress.idle = 0 then { progress with assigned := (name, value) :: progress.assigned }
    else progress

/-- Reads something that a condition may leave out. -/
def idleIf {α : Type} (condition : Bool) (body : Evaluator α) : Evaluator α := do
  let count := if condition then 1 else 0
  modify fun progress => { progress with idle := progress.idle + count }
  let result ← body
  modify fun progress => { progress with idle := progress.idle - count }
  return result

mutual

/-- The value of a text that is an expression of its own. -/
def whole (values : Values) : (bound : Nat) → Bytes → Evaluator Int64
  | 0, _ => fail "expression recursion level exceeded"
  | bound + 1, text => do
    if text.all Number.isSpace then return 0
    else
      let before ← get
      set { before with
        expression := text, rest := text, lastText := [], current := .ending, last := .ending }
      step values bound
      let value ← comma values bound
      let after ← get
      if after.current ≠ .ending then fail "syntax error in expression"
      set { before with assigned := after.assigned }
      return value

/-- Passes on to the next token. -/
def step (values : Values) : (bound : Nat) → Evaluator Unit
  | 0 => fail "expression recursion level exceeded"
  | bound + 1 => advance values (whole values bound)

/-- Expressions with commas between them; the last value counts. -/
def comma (values : Values) : (bound : Nat) → Evaluator Int64
  | 0 => fail "expression recursion level exceeded"
  | bound + 1 => do
    let value ← assignment values bound
    if (← get).current = .operator "," then
      step values bound
      comma values bound
    else return value

/-- An assignment, or a value. -/
def assignment (values : Values) : (bound : Nat) → Evaluator Int64
  | 0 => fail "expression recursion level exceeded"
  | bound + 1 => do
    let old ← conditional values bound
    let progress ← get
    let operator? : Option (Option String) := match progress.current with
      | .operator "=" => some none
      | .assignment operator => some (some operator)
      | _ => none
    match operator? with
    | none => return old
    | some operator =>
      match progress.last, progress.name with
      | .reference, some name =>
        let text := progress.rest
        step values bound
        let value ← assignment values bound
        let isDivision := operator = some "/" || operator = some "%"
        let isIdle := (← get).idle ≠ 0
        if isDivision && value == 0 && !isIdle then failAt text "division by 0"
        let value := match operator with
          | none => value
          | some operator => if isDivision && value == 0 then 0 else apply operator old value
        assign name value
        return value
      | _, _ => fail "attempted assignment to non-variable"

/-- A choice between two values. -/
def conditional (values : Values) : (bound : Nat) → Evaluator Int64
  | 0 => fail "expression recursion level exceeded"
  | bound + 1 => do
    let test ← disjunction values bound
    if (← get).current ≠ .operator "?" then return test
    else
      let yes ← idleIf (test == 0) do
        step values bound
        let current := (← get).current
        if current = .ending || current = .operator ":" then fail "expression expected"
        comma values bound
      if (← get).current ≠ .operator ":" then fail "\x60:' expected for conditional expression"
      let no ← idleIf (test != 0) do
        step values bound
        if (← get).current = .ending then fail "expression expected"
        conditional values bound
      modify fun progress => { progress with last := .operator "?" }
      return if test != 0 then yes else no

/-- Values joined by `||`. -/
def disjunction (values : Values) : (bound : Nat) → Evaluator Int64
  | 0 => fail "expression recursion level exceeded"
  | bound + 1 => do
    let first ← conjunction values bound
    disjunctionFrom values bound first

def disjunctionFrom (values : Values) : (bound : Nat) → Int64 → Evaluator Int64
  | 0, _ => fail "expression recursion level exceeded"
  | bound + 1, first => do
    if (← get).current ≠ .operator "||" then return first
    else
      let second ← idleIf (first != 0) do
        step values bound
        conjunction values bound
      modify fun progress => { progress with last := .operator "||" }
      disjunctionFrom values bound (truth (first != 0 || second != 0))

/-- Values joined by `&&`. -/
def conjunction (values : Values) : (bound : Nat) → Evaluator Int64
  | 0 => fail "expression recursion level exceeded"
  | bound + 1 => do
    let first ← binary values bound strengths
    conjunctionFrom values bound first

def conjunctionFrom (values : Values) : (bound : Nat) → Int64 → Evaluator Int64
  | 0, _ => fail "expression recursion level exceeded"
  | bound + 1, first => do
    if (← get).current ≠ .operator "&&" then return first
    else
      let second ← idleIf (first == 0) do
        step values bound
        binary values bound strengths
      modify fun progress => { progress with last := .operator "&&" }
      conjunctionFrom values bound (truth (first != 0 && second != 0))

/-- A value of binary operators of some strengths. -/
def binary (values : Values) : (bound : Nat) → List (List String) → Evaluator Int64
  | 0, _ => fail "expression recursion level exceeded"
  | bound + 1, [] => raised values bound
  | bound + 1, level :: stronger => do
    let first ← binary values bound stronger
    binaryFrom values bound level stronger first

def binaryFrom (values : Values) :
    (bound : Nat) → List String → List (List String) → Int64 → Evaluator Int64
  | 0, _, _, _ => fail "expression recursion level exceeded"
  | bound + 1, level, stronger, first => do
    match (← get).current with
    | .operator operator =>
      if !level.contains operator then return first
      else
        let text := (← get).rest
        step values bound
        let second ← binary values bound stronger
        let isDivision := operator = "/" || operator = "%"
        let isIdle := (← get).idle ≠ 0
        if isDivision && second == 0 && !isIdle then failAt text "division by 0"
        let value := if isDivision && second == 0 then 0 else apply operator first second
        modify fun progress => { progress with last := .number }
        binaryFrom values bound level stronger value
    | _ => return first

/-- A value raised to a power, from right to left. -/
def raised (values : Values) : (bound : Nat) → Evaluator Int64
  | 0 => fail "expression recursion level exceeded"
  | bound + 1 => do
    let first ← signed values bound
    if (← get).current ≠ .operator "**" then return first
    else
      step values bound
      let second ← raised values bound
      modify fun progress => { progress with last := .number }
      if second < 0 then fail "exponent less than 0"
      return power 64 first second.toInt.toNat

/-- A value with its signs. -/
def signed (values : Values) : (bound : Nat) → Evaluator Int64
  | 0 => fail "expression recursion level exceeded"
  | bound + 1 => do
    let sign (apply : Int64 → Int64) : Evaluator Int64 := do
      step values bound
      let value ← signed values bound
      modify fun progress => { progress with last := .number }
      return apply value
    match (← get).current with
    | .operator "!" => sign fun value => truth (value == 0)
    | .operator "~" => sign (~~~·)
    | .operator "-" => sign (0 - ·)
    | .operator "+" => sign fun value => value
    | _ => primary values bound

/-- A constant, a variable with its steps, or an expression in parentheses. -/
def primary (values : Values) : (bound : Nat) → Evaluator Int64
  | 0 => fail "expression recursion level exceeded"
  | bound + 1 => do
    let progress ← get
    match progress.current with
    | .before change =>
      modify fun progress => { progress with last := .before change }
      step values bound
      let after ← get
      match after.current, after.name with
      | .reference, some name =>
        let value := after.value + change
        assign name value
        modify fun progress => { progress with current := .number }
        step values bound
        return value
      | _, _ => fail "identifier expected after pre-increment or pre-decrement"
    | .operator "(" =>
      step values bound
      let value ← comma values bound
      if (← get).current ≠ .operator ")" then fail "missing \x60)'"
      step values bound
      return value
    | .number =>
      step values bound
      return progress.value
    | .reference =>
      let value := progress.value
      step values bound
      match (← get).current, progress.name with
      | .after change, some name =>
        assign name (value + change)
        modify fun progress => { progress with current := .number }
        step values bound
        return value
      | _, _ =>
        modify fun after => { after with name := progress.name }
        return value
    | _ => fail "syntax error: operand expected"

end

/-- The value of a whole text, and how far its evaluation came. A fault does not undo what has been assigned
    before it. -/
def evaluate (values : Values) (random : RandomNumbers) (text : Bytes) : Except Fault Int × Progress :=
  let (value, progress) :=
    (whole values (40 * text.length + 100000) text).run.run { expression := text, rest := text, random }
  (value.map (·.toInt), progress)

end Calculation

end CleanLaunch.Shell
