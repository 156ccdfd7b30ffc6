import CleanLaunch.Shell.Number
import CleanLaunch.Shell.Utility.Call
import CleanLaunch.Shell.Utility.Expression

/-! The utility `expr`, which evaluates an expression of several words. -/

namespace CleanLaunch.Shell.Utility

open Shell.Action

namespace Expressions

/-- Words still to be read, and the last one that was. -/
structure Words where
  rest : List Bytes
  before : Bytes := []
  quote : Bytes → Bytes
  /-- May characters have several bytes? -/
  wide : Bool := false
  /-- Is the value of no interest, so that nothing can be wrong with it? -/
  isIdle : Bool := false

/-- Why an expression has no value: it is none, or a value does not fit. -/
inductive Fault
  | message (text : Bytes)
  | missingOperand

abbrev Reader := StateT Words (Except Fault)

def fault {α : Type} (text : Bytes) : Reader α := throw (.message text)

/-- A text as a whole number, if it is one. -/
def integer? (text : Bytes) : Option Int :=
  let isNegative := text.head? == some 45
  let digits := if isNegative then text.drop 1 else text
  (natural? digits).map fun n => if isNegative then -(n : Int) else n

/-- Is a text neither empty nor zero? -/
def isTrue (text : Bytes) : Bool :=
  let digits := if text.head? == some 45 then text.drop 1 else text
  !(text.isEmpty || (!digits.isEmpty && digits.all (· == 48)))

def truth (value : Bool) : Bytes := if value then [49] else [48]

/-- Takes the next word if it is a certain one. -/
def accept (word : String) : Reader Bool := do
  let words ← get
  match words.rest with
  | next :: rest =>
    if next = utf8 word then
      set { words with rest, before := next }
      return true
    else return false
  | [] => return false

/-- There must be another word. -/
def requireMore : Reader Unit := do
  let words ← get
  if words.rest.isEmpty then
    fault (utf8 "syntax error: missing argument after " ++ words.quote words.before)

/-- The match of a pattern at the head of a text: the first group if there is one, else the length. -/
def matched (text pattern : Bytes) : Reader Bytes := do
  let words ← get
  if words.isIdle then return []
  let wide := words.wide
  match Expression.parse { wide, allowsEmptyRanges := true } pattern with
  | .error problem => fault (utf8 problem)
  | .ok parsed =>
    match parsed.expression.matchAt? (parsed.look wide false) (.start text) with
    | some place =>
      return if parsed.groups = 0 then Bytes.decimal (Character.count wide (text.take place.offset))
        else (place.groups.lookup 1).getD []
    | none => return if parsed.groups = 0 then [48] else []

/-- An operator between two values. -/
structure Operator where
  sign : String
  apply : Bytes → Bytes → Reader Bytes
  /-- Is the second value of no interest, given the first one? -/
  isDecided : Bytes → Bool := fun _ => false

/-- Evaluates operands joined by operators of one rank, from the left. -/
def joined (operand : Reader Bytes) (operators : List Operator) : (bound : Nat) → Bytes → Reader Bytes
  | 0, value => return value
  | bound + 1, value => do
    match ← operators.findM? fun operator => accept operator.sign with
    | none => return value
    | some operator =>
      requireMore
      let isIdle := (← get).isIdle
      modify fun words => { words with isIdle := isIdle || operator.isDecided value }
      let other ← operand
      modify fun words => { words with isIdle }
      joined operand operators bound (← operator.apply value other)

/-- Applies an operation on whole numbers. -/
def arithmetic (apply : Int → Int → Reader Int) (a b : Bytes) : Reader Bytes := do
  if (← get).isIdle then return [48]
  match integer? a, integer? b with
  | some a, some b => return Number.text (← apply a b)
  | _, _ => fault (utf8 "non-integer argument")

/-- Compares two values, as numbers if both are. -/
def comparison (holds : Ordering → Bool) (a b : Bytes) : Reader Bytes :=
  return truth (holds (match integer? a, integer? b with
    | some a, some b => compare a b
    | _, _ => if a < b then .lt else if b < a then .gt else .eq))

def divide (apply : Int → Int → Int) (a b : Int) : Reader Int := do
  if b = 0 then fault (utf8 "division by zero")
  return apply a b

def products : List Operator :=
  [{ sign := "*", apply := arithmetic fun a b => return a * b }, { sign := "/", apply := arithmetic (divide Int.tdiv) },
   { sign := "%", apply := arithmetic (divide Int.tmod) }]

def sums : List Operator :=
  [{ sign := "+", apply := arithmetic fun a b => return a + b }, { sign := "-", apply := arithmetic fun a b => return a - b }]

def comparisons : List Operator :=
  let all : List (String × (Ordering → Bool)) :=
    [("<=", (·.isLE)), ("<", (·.isLT)), ("=", (·.isEq)), ("==", (·.isEq)), ("!=", (·.isNe)),
     (">=", (·.isGE)), (">", (·.isGT))]
  all.map fun (sign, holds) => { sign, apply := comparison holds }

/-- The operators of a rank, the loosest one being 0. -/
def operators (rank : Nat) : List Operator :=
  match rank with
  | 0 => [⟨"|", fun a b => return if isTrue a then a else if isTrue b then b else [48], isTrue⟩]
  | 1 => [⟨"&", fun a b => return if isTrue a && isTrue b then a else [48], fun a => !isTrue a⟩]
  | 2 => comparisons
  | 3 => sums
  | 4 => products
  | _ => [{ sign := ":", apply := matched }]

/-- The characters of a text. -/
def charactersOf (text : Bytes) : Reader (List Bytes) :=
  return Character.pieces (← get).wide text

mutual

/-- An expression of one of the ranks, the loosest one being 0. -/
def ranked : (bound : Nat) → (rank : Nat) → Reader Bytes
  | 0, _ => return []
  | bound + 1, rank => do
    let operand : Reader Bytes := if rank < 5 then ranked bound (rank + 1) else special bound
    let first ← operand
    joined operand (operators rank) (bound + 1) first

/-- A word that begins an operation of its own, or a value. -/
def special : (bound : Nat) → Reader Bytes
  | 0 => return []
  | bound + 1 => do
    requireMore
    if ← accept "+" then
      requireMore
      word
    else if ← accept "length" then
      let text ← special bound
      return Bytes.decimal (← charactersOf text).length
    else if ← accept "match" then
      let text ← special bound
      let pattern ← special bound
      matched text pattern
    else if ← accept "index" then
      let text ← special bound
      let set ← special bound
      let wanted ← charactersOf set
      return Bytes.decimal (((← charactersOf text).findIdx? wanted.contains).elim 0 (· + 1))
    else if ← accept "substr" then
      let text ← special bound
      let position := integer? (← special bound)
      let length := integer? (← special bound)
      match position, length with
      | some position, some length =>
        let characters ← charactersOf text
        return if position ≤ 0 then [] else
          ((characters.drop (position.toNat - 1)).take length.toNat).flatten
      | _, _ => return []
    else value bound

/-- A word, or an expression in parentheses. -/
def value : (bound : Nat) → Reader Bytes
  | 0 => return []
  | bound + 1 => do
    if ← accept "(" then
      requireMore
      let inner ← ranked bound 0
      let words ← get
      match words.rest with
      | [] => fault (utf8 "syntax error: expecting ')' after " ++ words.quote words.before)
      | next :: _ =>
        if ← accept ")" then return inner
        else fault (utf8 "syntax error: expecting ')' instead of " ++ words.quote next)
    else if ← accept ")" then fault (utf8 "syntax error: unexpected ')'")
    else word

/-- The next word as it is. -/
def word : Reader Bytes := do
  let words ← get
  match words.rest with
  | [] => return []
  | next :: rest =>
    set { words with rest, before := next }
    return next

end

/-- The value of an expression. -/
def evaluate : Reader Bytes := do
  let words ← get
  if words.rest.isEmpty then throw .missingOperand
  let result ← ranked (16 * words.rest.length + 32) 0
  let words ← get
  match words.rest with
  | [] => return result
  | next :: _ => fault (utf8 "syntax error: unexpected argument " ++ words.quote next)

end Expressions

/-- Evaluates an expression. -/
def expr (arguments : List Bytes) : Action Nat := do
  if arguments = [utf8 "--help"] || arguments = [utf8 "--version"] then leave .abandoned
  let rest := if arguments.head? = some [45, 45] then arguments.drop 1 else arguments
  let wide := hasWideCharacters (← get)
  match Expressions.evaluate.run { rest, quote := Quotation.text wide, wide } with
  | .ok (result, _) =>
    print (result ++ [10])
    finish (if Expressions.isTrue result then 0 else 1) 3
  | .error .missingOperand => refuse 2 (utf8 "missing operand")
  | .error (.message text) =>
    complain text
    return 2

end CleanLaunch.Shell.Utility
