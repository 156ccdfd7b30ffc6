import CleanLaunch.Shell.Builtin.Condition
import CleanLaunch.Shell.Utility.Call

/-! The utility `test`, also known as `[`. It is stricter than the builtin: how many words there are decides
    what they are. -/

namespace CleanLaunch.Shell.Utility

open Shell.Action

namespace Conditions

/-- Words still to be read, in their numbers the last word of all. -/
structure Words where
  rest : List Bytes
  last : Bytes

/-- A reader of words, which may fail with a message. -/
abbrev Reader := StateT Words (ExceptT Bytes Action)

def fault {α : Type} (message : Bytes) : Reader α := throw message

def quotedWord (word : Bytes) : Reader Bytes := do
  let state : Shell.State ← StateT.lift (ExceptT.lift get)
  return Quotation.text (hasWideCharacters state) word

/-- There is no word where one is needed. -/
def beyond {α : Type} : Reader α := do
  fault (utf8 "missing argument after " ++ (← quotedWord (← get).last))

def rest : Reader (List Bytes) := return (← get).rest

def skip (count : Nat) : Reader Unit :=
  modify fun words => { words with rest := words.rest.drop count }

/-- Skips a word behind which another one must follow. -/
def skipToNext : Reader Unit := do
  skip 1
  if (← rest).isEmpty then beyond

def isBinary (word : Bytes) : Bool :=
  (["=", "!=", "==", "-nt", "-ot", "-ef", "-eq", "-ne", "-lt", "-le", "-gt", "-ge"].map
    utf8).contains word

def isUnary (word : Bytes) : Bool := word.length = 2 && word.head? == some 45

/-- A word as a whole number. -/
def integer (word : Bytes) : Reader Int := do
  let isSpace (byte : UInt8) : Bool := byte == 32 || byte == 9
  let text := word.dropWhile isSpace
  let isNegative := text.head? == some 45
  let digits := if isNegative || text.head? == some 43 then text.drop 1 else text
  let read := digits.takeWhile Bytes.isDigit
  if read.isEmpty || !(digits.drop read.length).all isSpace then
    fault (utf8 "invalid integer " ++ (← quotedWord word))
  let value := (Number.digits 10 read).1
  return if isNegative then -value else value

/-- Reads the next three words as a binary condition. -/
def binary : Reader Bool := do
  match ← rest with
  | first :: operator :: second :: _ =>
    skip 3
    let compare (holds : Int → Int → Bool) : Reader Bool := do
      let a ← integer first
      let b ← integer second
      return holds a b
    match String.fromUTF8? ⟨operator.toArray⟩ with
    | some "=" | some "==" => return first == second
    | some "-eq" => compare fun a b => a == b
    | some "-ne" => compare fun a b => a != b
    | some "-ge" => compare fun a b => decide (a ≥ b)
    | some "-gt" => compare fun a b => decide (a > b)
    | some "-le" => compare fun a b => decide (a ≤ b)
    | some "-lt" => compare fun a b => decide (a < b)
    | _ =>
      let action : Action Bool := Condition.binary first operator second
      StateT.lift (ExceptT.lift action)
  | _ => beyond

/-- Reads the next two words as a unary condition. -/
def unary : Reader Bool := do
  let word := (← rest).headD []
  let letter := word.getD 1 0
  if !(utf8 "erwxNOGfdsScbpLhugktnz").contains letter then
    fault ((← quotedWord word) ++ utf8 ": unary operator expected")
  skipToNext
  let operand := (← rest).headD []
  skip 1
  if letter == 110 then return !operand.isEmpty
  if letter == 122 then return operand.isEmpty
  if letter == 116 then
    let _ ← integer operand
    return false
  let action : Action Bool := Condition.fileTest letter operand
  StateT.lift (ExceptT.lift action)

/-- Reads one word, which holds if it is not empty. -/
def one : Reader Bool := do
  let word := (← rest).headD []
  skip 1
  return !word.isEmpty

/-- Reads two words. -/
def two : Reader Bool := do
  let word := (← rest).headD []
  if word = [33] then
    skip 1
    return !(← one)
  else if isUnary word then unary
  else beyond

mutual

/-- Conditions joined by `-o`. -/
def disjunction : (bound : Nat) → Reader Bool
  | 0 => return false
  | bound + 1 => do
    let value ← conjunction bound
    if (← rest).head? = some (utf8 "-o") then
      skipToNext
      let other ← disjunction bound
      return value || other
    else return value

/-- Conditions joined by `-a`. -/
def conjunction : (bound : Nat) → Reader Bool
  | 0 => return false
  | bound + 1 => do
    let value ← term bound
    if (← rest).head? = some (utf8 "-a") then
      skipToNext
      let other ← conjunction bound
      return value && other
    else return value

/-- One condition, perhaps negated or in parentheses. -/
def term : (bound : Nat) → Reader Bool
  | 0 => return false
  | bound + 1 => do
    match ← rest with
    | [] => beyond
    | [33] :: _ =>
      skipToNext
      return !(← term bound)
    | [40] :: _ =>
      skipToNext
      let inner := ((← rest).takeWhile (· ≠ [41])).length
      let left := (← rest).length
      let value ← words bound (if inner < 4 then max inner 1 else left)
      match ← rest with
      | [] => fault ((← quotedWord [41]) ++ utf8 " expected")
      | word :: _ =>
        if word ≠ [41] then
          fault ((← quotedWord [41]) ++ utf8 " expected, found " ++ word)
        skip 1
        return value
    | word :: more =>
      if 2 ≤ more.length && isBinary (more.headD []) then binary
      else if isUnary word then unary
      else one

/-- Reads a number of words. -/
def words : (bound : Nat) → (count : Nat) → Reader Bool
  | 0, _ => return false
  | bound + 1, count => do
    let all ← rest
    match count with
    | 0 => return false
    | 1 => one
    | 2 => two
    | 3 => three bound
    | 4 =>
      if all.head? = some [33] then
        skipToNext
        return !(← three bound)
      else if all.head? = some [40] && all[3]? = some [41] then
        skip 1
        let value ← two
        skip 1
        return value
      else disjunction bound
    | _ => disjunction bound

/-- Reads three words. -/
def three : (bound : Nat) → Reader Bool
  | 0 => return false
  | bound + 1 => do
    let all ← rest
    let operator := all.getD 1 []
    if isBinary operator then binary
    else if all.head? = some [33] then
      skipToNext
      return !(← two)
    else if all.head? = some [40] && all[2]? = some [41] then
      skip 1
      let value ← one
      skip 1
      return value
    else if operator = utf8 "-a" || operator = utf8 "-o" then disjunction bound
    else fault ((← quotedWord operator) ++ utf8 ": binary operator expected")

end

/-- Reads all words. -/
def all : Reader Bool := do
  let count := (← rest).length
  let value ← words (4 * count + 8) count
  match ← rest with
  | [] => return value
  | word :: _ => fault (utf8 "extra argument " ++ (← quotedWord word))

end Conditions

/-- Status of `test` if the condition makes no sense. -/
def senseless : Nat := 2

/-- Finds out whether a condition holds. -/
def test (arguments : List Bytes) : Action Nat := do
  match ← (Conditions.all.run ⟨arguments, arguments.getLast?.getD []⟩).run with
  | .ok (true, _) => return 0
  | .ok (false, _) => return 1
  | .error message =>
    complain message
    return senseless

/-- Finds out whether a condition in brackets holds. -/
def bracket (arguments : List Bytes) : Action Nat := do
  if arguments = [utf8 "--help"] || arguments = [utf8 "--version"] then leave .abandoned
  if arguments.getLast? = some [93] then test arguments.dropLast
  else
    complain (utf8 "missing " ++ (← quoted [93]))
    return senseless

end CleanLaunch.Shell.Utility
