import CleanLaunch.Shell.Builtin.Arguments
import CleanLaunch.Shell.Number

/-! The builtin `test`, also known as `[`.

    Its words are read from left to right. Each reader is given the words from the one it is to begin
    with, and gives those from the last one it has read on. -/

namespace CleanLaunch.Shell

namespace Condition

/-- What a word can be in a condition. -/
inductive Kind
  | unary | binary | conjunction | disjunction | negation | opening | closing | operand
  | missing
  deriving DecidableEq

/-- The operator a word names, if it names one. -/
def operator? (word : Bytes) : Option Kind :=
  if (["-r", "-w", "-x", "-e", "-f", "-d", "-c", "-b", "-p", "-u", "-g", "-k", "-s", "-t", "-z",
      "-n", "-h", "-O", "-G", "-L", "-S"].map utf8).contains word then some .unary
  else if (["=", "!=", "<", ">", "-eq", "-ne", "-ge", "-gt", "-le", "-lt", "-nt", "-ot",
      "-ef"].map utf8).contains word then some .binary
  else if word = utf8 "-a" then some .conjunction
  else if word = utf8 "-o" then some .disjunction
  else if word = utf8 "!" then some .negation
  else if word = utf8 "(" then some .opening
  else if word = utf8 ")" then some .closing
  else none

/-- Is a word that looks like a unary operator an operand, for want of one of its own? The words are
    those behind it. -/
def lacksOperand : List Bytes → Bool
  | [] => true
  | [_] => false
  | next :: _ => operator? next = some .binary

/-- What the first of some words is in its place. -/
def kind : List Bytes → Kind
  | [] => .missing
  | word :: rest =>
    match operator? word with
    | some .unary => if lacksOperand rest then .operand else .unary
    | some .opening => if rest.isEmpty then .operand else .opening
    | some other => other
    | none => .operand

def number (text : Bytes) : Action Int := do
  match Number.ofText? (some 10) text with
  | some value => return value
  | none => Action.fail (utf8 "Illegal number: " ++ text)

/-- Bits of a mode beside the permissions. -/
def specialBits (node : Files.Node) : Nat :=
  match node with
  | .file mode _ | .directory mode => mode / 0o1000
  | _ => 0

/-- Is there such a file as a unary operator asks for? -/
def fileTest (letter : UInt8) (path : Bytes) : Action Bool := do
  let state ← get
  if letter == 104 || letter == 76 then
    return match state.tree.readLink state.directory path with
      | .ok _ => true
      | .error _ => false
  else match state.tree.find state.directory path with
    | .error _ => return false
    | .ok node =>
      let isDirectory := match node with
        | .directory _ => true
        | _ => false
      return match Char.ofNat letter.toNat, node with
        | 'e', _ | 'O', _ | 'G', _ => true
        | 'r', node => node.isReadable
        | 'w', node => node.isWritable
        | 'f', node => node.isRegular
        | 'd', _ => isDirectory
        | 'c', .device _ => true
        | 's', .file _ content => !content.isEmpty
        | 's', .program _ => true
        | 's', _ => isDirectory
        | 'x', node => if isDirectory then node.mode &&& 0o100 != 0 else node.isExecutable
        | 'p', .channel _ | 'p', .fifo .. => true
        | 'u', node => specialBits node &&& 4 != 0
        | 'g', node => specialBits node &&& 2 != 0
        | 'k', node => specialBits node &&& 1 != 0
        | _, _ => false

def unary (operator operand : Bytes) : Action Bool := do
  match operator with
  | [45, 122] => return operand.isEmpty
  | [45, 110] => return !operand.isEmpty
  | [45, 116] =>
    let _ ← number operand
    return false
  | _ => fileTest (operator.getD 1 0) operand

def binary (first operator second : Bytes) : Action Bool := do
  let compare (holds : Int → Int → Bool) : Action Bool := do
    let a ← number first
    let b ← number second
    return holds a b
  let state ← get
  let place (path : Bytes) : Option Files.Place :=
    match state.tree.resolve state.directory true path with
    | .ok ⟨place, some _⟩ => some place
    | _ => none
  let times (holds : Int → Int → Bool) : Bool :=
    match place first, place second with
    | some a, some b => holds (state.tree.time a) (state.tree.time b)
    | _, _ => false
  match String.fromUTF8? ⟨operator.toArray⟩ with
  | some "=" => return first == second
  | some "!=" => return first != second
  | some "<" => return decide (first < second)
  | some ">" => return decide (second < first)
  | some "-eq" => compare fun a b => a == b
  | some "-ne" => compare fun a b => a != b
  | some "-ge" => compare fun a b => decide (a ≥ b)
  | some "-gt" => compare fun a b => decide (a > b)
  | some "-le" => compare fun a b => decide (a ≤ b)
  | some "-lt" => compare fun a b => decide (a < b)
  | some "-nt" => return times fun a b => decide (a > b)
  | some "-ot" => return times fun a b => decide (a < b)
  | some "-ef" => return match place first, place second with
    | some a, some b => (state.tree.names a).contains b
    | _, _ => false
  | _ => return false

mutual

/-- Conditions joined by `-o`. -/
def disjunction : (bound : Nat) → Kind → List Bytes → Action (Bool × List Bytes)
  | 0, _, words => return (false, words)
  | bound + 1, first, words => do
    let (value, last) ← conjunction bound first words
    if kind (last.drop 1) = .disjunction then
      let more := last.drop 2
      let (other, last) ← disjunction bound (kind more) more
      return (value || other, last)
    else return (value, last)

/-- Conditions joined by `-a`. -/
def conjunction : (bound : Nat) → Kind → List Bytes → Action (Bool × List Bytes)
  | 0, _, words => return (false, words)
  | bound + 1, first, words => do
    let (value, last) ← negation bound first words
    if kind (last.drop 1) = .conjunction then
      let more := last.drop 2
      let (other, last) ← conjunction bound (kind more) more
      return (value && other, last)
    else return (value, last)

/-- A condition that may be negated. -/
def negation : (bound : Nat) → Kind → List Bytes → Action (Bool × List Bytes)
  | 0, _, words => return (false, words)
  | bound + 1, first, words => do
    if first = .negation then
      let more := words.drop 1
      let next := kind more
      let (value, last) ← negation bound next (if next = .missing then words else more)
      return (!value, last)
    else primary bound first words

/-- One condition. -/
def primary : (bound : Nat) → Kind → List Bytes → Action (Bool × List Bytes)
  | 0, _, words => return (false, words)
  | bound + 1, first, words => do
    match first, words with
    | .missing, _ => return (false, words)
    | .opening, _ =>
      let inner := words.drop 1
      if kind inner = .closing then return (false, inner)
      else
        let (value, last) ← disjunction bound (kind inner) inner
        if kind (last.drop 1) = .closing then return (value, last.drop 1)
        else Action.fail (utf8 "closing paren expected")
    | .unary, operator :: rest =>
      match rest with
      | operand :: _ => return (← unary operator operand, rest)
      | [] => Action.fail (operator ++ utf8 ": argument expected")
    | _, word :: rest =>
      match kind rest, rest with
      | .binary, operator :: operands =>
        match operands with
        | second :: _ => return (← binary word operator second, operands)
        | [] => Action.fail (operator ++ utf8 ": argument expected")
      | _, _ => return (!word.isEmpty, words)
    | _, [] => return (false, [])

end

/-- Do some words hold as a condition? Three words with a binary operator in the middle are what they
    seem; otherwise parentheses around three or four words, or a negation before them, come first. -/
def holds : (bound : Nat) → List Bytes → Action Bool
  | 0, _ => return false
  | bound + 1, words => do
    let general (first : Kind) (words : List Bytes) : Action Bool := do
      let (value, last) ← disjunction (2 * words.length + 8) first words
      match last with
      | word :: _ :: _ => Action.fail (word ++ utf8 ": unexpected operator")
      | _ => return value
    let isCompound := words.length = 3 || words.length = 4
    if words.isEmpty then return false
    else if words.length = 3 && operator? (words.getD 1 []) = some .binary then
      general .operand words
    else if isCompound && words.head? = some (utf8 "(") && words.getLast? = some (utf8 ")") then
      let inner := (words.drop 1).dropLast
      general (kind inner) inner
    else if isCompound && words.head? = some (utf8 "!") then
      return !(← holds bound (words.drop 1))
    else general (kind words) words

/-- Runs `test` on its arguments. -/
def test (arguments : List Bytes) : Action Nat := do
  return if ← holds (arguments.length + 1) arguments then 0 else 1

/-- Runs `[`, whose last argument must begin with `]`. -/
def bracket (arguments : List Bytes) : Action Nat := do
  if (arguments.getLast?.getD []).head? = some 93 then test arguments.dropLast
  else Action.fail (utf8 "missing ]")

end Condition

end CleanLaunch.Shell
