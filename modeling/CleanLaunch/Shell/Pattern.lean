import CleanLaunch.Bytes

/-! Shell patterns.

    A pattern is a text in which `*` stands for any text, `?` for any byte, and `[...]` for one byte
    of a set; everything else stands for itself, and so does whatever follows a backslash. -/

namespace CleanLaunch.Shell

namespace Pattern

/-- The named classes of bytes. -/
def classes : List (String × (Nat → Bool)) :=
  let isIn (low high n : Nat) : Bool := low ≤ n && n ≤ high
  let digit := isIn 48 57
  let lower := isIn 97 122
  let upper := isIn 65 90
  let alnum (n : Nat) : Bool := digit n || lower n || upper n
  let graph := isIn 33 126
  [("alnum", alnum), ("cntrl", fun n => isIn 0 31 n || n == 127), ("lower", lower),
   ("space", fun n => isIn 9 13 n || n == 32), ("alpha", fun n => lower n || upper n),
   ("digit", digit), ("print", isIn 32 126), ("upper", upper),
   ("blank", fun n => n == 32 || n == 9), ("graph", graph),
   ("punct", fun n => graph n && !alnum n),
   ("xdigit", fun n => digit n || isIn 65 70 n || isIn 97 102 n)]

/-- The named class at the head of a text, its opening bracket already passed, and what follows it. -/
def class? (text : Bytes) : Option ((Nat → Bool) × Bytes) :=
  classes.findSome? fun (name, isIn) =>
    let written := utf8 (":" ++ name ++ ":]")
    if written.isPrefixOf text then some (isIn, text.drop written.length) else none

/-- Order of bytes in ranges: those with the highest bit come first. -/
def rank (byte : UInt8) : Nat := (byte.toNat + 128) % 256

/-- Does a set hold a byte? The set begins behind its opening bracket and any negation; its first
    byte belongs to it. The second part is the pattern behind the set; there is none if the set has
    no end. -/
def setHolds (byte : UInt8) : (bound : Nat) → (found : Bool) → Bytes → Option (Bool × Bytes)
  | 0, _, _ => none
  | _, _, [] => none
  | bound + 1, found, first :: rest =>
    let goOn (found : Bool) (rest : Bytes) : Option (Bool × Bytes) :=
      match rest with
      | 93 :: after => some (found, after)
      | _ => setHolds byte bound found rest
    match if first == 91 then class? rest else none with
    | some (isIn, after) => goOn (found || isIn byte.toNat) after
    | none =>
      let escaped := first == 92
      let low := if escaped then rest.headD 0 else first
      let rest := if escaped then rest.drop 1 else rest
      match rest with
      | 45 :: next :: more =>
        if next == 93 then goOn (found || byte == low) rest
        else
          let high := if next == 92 then more.headD 0 else next
          let more := if next == 92 then more.drop 1 else more
          goOn (found || (rank low ≤ rank byte && rank byte ≤ rank high)) more
      | _ => goOn (found || byte == low) rest

/-- Does a pattern match all of a text? -/
def matchesFrom : (bound : Nat) → (pattern text : Bytes) → Bool
  | 0, _, _ => false
  | _, [], text => text.isEmpty
  | bound + 1, first :: pattern, text =>
    if first == 42 then
      matchesFrom bound pattern text ||
        (match text with
          | [] => false
          | _ :: rest => matchesFrom bound (first :: pattern) rest)
    else match text with
      | [] => false
      | byte :: rest =>
        if first == 63 then matchesFrom bound pattern rest
        else if first == 92 && !pattern.isEmpty then
          pattern.headD 0 == byte && matchesFrom bound (pattern.drop 1) rest
        else
          let isNegated := pattern.head? == some 33
          let members := if isNegated then pattern.drop 1 else pattern
          match if first == 91 then setHolds byte (members.length + 1) false members else none with
          | some (holds, after) => holds != isNegated && matchesFrom bound after rest
          | none => first == byte && matchesFrom bound pattern rest

/-- Does a pattern match a text up to its first NUL? -/
def isMatch (pattern text : Bytes) : Bool :=
  matchesFrom (pattern.length + text.length + 1) pattern text.beforeNul

/-- How many bytes at the start of a text the pattern takes, at most or at least. -/
def startLength? (longest : Bool) (pattern text : Bytes) : Option Nat :=
  let lengths := if longest then (List.range (text.length + 1)).reverse
    else List.range (text.beforeNul.length + 1)
  lengths.find? fun n => isMatch pattern (text.take n)

/-- Where the part at the end of a text begins that the pattern takes, the longest or the
    shortest one. -/
def endStart? (longest : Bool) (pattern text : Bytes) : Option Nat :=
  let starts := if longest then List.range (text.beforeNul.length + 1)
    else (List.range (text.length + 1)).reverse
  starts.find? fun n => isMatch pattern (text.drop n)

/-- Has a text a byte that may make it a pattern? -/
def hasSpecial (text : Bytes) : Bool := text.any (utf8 "*?[").contains

/-- Does an opening bracket, already passed, have a closing one before the next slash? -/
def hasClosing : (bound : Nat) → Bytes → Bool
  | 0, _ => false
  | bound + 1, text =>
    let text := if text.head? == some 92 then text.drop 1 else text
    match text with
    | [] => false
    | first :: rest =>
      if first == 47 then false
      else if rest.head? == some 93 then true else hasClosing bound rest

/-- What the first part of a pattern for paths is: the directories before the first part that is
    a pattern, that part, and the rest behind its slash. Without such a part the whole is a path. -/
def firstPart : (bound : Nat) → (before part : Bytes) → (isActive : Bool) → Bytes →
    Bytes × Bytes × Bool × Option Bytes
  | 0, before, part, isActive, _ => (before, part, isActive, none)
  | _, before, part, isActive, [] => (before, part, isActive, none)
  | bound + 1, before, part, isActive, byte :: rest =>
    let escaped := byte == 92 && !rest.isEmpty
    let next := if escaped then rest.headD 0 else byte
    let after := if escaped then rest.drop 1 else rest
    let read := part ++ (if escaped then [92, next] else [byte])
    if next == 47 then
      if isActive then (before, part, true, some after)
      else firstPart bound (before ++ read) [] false after
    else if escaped then firstPart bound before read isActive after
    else if byte == 42 || byte == 63 then firstPart bound before read true after
    else if byte == 91 then
      let inside := if rest.head? == some 33 then rest.drop 1 else rest
      firstPart bound before read (isActive || hasClosing (inside.length + 1) inside) after
    else firstPart bound before read isActive after

/-- A pattern without the backslashes that quote. -/
def unescaped : Bytes → Bytes
  | 92 :: byte :: rest => byte :: unescaped rest
  | byte :: rest => byte :: unescaped rest
  | [] => []

end Pattern

end CleanLaunch.Shell
