import CleanLaunch.Bytes

/-! Where brackets close.

    Some openings can only be told apart by what follows the bracket that closes them. These functions look
    ahead for it in a text that has not been read yet; quotations are passed over. -/

namespace CleanLaunch.Shell

namespace Bracketing

/-- The text behind a quotation, from behind its opening mark on. -/
def behindQuotation (mark : UInt8) : (isEscaped : Bool) → Bytes → Option Bytes
  | _, [] => none
  | true, _ :: rest => behindQuotation mark false rest
  | false, first :: rest =>
    if first == mark then some rest else behindQuotation mark (first == 92 && mark != 39) rest

def isMark (byte : UInt8) : Bool := byte == 39 || byte == 34 || byte == 96

/-- The text behind the bracket that closes one, from behind that on. `depth` is how many others are open. -/
def behind (opening closing : UInt8) : (bound depth : Nat) → Bytes → Option Bytes
  | 0, _, _ => none
  | _, _, [] => none
  | bound + 1, depth, first :: rest =>
    if first == 92 then behind opening closing bound depth (rest.drop 1)
    else if isMark first then
      (behindQuotation first false rest).bind (behind opening closing bound depth)
    else if first == opening then behind opening closing bound (depth + 1) rest
    else if first == closing then
      if depth = 0 then some rest else behind opening closing bound (depth - 1) rest
    else behind opening closing bound depth rest

/-- Do two parentheses, already passed, close as two in a row, or never? -/
def isDouble (text : Bytes) : Bool :=
  match behind 40 41 (text.length + 1) 0 text with
  | some rest => rest.head? == some 41
  | none => true

/-- The text up to the square bracket that closes one, already passed, and the text behind it. -/
def inSquare? (text : Bytes) : Option (Bytes × Bytes) :=
  (behind 91 93 (text.length + 1) 0 text).map fun rest =>
    (text.take (text.length - rest.length - 1), rest)

/-- Does a square bracket, already passed, close before a brace around it does? -/
def closesInBraces (text : Bytes) : Bool :=
  match inSquare? text with
  | some (inside, _) => (behind 123 125 (inside.length + 1) 0 inside).isNone
  | none => (behind 123 125 (text.length + 1) 0 text).isNone

end Bracketing

end CleanLaunch.Shell
