import CleanLaunch.Shell.CommandLine

/-! Words as they are written.

    What shows a word before it is expanded needs its text. The text that was read is not kept; a text that
    stands for the same word is made up instead. -/

namespace CleanLaunch.Shell

namespace Wording

/-- The sign of a use of a parameter. -/
def sign : Use → Bytes
  | .value | .length | .malformed => []
  | .default colon => mark colon "-"
  | .assign colon => mark colon "="
  | .require colon => mark colon "?"
  | .alternative colon => mark colon "+"
  | .trim ⟨fromStart, longest⟩ =>
    let one := utf8 (if fromStart then "#" else "%")
    if longest then one ++ one else one
where
  mark (colon : Bool) (text : String) : Bytes := utf8 (if colon then ":" ++ text else text)

/-- A parameter in its shortest form. -/
def parameter (name : Bytes) (use : Use) (word : Bytes) : Bytes :=
  let isShort := (name.length = 1 && name.all Parser.isSpecial) || Parser.isName name
  match use with
  | .value => if isShort then 36 :: name else utf8 "$\x7b" ++ name ++ utf8 "\x7d"
  | .length => utf8 "$\x7b#" ++ name ++ utf8 "\x7d"
  | use => utf8 "$\x7b" ++ name ++ sign use ++ word ++ utf8 "\x7d"

/-- Is a part of a word a byte? -/
def isByte : Part → Bool
  | .bare _ | .literal _ => true
  | _ => false

/-- The parts of a word up to the end of a quotation. -/
def quoted (rest : Word) : Word :=
  rest.takeWhile fun part => match part with
    | .quote => false
    | _ => true

/-- A byte as it is written, in a quotation with a mark or outside of any. -/
def byte (mark? : Option UInt8) (isLiteral : Bool) (value : UInt8) : Bytes :=
  match mark? with
  | some 34 => if (utf8 "\"$\x60\\").contains value then [92, value] else [value]
  | some _ => [value]
  | none => if isLiteral then [92, value] else [value]

/-- The text of a word; `mark?` is the mark of the quotation that is open. Commands inside of words are left
    out. -/
def text (mark? : Option UInt8) : Word → Bytes
  | [] => []
  | .quote :: rest =>
    match mark? with
    | some mark => mark :: text none rest
    | none =>
      let mark : UInt8 := if (quoted rest).all isByte then 39 else 34
      mark :: text (some mark) rest
  | .bare value :: rest => byte mark? false value ++ text mark? rest
  | .literal value :: rest => byte mark? true value ++ text mark? rest
  | .parameter name use word :: rest =>
    parameter name use (text mark? word) ++ text mark? rest
  | .output _ :: rest => utf8 "$()" ++ text mark? rest
  | .arithmetic expression :: rest =>
    utf8 "$((" ++ text (some 34) expression ++ utf8 "))" ++ text mark? rest
  | .rich indirect name _ _ :: rest =>
    utf8 (if indirect then "$\x7b!" else "$\x7b") ++ name ++ utf8 "\x7d" ++ text mark? rest
  | .list elements :: rest =>
    40 :: Bytes.joinWith [32] (elements.map fun element => text none element) ++
      41 :: text mark? rest
  | .process reads _ :: rest => utf8 (if reads then "<()" else ">()") ++ text mark? rest

end Wording

end CleanLaunch.Shell
