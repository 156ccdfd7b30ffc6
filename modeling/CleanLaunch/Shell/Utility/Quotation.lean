import CleanLaunch.Bytes

/-! How words are quoted in messages.

    A message can quote a word as a text of the user's language or as a word of the shell. Either way
    a word with bytes that cannot be printed shows them as escapes, so that no message says something
    that it does not mean. -/

namespace CleanLaunch.Shell

namespace Quotation

/-- A character of a word: its bytes, and whether it can be printed. -/
structure Character where
  bytes : Bytes
  isPrintable : Bool

/-- How many bytes the character has that begins with a byte, if one can. -/
def lengthFrom (byte : UInt8) : Option Nat :=
  if byte < 0x80 then some 1
  else if 0xc2 ≤ byte && byte ≤ 0xdf then some 2
  else if 0xe0 ≤ byte && byte ≤ 0xef then some 3
  else if 0xf0 ≤ byte && byte ≤ 0xf4 then some 4
  else none

/-- The character at the head of a text of several byte values, if there is one: its code and its
    length. -/
def wide? (text : Bytes) : Option (Nat × Nat) :=
  match text with
  | [] => none
  | byte :: _ =>
    match lengthFrom byte with
    | none | some 1 => none
    | some length =>
      match String.fromUTF8? ⟨(text.take length).toArray⟩ with
      | some read => if (text.take length).length = length then
          some ((read.toList.headD ' ').toNat, length) else none
      | none => none

/-- The characters of a text; `wide` says whether some have several bytes. -/
def characters (wide : Bool) (text : Bytes) : List Character := go (text.length + 1) text
where
  go : (bound : Nat) → Bytes → List Character
    | 0, _ | _, [] => []
    | bound + 1, byte :: rest =>
      match if wide then wide? (byte :: rest) else none with
      | some (code, length) =>
        ⟨(byte :: rest).take length, 0xa0 ≤ code⟩ :: go bound ((byte :: rest).drop length)
      | none => ⟨[byte], 32 ≤ byte && byte ≤ 126⟩ :: go bound rest

/-- The escape of a byte that cannot be printed. -/
def escape (byte : UInt8) : Bytes :=
  match List.lookup byte
    [(7, 97), (8, 98), (9, 116), (10, 110), (11, 118), (12, 102), (13, (114 : UInt8))] with
  | some letter => [92, letter]
  | none => [92, 48 + byte / 64, 48 + byte / 8 % 8, 48 + byte % 8]

/-- A text in the quotation marks of a language. -/
def text (wide : Bool) (word : Bytes) : Bytes :=
  let (opening, closing) := if wide then (utf8 "‘", utf8 "’") else ([39], [39])
  let inner := (characters wide word).flatMap fun character =>
    if character.bytes = [92] || character.bytes = closing then 92 :: character.bytes
    else if character.isPrintable then character.bytes
    else character.bytes.flatMap escape
  opening ++ inner ++ closing

/-- Does a byte stand for itself also in double quotes? -/
def isPlain (isFirst : Bool) (byte : UInt8) : Bool :=
  (utf8 " %+,-./:@_]'").contains byte || Bytes.isDigit byte || (65 ≤ byte && byte ≤ 90) ||
    (97 ≤ byte && byte ≤ 122) || (isFirst && (byte == 35 || byte == 126))

/-- A word in quotes of the shell. -/
def word (wide : Bool) (word : Bytes) : Bytes :=
  let all := characters wide word
  if word.contains 39 && (all.zipIdx.all fun (character, n) => character.bytes.all (isPlain (n == 0)))
  then 34 :: word ++ [34]
  else
    let (inner, _) := all.foldl (fun (done, isEscaping) character =>
      if character.isPrintable then
        let character := if character.bytes = [39] then utf8 "'\\''" else character.bytes
        (done ++ (if isEscaping then utf8 "''" else []) ++ character, false)
      else (done ++ (if isEscaping then [] else utf8 "'$'") ++ character.bytes.flatMap escape, true))
      (([] : Bytes), false)
    39 :: inner ++ [39]

/-- Does a word need quotes to be a word of the shell? A colon counts, because messages put one behind
    names. -/
def needsQuotes (wide : Bool) (word : Bytes) : Bool :=
  word.isEmpty || (word.head? == some 35 || word.head? == some 126) ||
    word = [123] || word = [125] ||
    (characters wide word).any fun character =>
      !character.isPrintable || character.bytes.any (utf8 " !\"$&'()*:;<=>?[\\^`|").contains

/-- A word in quotes of the shell where a command needs them, in which a colon means nothing. -/
def argument (wide : Bool) (text : Bytes) : Bytes :=
  if needsQuotes wide (text.filter (· != 58)) && !(!text.isEmpty && text.all (· == 58)) then word wide text
  else text

/-- A word in quotes of the shell where it needs them. -/
def wordIfNeeded (wide : Bool) (text : Bytes) : Bytes :=
  if needsQuotes wide text then word wide text else text

end Quotation

end CleanLaunch.Shell
