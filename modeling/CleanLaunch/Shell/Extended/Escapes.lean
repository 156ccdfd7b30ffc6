import CleanLaunch.Shell.Number

/-! Escapes in texts of the extended language.

    A backslash and what follows it stand for one byte, or for the bytes of one character. Which escapes
    there are depends on where the text stands: that is the `Escapes.Style`. -/

namespace CleanLaunch.Shell

namespace Escapes

/-- Where a text stands. -/
inductive Style
  /-- In a quotation that begins with `$'`. -/
  | quotation
  /-- In what `echo` prints: octal digits need a zero before them, and `\c` ends everything. -/
  | echo
  /-- In an argument that `printf` is to unescape: the zero may be missing. -/
  | argument
  /-- In the format of `printf`. -/
  | format
  deriving DecidableEq

/-- The byte a backslash and a letter stand for. -/
def letter? (letter : UInt8) : Option UInt8 :=
  List.lookup letter
    [(92, 92), (97, 7), (98, 8), (101, 27), (69, 27), (102, 12), (110, 10), (114, 13), (116, 9),
     (118, 11)]

/-- Up to some digits in a base at the head of a text as a number, if there are any, and the text behind
    them. -/
def digits? (base most : Nat) (text : Bytes) : Option (Nat × Bytes) :=
  let read := (text.take most).takeWhile fun byte => (Number.digit? base byte).isSome
  if read.isEmpty then none else some ((Number.digits base read).1, text.drop read.length)

/-- The bytes of a character given by its number. -/
def character (n : Nat) : Bytes :=
  let tail (shift : Nat) : UInt8 := (n / shift % 64 + 128).toUInt8
  if n < 0x80 then [n.toUInt8]
  else if n < 0x800 then [(n / 64 + 0xC0).toUInt8, tail 1]
  else if n < 0x10000 then [(n / 4096 + 0xE0).toUInt8, tail 64, tail 1]
  else [(n / 262144 % 8 + 0xF0).toUInt8, tail 4096, tail 64, tail 1]

/-- What a text behind a backslash stands for, and what follows. Without a result, everything ends
    here. -/
def one (style : Style) (text : Bytes) : Option (Bytes × Bytes) :=
  let kept (byte : UInt8) (rest : Bytes) : Option (Bytes × Bytes) := some ([92, byte], rest)
  match text with
  | [] => some ([92], [])
  | byte :: rest =>
    match letter? byte with
    | some value => some ([value], rest)
    | none =>
      let octal (most : Nat) (text : Bytes) : Option (Bytes × Bytes) :=
        (digits? 8 most text).map fun (n, rest) => ([n.toUInt8], rest)
      let numbered (most : Nat) (make : Nat → Bytes) : Option (Bytes × Bytes) :=
        match digits? 16 most rest with
        | some (n, rest) => some (make n, rest)
        | none => kept byte rest
      match Char.ofNat byte.toNat with
      | 'x' => numbered 2 fun n => [n.toUInt8]
      | 'u' => numbered 4 character
      | 'U' => numbered 8 character
      | 'c' =>
        match style with
        | .quotation =>
          match rest with
          | control :: rest => some ([control &&& 31], rest)
          | [] => kept byte rest
        | .echo | .argument => none
        | .format => kept byte rest
      | '0' =>
        match style with
        | .echo | .argument => (octal 3 rest).or (some ([0], rest))
        | .quotation | .format => octal 3 text
      | '\'' | '"' | '?' => if style = .echo then kept byte rest else some ([byte], rest)
      | _ =>
        if style ≠ .echo && 49 ≤ byte && byte ≤ 55 then octal 3 text else kept byte rest

/-- A text with its escapes replaced, up to where an escape ends it; the second part says whether one
    did. -/
def replaceAll (style : Style) : (bound : Nat) → Bytes → Bytes × Bool
  | 0, _ => ([], false)
  | _, [] => ([], false)
  | bound + 1, byte :: rest =>
    if byte == 92 then
      match one style rest with
      | none => ([], true)
      | some (value, rest) =>
        let (more, stops) := replaceAll style bound rest
        (value ++ more, stops)
    else
      let (more, stops) := replaceAll style bound rest
      (byte :: more, stops)

/-- A text with its escapes replaced, and whether an escape ended it. -/
def replaced (style : Style) (text : Bytes) : Bytes × Bool := replaceAll style (text.length + 1) text

end Escapes

end CleanLaunch.Shell
