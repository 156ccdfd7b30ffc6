import CleanLaunch.Shell.Character

/-! How values are quoted in what a shell of the extended language prints, so that it reads them back.

    A value stands in single quotes, in double quotes, in a quotation with escapes, or with a backslash
    before every special byte: `Quoting.single`, `Quoting.double`, `Quoting.escaped` and
    `Quoting.backslashed`. -/

namespace CleanLaunch.Shell

namespace Quoting

/-- A value in single quotes. A single quote itself stands outside of them, behind a backslash. -/
def single (value : Bytes) : Bytes :=
  if value = [39] then [92, 39]
  else 39 :: (value.flatMap fun byte => if byte == 39 then utf8 "'\\''" else [byte]) ++ [39]

/-- A value in double quotes. -/
def double (value : Bytes) : Bytes :=
  34 :: (value.flatMap fun byte => if (utf8 "\"$\x60\\").contains byte then [92, byte] else [byte]) ++ [34]

/-- Can a character be printed? `wide` says that characters may have several bytes. -/
def isPrintable (wide : Bool) (code : Nat) : Bool :=
  if wide then Character.isPrintable code else 32 ≤ code && code ≤ 126

/-- Are there characters that cannot be printed? -/
def needsEscapes (wide : Bool) (value : Bytes) : Bool :=
  (Character.codes wide value).any (!isPrintable wide ·)

/-- Escapes of bytes with a letter for each. -/
def letters : List (UInt8 × UInt8) :=
  [(27, 69), (7, 97), (8, 98), (12, 102), (10, 110), (13, 114), (9, 116), (11, 118)]

/-- A value in a quotation with escapes. -/
def escaped (wide : Bool) (value : Bytes) : Bytes :=
  let one (byte : UInt8) : Bytes :=
    match letters.lookup byte with
    | some letter => [92, letter]
    | none =>
      if byte == 92 || byte == 39 then [92, byte]
      else if isPrintable false byte.toNat then [byte]
      else [92, 48 + byte / 64, 48 + byte / 8 % 8, 48 + byte % 8]
  let piece (bytes : Bytes) : Bytes :=
    if 1 < bytes.length && !needsEscapes wide bytes then bytes else bytes.flatMap one
  utf8 "$'" ++ (Character.pieces wide value).flatMap piece ++ [39]

/-- Bytes that have a meaning wherever they stand. -/
def special : Bytes := utf8 " \t\n'\"\\|&;()<>!\x7b\x7d*[?]^$\x60"

/-- The bytes of a value, each with the one before it. -/
def withBefore (value : Bytes) : List (Option UInt8 × UInt8) := (none :: value.map some).zip value

/-- Has a byte a meaning where it stands? -/
def isSpecial (before : Option UInt8) (byte : UInt8) : Bool :=
  special.contains byte || (byte == 126 && (before.isNone || before == some 61 || before == some 58)) ||
    (byte == 35 && before.isNone)

/-- Is there a byte with a meaning? -/
def hasSpecial (value : Bytes) : Bool := (withBefore value).any fun (before, byte) => isSpecial before byte

/-- A value with backslashes before the bytes that have a meaning. -/
def backslashed (wide : Bool) (value : Bytes) : Bytes :=
  if value.isEmpty then utf8 "''"
  else if needsEscapes wide value then escaped wide value
  else (withBefore value).flatMap fun (before, byte) =>
    if isSpecial before byte || byte == 44 then [92, byte] else [byte]

/-- A value in quotes for any use. -/
def reusable (wide : Bool) (value : Bytes) : Bytes :=
  if needsEscapes wide value then escaped wide value else single value

/-- A value as it is shown behind the name of a variable, in quotes only where it needs them. -/
def shown (value : Bytes) : Bytes := if hasSpecial value then single value else value

/-- A word of a command as it is shown when it runs. -/
def word (wide : Bool) (value : Bytes) : Bytes :=
  if value.isEmpty then utf8 "''"
  else if hasSpecial value then single value
  else if needsEscapes wide value then escaped wide value
  else value

/-- A value in a declaration. -/
def declared (wide : Bool) (value : Bytes) : Bytes :=
  if needsEscapes wide value then escaped wide value else double value

/-- The name of an element in a declaration. -/
def elementName (wide : Bool) (name : Bytes) : Bytes :=
  if needsEscapes wide name then escaped wide name
  else if hasSpecial name || name = [64] || name = [42] then double name
  else name

end Quoting

end CleanLaunch.Shell
