import CleanLaunch.Shell.Floating
import CleanLaunch.Shell.Utility.Amount
import CleanLaunch.Shell.Utility.Input

/-! The utility `od`, which shows the bytes of files as numbers or characters.

    A dump has lines with an address and a block of bytes, once for every format. Blocks like the one before
    them are shown as an asterisk. -/

namespace CleanLaunch.Shell.Utility

open Shell.Action

namespace Dump

/-- How a datum is shown. -/
inductive Form
  | octal | hexadecimal | unsigned | signed
  | floating
  | character
  /-- The name of a character of seven bits. -/
  | named
  deriving DecidableEq

/-- A format: how a datum is shown, how many bytes it has, and whether the line ends with the bytes as they
    are. -/
structure Format where
  form : Form
  size : Nat
  showsText : Bool := false

/-- Columns of a datum. -/
def Format.width (format : Format) : Nat :=
  let bits := 8 * format.size
  match format.form with
  | .octal => (bits + 2) / 3
  | .hexadecimal => 2 * format.size
  | .unsigned => (Bytes.decimal (Nat.pow 2 bits - 1)).length
  | .signed => (Bytes.decimal (Nat.pow 2 (bits - 1))).length + 1
  | .floating => if format.size = 4 then 15 else if format.size = 8 then 24 else 29
  | .character | .named => 3

/-- The value of bytes as a whole number. -/
def valueOf (isBig : Bool) (bytes : Bytes) : Nat :=
  let ordered := if isBig then bytes else bytes.reverse
  ordered.foldl (fun n byte => n * 256 + byte.toNat) 0

/-- A whole number in digits of a base, with zeros in front. -/
def digits (base width n : Nat) : Bytes :=
  let text := (Nat.toDigits base n).map fun digit => digit.toNat.toUInt8
  List.replicate (width - text.length) 48 ++ text

/-- The number that bits stand for: how many bits its exponent and its fraction have, and whether the first
    digit is among them. -/
def floatingOf (exponentBits fractionBits : Nat) (hasFirst : Bool) (bits : Nat) : Floating :=
  let fraction := bits % Nat.pow 2 fractionBits
  let exponent := bits / Nat.pow 2 fractionBits % Nat.pow 2 exponentBits
  let negative := bits / Nat.pow 2 (fractionBits + exponentBits) % 2 = 1
  let bias : Int := Nat.pow 2 (exponentBits - 1) - 1
  let places : Int := if hasFirst then fractionBits - 1 else fractionBits
  let rest := if hasFirst then fraction % Nat.pow 2 (fractionBits - 1) else fraction
  if exponent + 1 = Nat.pow 2 exponentBits then
    if rest = 0 then .infinite negative else .undefined negative
  else if exponent = 0 then .finite negative fraction (1 - bias - places)
  else
    let mantissa := if hasFirst then fraction else fraction + Nat.pow 2 fractionBits
    if hasFirst && fraction < Nat.pow 2 (fractionBits - 1) then .undefined negative
    else .finite negative mantissa (exponent - bias - places)

/-- The shortest text, of so many digits or more, that reads back as a number. -/
def shortest (range : Floating.Range) (least : Nat) (value : Floating) : Bytes :=
  let sign : Bytes := if value.isNegative then [45] else []
  match value with
  | .finite negative mantissa exponent =>
    let text (precision : Nat) : Bytes := Floating.general false precision mantissa exponent
    let isSame (text : Bytes) : Bool :=
      match Floating.read? range text with
      | some ⟨read, _⟩ => read.order (.finite false mantissa exponent) == .eq
      | none => false
    let _ := negative
    let least := if mantissa.log2 + exponent < range.least + (range.bits : Int) - 1 then 1 else least
    let precisions := (List.range 40).map (· + least)
    sign ++ text ((precisions.find? fun precision => isSame (text precision)).getD 40)
  | .infinite _ => sign ++ utf8 "inf"
  | .undefined _ => sign ++ utf8 "nan"

/-- Numbers of single precision. -/
def single : Floating.Range := ⟨24, -149, 104⟩

def floatingText (size bits : Nat) : Bytes :=
  if size = 4 then shortest single 6 (floatingOf 8 23 false bits)
  else if size = 8 then shortest .double 15 (floatingOf 11 52 false bits)
  else shortest .extended 18 (floatingOf 15 64 true (bits % Nat.pow 2 80))

/-- Names of the characters that cannot be printed, from the first one on. -/
def names : List String :=
  ["nul", "soh", "stx", "etx", "eot", "enq", "ack", "bel", "bs", "ht", "nl", "vt", "ff", "cr", "so", "si",
   "dle", "dc1", "dc2", "dc3", "dc4", "nak", "syn", "etb", "can", "em", "sub", "esc", "fs", "gs", "rs", "us",
   "sp"]

/-- The text of a datum. -/
def datum (isBig : Bool) (format : Format) (bytes : Bytes) : Bytes :=
  let value := valueOf isBig bytes
  let limit := Nat.pow 2 (8 * format.size)
  match format.form with
  | .octal => digits 8 format.width value
  | .hexadecimal => digits 16 format.width value
  | .unsigned => Bytes.decimal value
  | .signed => if limit ≤ 2 * value then 45 :: Bytes.decimal (limit - value) else Bytes.decimal value
  | .floating => floatingText format.size value
  | .character =>
    let byte := bytes.headD 0
    match List.lookup byte [((0 : UInt8), "\\0"), (7, "\\a"), (8, "\\b"), (9, "\\t"), (10, "\\n"),
        (11, "\\v"), (12, "\\f"), (13, "\\r")] with
    | some text => utf8 text
    | none => if 32 ≤ byte && byte ≤ 126 then [byte] else digits 8 3 byte.toNat
  | .named =>
    let code := value % 128
    if code = 127 then utf8 "del" else match names[code]? with
      | some name => utf8 name
      | none => [code.toUInt8]

/-- Parts of a text of a length each. -/
def chunks (size : Nat) : (bound : Nat) → Bytes → List Bytes
  | 0, _ => []
  | bound + 1, text => if text.isEmpty then [] else text.take size :: chunks size bound (text.drop size)

/-- Columns that are spread before the fields of a line: those before each of them. -/
def paddings (padding count : Nat) : List Nat :=
  (List.range count).map fun n =>
    padding * (count - n) / count - padding * (count - n - 1) / count

/-- The line of a block in a format, without its address. -/
def line (isBig : Bool) (format : Format) (blockSize columns : Nat) (block : Bytes) : Bytes :=
  let count := blockSize / format.size
  let padding := columns - (format.width + 1) * count
  let padded := block ++ List.replicate ((format.size - block.length % format.size) % format.size) 0
  let data := chunks format.size count padded
  let fields := (data.zip (paddings padding count)).flatMap fun (bytes, before) =>
    let text := datum isBig format bytes
    List.replicate (before + 1 + format.width - text.length) 32 ++ text
  let missing := columns - fields.length
  if format.showsText then
    fields ++ List.replicate missing 32 ++ utf8 "  >" ++
      block.map (fun byte => if 32 ≤ byte && byte ≤ 126 then byte else 46) ++ utf8 "<"
  else fields

/-- How addresses are shown. -/
structure Addresses where
  base : Option Nat := some 8
  width : Nat := 7

def Addresses.text (addresses : Addresses) (n : Nat) : Bytes :=
  match addresses.base with
  | some base => digits base addresses.width n
  | none => []

/-- A dump. -/
structure Request where
  formats : List Format
  addresses : Addresses
  blockSize : Nat
  showsAll : Bool
  isBig : Bool
  /-- The first address. -/
  start : Nat
  /-- What is added to a second address that is shown too. -/
  offset : Option Int := none

/-- The text of a dump of some bytes. -/
def text (request : Request) (bytes : Bytes) : Bytes :=
  let size := request.blockSize
  let columns := (request.formats.map fun format => (format.width + 1) * (size / format.size)).foldl max 0
  let address (n : Nat) : Bytes :=
    request.addresses.text n ++ match request.offset with
      | some offset => utf8 " (" ++ request.addresses.text ((n : Int) + offset).toNat ++ utf8 ")"
      | none => []
  let blocks := (chunks size bytes.length bytes).zipIdx
  let (shown, _, _) := blocks.foldl (fun (shown, before, isStarred) (block, n) =>
    if !request.showsAll && 0 < n && block.length = size && before = block then
      (if isStarred then shown else utf8 "*\n" :: shown, block, true)
    else
      let head := address (request.start + n * size)
      let lines := request.formats.zipIdx.flatMap fun (format, n) =>
        (if n = 0 then head else List.replicate head.length 32) ++
          line request.isBig format size columns block ++ [10]
      (lines :: shown, block, false)) (([] : List Bytes), ([] : Bytes), false)
  let last := address (request.start + bytes.length)
  shown.reverse.flatten ++ (if last.isEmpty then [] else last ++ [10])

/-- Texts of some length or more that end with a NUL, each behind its address. -/
def strings (addresses : Addresses) (least start : Nat) (bytes : Bytes) : Bytes :=
  let (shown, _, _) := bytes.zipIdx.foldl (fun (shown, current, isText) (byte, n) =>
    if byte == 0 then
      let shown := if isText && least ≤ current.length then
          let address := addresses.text (start + n - current.length)
          ((if address.isEmpty then [] else address ++ [32]) ++ List.reverse current ++ [10]) :: shown
        else shown
      (shown, [], true)
    else if 32 ≤ byte && byte ≤ 126 then (shown, byte :: current, true)
    else (shown, [], true)) (([] : List Bytes), ([] : Bytes), true)
  shown.reverse.flatten

/-- Sizes of data that are named by a letter. -/
def sizeNames (form : Form) : List (UInt8 × Nat) :=
  if form = .floating then [(70, 4), (68, 8), (76, 16)] else [(67, 1), (83, 2), (73, 4), (76, 8)]

/-- Formats as they are written; `quote` puts a word into quotation marks. -/
def read (quote : Bytes → Bytes) (all : Bytes) : (bound : Nat) → Bytes → Except Bytes (List Format)
  | 0, _ | _, [] => .ok []
  | bound + 1, letter :: rest =>
    let finish (form : Form) (size : Nat) (rest : Bytes) : Except Bytes (List Format) := do
      let showsText := rest.head? == some 122
      let more ← read quote all bound (if showsText then rest.drop 1 else rest)
      return { form, size, showsText } :: more
    let sized (form : Form) (usual : Nat) (sizes : List Nat) (kind : String) :
        Except Bytes (List Format) :=
      let named := rest.head?.bind fun letter => (sizeNames form).lookup letter
      let written := rest.takeWhile Bytes.isDigit
      match named, natural? written with
      | some size, _ => finish form size (rest.drop 1)
      | none, none => finish form usual rest
      | none, some size =>
        if sizes.contains size then finish form size (rest.drop written.length)
        else .error (utf8 "invalid type string " ++ quote all ++ utf8 ";\nthis system doesn't provide a " ++
          Bytes.decimal size ++ utf8 ("-byte " ++ kind ++ " type"))
    match Char.ofNat letter.toNat with
    | 'a' => finish .named 1 rest
    | 'c' => finish .character 1 rest
    | 'd' => sized .signed 4 [1, 2, 4, 8] "integral"
    | 'o' => sized .octal 4 [1, 2, 4, 8] "integral"
    | 'u' => sized .unsigned 4 [1, 2, 4, 8] "integral"
    | 'x' => sized .hexadecimal 4 [1, 2, 4, 8] "integral"
    | 'f' => sized .floating 8 [4, 8, 16] "floating point"
    | _ => .error (utf8 "invalid character '" ++ [letter] ++ utf8 "' in type string " ++ quote all)

/-- The format that a letter alone asks for. -/
def short? (letter : Char) : Option String :=
  List.lookup letter [('a', "a"), ('b', "o1"), ('c', "c"), ('D', "u4"), ('d', "u2"), ('e', "fD"), ('F', "fD"),
    ('f', "fF"), ('H', "x4"), ('h', "x2"), ('I', "dL"), ('i', "dI"), ('L', "dL"), ('l', "dL"), ('O', "o4"),
    ('o', "o2"), ('B', "o2"), ('s', "d2"), ('X', "x4"), ('x', "x2")]

/-- The formats that a call asks for. -/
def formatsOf (quote : Bytes → Bytes) (call : Call) : Except Bytes (List Format) := do
  let formats ← call.flags.reverse.mapM fun (letter, argument) =>
    let text := if letter == 't' then argument else utf8 ((short? letter).getD "")
    read quote text (text.length + 1) text
  return if formats.flatten.isEmpty then [⟨.octal, 2, false⟩] else formats.flatten

/-- A number of bytes that a flag asks for, perhaps in digits of base 8 or 16. -/
def count (call : Call) (letter : Char) : Except Bytes (Option Nat) :=
  match call.argument? letter with
  | none => .ok none
  | some text =>
    let invalid (what : String) (quote : Bytes) : Except Bytes (Option Nat) :=
      .error (utf8 what ++ utf8 ("-" ++ letter.toString ++ " argument '") ++ quote ++ utf8 "'")
    let (base, digits) : Nat × Bytes := match text with
      | 48 :: 120 :: rest | 48 :: 88 :: rest => (16, rest)
      | 48 :: rest => (8, 48 :: rest)
      | text => (10, text)
    let number := digits.takeWhile fun byte => (Number.digit? base byte).isSome
    let suffix := digits.drop number.length
    if number.isEmpty then invalid "invalid " text
    else match Amount.factor? "bBcEGkKmMPQRTYZw" suffix with
      | some factor => .ok (some ((Number.digits base number).1 * factor))
      | none => invalid "invalid suffix in " text

/-- The addresses that a call asks for. -/
def addressesOf (quote : Bytes → Bytes) (call : Call) : Except Bytes Addresses :=
  match call.argument? 'A' with
  | none => .ok {}
  | some text =>
    match Char.ofNat (text.headD 0).toNat with
    | 'o' => .ok {}
    | 'd' => .ok { base := some 10 }
    | 'x' => .ok { base := some 16, width := 6 }
    | 'n' => .ok { base := none, width := 0 }
    | _ => .error (utf8 "invalid output address radix " ++ quote (text.take 1) ++
        utf8 "; it must be one character from [doxn]")

/-- The offset that an operand of the old form stands for. -/
def oldOffset? (word : Bytes) : Option Nat :=
  let digits := if word.head? == some 43 then word.drop 1 else word
  let isDecimal := digits.contains 46
  let digits := digits.filter (· != 46)
  let (digits, factor) : Bytes × Nat :=
    if digits.getLast? = some 98 then (digits.dropLast, 512)
    else if digits.getLast? = some 66 then (digits.dropLast, 1024)
    else (digits, 1)
  let (base, digits) : Nat × Bytes := match digits with
    | 48 :: 120 :: rest | 48 :: 88 :: rest => (16, rest)
    | digits => (if isDecimal then 10 else 8, digits)
  if !digits.isEmpty && digits.all fun byte => (Number.digit? base byte).isSome then
    some ((Number.digits base digits).1 * factor)
  else none

/-- The files to dump and how many bytes to skip, where the old form of a call may say that. -/
def operands (call : Call) : List Bytes × Option Nat :=
  let isModern := (call.last? "AjNtwvS").isSome
  let isOffset (word : Bytes) (needsSign : Bool) : Bool :=
    word.head? == some 43 || (!needsSign && word.head?.any Bytes.isDigit)
  match isModern, call.operands with
  | false, [word] =>
    if isOffset word true then match oldOffset? word with
      | some n => ([], some n)
      | none => ([word], none)
    else ([word], none)
  | false, [path, word] =>
    if isOffset word false then match oldOffset? word with
      | some n => ([path], some n)
      | none => ([path, word], none)
    else ([path, word], none)
  | _, operands => (operands, none)

/-- Reads files as if they were one: at most so many bytes behind those that are skipped. Of a file no more
    is read than that. -/
def readFiles (paths : List Bytes) (skip : Nat) (most : Option Nat) : Action (Nat × Nat × Bytes) :=
  paths.foldlM (fun (status, skip, text) path => do
    let report (errno : Errno) : Action (Nat × Nat × Bytes) := do
      complain ((← plainName path) ++ utf8 ": " ++ errno.wording)
      return (1, skip, text)
    let missing := most.map (· - text.length)
    if missing = some 0 then return (status, skip, text)
    match ← withInput path fun descriptor => readInput descriptor (missing.map (· + skip)) with
    | .error errno | .ok (.error errno) => report errno
    | .ok (.ok more) => return (status, skip - more.length, text ++ more.drop skip))
    (0, skip, [])

end Dump

open Dump in
/-- Shows the bytes of files. -/
def od (arguments : List Bytes) : Action Nat :=
  withCall ⟨"A:aBbcDdeFfHhIij:LlN:OoS:st:vw::Xx", [⟨"skip-bytes", 'j', .argument⟩,
    ⟨"address-radix", 'A', .argument⟩, ⟨"read-bytes", 'N', .argument⟩, ⟨"format", 't', .argument⟩,
    ⟨"output-duplicates", 'v', .nothing⟩, ⟨"strings", 'S', .perhaps⟩, ⟨"traditional", 'τ', .nothing⟩,
    ⟨"width", 'w', .perhaps⟩, ⟨"endian", 'ε', .argument⟩], .atEnd⟩ 1 arguments fun call => do
    if call.has 'τ' then leave .abandoned
    let stop (problem : Bytes) : Action Nat := do
      complain problem
      return 1
    let quote := Quotation.text (hasWideCharacters (← get))
    match ← choice? "--endian" [["little"], ["big"]] (call.argument? 'ε') with
    | .error status => return status
    | .ok endian =>
    match addressesOf quote call, count call 'j', count call 'N', formatsOf quote call, count call 'S' with
    | .error problem, _, _, _, _ | _, .error problem, _, _, _ | _, _, .error problem, _, _
    | _, _, _, .error problem, _ | _, _, _, _, .error problem => stop problem
    | .ok addresses, .ok skip, .ok most, .ok formats, .ok least =>
      let (paths, offset) := operands call
      let skip := (offset.or skip).getD 0
      let (status, missing, bytes) ← readFiles (inputs paths) skip most
      if missing ≠ 0 then return ← stop (utf8 "cannot skip past end of combined input")
      if call.has 'S' then
        print (strings addresses (least.getD 3) skip bytes)
        return ← finish status 1
      let common := (formats.map (·.size)).foldl Nat.lcm 1
      let usual := if common < 16 then common * (16 / common) else common
      let blockSize ← match call.argument? 'w' with
        | none => pure usual
        | some text =>
          let wanted := if text.isEmpty then 32 else (natural? text).getD 0
          if wanted = 0 then leave .abandoned
          if wanted % common = 0 then pure wanted
          else
            complain (utf8 "warning: invalid width " ++ Bytes.decimal wanted ++ utf8 "; using " ++
              Bytes.decimal common ++ utf8 " instead")
            pure common
      print (Dump.text {
        formats, addresses, blockSize, showsAll := call.has 'v', isBig := endian == some "big"
        start := skip } bytes)
      finish status 1

end CleanLaunch.Shell.Utility
