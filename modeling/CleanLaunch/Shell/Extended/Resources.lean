import CleanLaunch.Shell.Builtin.Settings
import CleanLaunch.Shell.Extended.Usage

/-! The mask and the limits of a process, as the extended language shows and changes them. -/

namespace CleanLaunch.Shell

namespace Resources

open Shell.Action

/-- Bits of some letters, each with the bits that it stands for. -/
def bitsOf (table : List (Char × Nat)) (letters : Bytes) : Nat :=
  letters.foldl (fun bits letter =>
    bits ||| ((table.find? (·.1.toNat == letter.toNat)).map (·.2)).getD 0) 0

def people : List (Char × Nat) := [('a', 0o777), ('u', 0o700), ('g', 0o070), ('o', 0o007)]

def permissions : List (Char × Nat) := [('r', 0o444), ('w', 0o222), ('x', 0o111)]

/-- Changes permissions by a text like `u=rwx,g-w`. -/
def permitted : (bound : Nat) → (allowed : Nat) → Bytes → Action Nat
  | 0, allowed, _ => return allowed
  | bound + 1, allowed, text => do
    let who := text.takeWhile (utf8 "agou").contains
    let operator := (text.drop who.length).headD 0
    if !(utf8 "+-=").contains operator then
      fail (utf8 "\x60" ++ [operator] ++ utf8 "': invalid symbolic mode operator")
    let text := text.drop (who.length + 1)
    let letters := text.takeWhile (utf8 "rwx").contains
    let mask := if who.isEmpty then 0o777 else bitsOf people who
    let bits := bitsOf permissions letters &&& mask
    let allowed :=
      if operator == 43 then allowed ||| bits
      else if operator == 45 then allowed &&& (0o777 ^^^ bits)
      else (allowed &&& (0o777 ^^^ mask)) ||| bits
    match text.drop letters.length with
    | [] => return allowed
    | 44 :: rest => permitted bound allowed rest
    | byte :: _ => fail (utf8 "\x60" ++ [byte] ++ utf8 "': invalid symbolic mode character")

/-- Runs `umask`. -/
def mask (arguments : List Bytes) : Action Nat := do
  let read ← Usage.flags "Sp" arguments
  let old := (← get).umask
  let put (mask : Nat) : Action Nat := do
    modify fun state => { state with umask := mask &&& 0o777 }
    if read.has 'S' then print (Settings.allowedText (mask &&& 0o777) ++ [10])
    return 0
  match read.rest with
  | [] =>
    let front := if !read.has 'p' then [] else if read.has 'S' then utf8 "umask -S " else utf8 "umask "
    print (front ++ (if read.has 'S' then Settings.allowedText old else Files.Running.octal 4 old) ++ [10])
    return 0
  | text :: _ =>
    if text.head?.any Bytes.isDigit then
      let (value, rest) := Number.digits 8 text
      if rest.isEmpty && value ≤ 0o7777 then put value
      else Usage.failing (text ++ utf8 ": octal number out of range")
    else
      try put (0o777 ^^^ (← permitted (text.length + 1) (0o777 ^^^ old) text)) catch
        | .failed => return 1
        | escape => throw escape

/-- A kind of limit. -/
structure Kind where
  letter : Char
  name : String
  units : String := ""
  /-- The letter its value is kept under. -/
  kept : Char := letter
  /-- Its value at the start, unless it has none. -/
  start : Option Nat := none
  /-- Is it counted in blocks of files? -/
  inBlocks : Bool := false

namespace Kind

/-- All kinds in the order of their listing. -/
def all : List Kind :=
  [{ letter := 'R', name := "real-time non-blocking time", units := "microseconds" },
   { letter := 'c', name := "core file size", units := "blocks", start := some 0, inBlocks := true },
   { letter := 'd', name := "data seg size", units := "kbytes" },
   { letter := 'e', name := "scheduling priority", start := some 0 },
   { letter := 'f', name := "file size", units := "blocks", inBlocks := true },
   { letter := 'i', name := "pending signals", start := some 128597 },
   { letter := 'l', name := "max locked memory", units := "kbytes", start := some 8192 },
   { letter := 'm', name := "max memory size", units := "kbytes" },
   { letter := 'n', name := "open files" },
   { letter := 'p', name := "pipe size", units := "512 bytes", kept := 'P', start := some 8 },
   { letter := 'q', name := "POSIX message queues", units := "bytes", start := some 819200 },
   { letter := 'r', name := "real-time priority", start := some 0 },
   { letter := 's', name := "stack size", units := "kbytes", start := some 8192 },
   { letter := 't', name := "cpu time", units := "seconds" },
   { letter := 'u', name := "max user processes", kept := 'p', start := some 128597 },
   { letter := 'v', name := "virtual memory", units := "kbytes" },
   { letter := 'x', name := "file locks", kept := 'w' }]

def ofLetter? (letter : UInt8) : Option Kind := all.find? (·.letter.toNat == letter.toNat)

/-- How many blocks of the standard size one that is shown makes. -/
def scale (kind : Kind) (state : State) : Nat :=
  if kind.inBlocks && !state.options.isOn .strict then 2 else 1

/-- The value of a limit in a process. -/
def current (kind : Kind) (state : State) : Option Nat :=
  if kind.letter = 'n' then some state.limit
  else ((state.otherLimits.lookup kind.kept.toNat.toUInt8).getD kind.start).map (· / kind.scale state)

/-- The limit that nobody may exceed. -/
def highest (kind : Kind) (state : State) : Option Nat :=
  if kind.letter = 'n' then some Settings.LimitKind.maxDescriptors
  else if kind.letter = 's' then none
  else kind.current state

def text (value : Option Nat) : Bytes :=
  match value with
  | some n => Bytes.decimal n ++ [10]
  | none => utf8 "unlimited\n"

/-- A limit with what it means. -/
def described (kind : Kind) (value : Option Nat) : Bytes :=
  let units := if kind.units.isEmpty then [] else utf8 kind.units ++ utf8 ", "
  let letter := utf8 "(" ++ units ++ [45, kind.letter.toNat.toUInt8] ++ utf8 ") "
  utf8 kind.name ++ List.replicate (20 - kind.name.length) 32 ++ 32 ::
    List.replicate (20 - letter.length) 32 ++ letter ++ text value

end Kind

/-- What the words of `ulimit` ask for. -/
structure Wish where
  all : Bool := false
  soft : Bool := false
  hard : Bool := false
  /-- The limits that are meant, each with its new value, if it has one; the last one first. -/
  limits : List (Kind × Option Bytes) := []

/-- Reads the words of `ulimit`. A letter takes the rest of its word as a value, or the next word. -/
def wishes : (bound : Nat) → Wish → (letters : Bytes) → List Bytes → Action (Wish × List Bytes)
  | 0, wish, _, words => return (wish, words)
  | bound + 1, wish, letter :: letters, words => do
    match Char.ofNat letter.toNat, Kind.ofLetter? letter with
    | 'a', _ => wishes bound { wish with all := true } letters words
    | 'S', _ => wishes bound { wish with soft := true } letters words
    | 'H', _ => wishes bound { wish with hard := true } letters words
    | _, none => Usage.refuseFlag 45 letter
    | _, some kind =>
      let put (value? : Option Bytes) : Wish := { wish with limits := (kind, value?) :: wish.limits }
      if !letters.isEmpty then wishes bound (put (some letters)) [] words
      else match words with
        | word :: rest =>
          if word.head? = some 45 && word ≠ [45] then wishes bound (put none) [] words
          else wishes bound (put (some word)) [] rest
        | [] => return (put none, [])
  | bound + 1, wish, [], words =>
    match words with
    | [45, 45] :: rest => return (wish, rest)
    | (45 :: letter :: more) :: rest => wishes bound wish (letter :: more) rest
    | _ => return (wish, words)

/-- Changes a limit. -/
def putLimit (wish : Wish) (kind : Kind) (text : Bytes) : Action Nat := do
  let state ← get
  let value? : Option (Option Nat) :=
    if text = utf8 "hard" then some (kind.highest state)
    else if text = utf8 "soft" then some (kind.current state)
    else if text = utf8 "unlimited" then some none
    else if text.all Bytes.isDigit && !text.isEmpty then some (some (Number.digits 10 text).1)
    else none
  let refuse (errno : Errno) : Action Nat :=
    Usage.failing (utf8 kind.name ++ utf8 ": cannot modify limit: " ++ errno.wording)
  match value? with
  | none => Usage.failing (text ++ utf8 ": invalid number")
  | some value =>
    if kind.letter = 'p' then refuse .EINVAL
    else if kind.letter = 'n' then
      match value.filter (· ≤ Settings.LimitKind.maxDescriptors) with
      | none => refuse .EPERM
      | some limit =>
        if wish.hard && !wish.soft then
          if limit < state.limit then refuse .EINVAL else return 0
        else
          set { state with limit }
          return 0
    else
      let letter := kind.kept.toNat.toUInt8
      let kept := value.map (· * kind.scale state)
      set { state with
        otherLimits := (letter, kept) :: state.otherLimits.filter (·.1 != letter) }
      return 0

/-- Shows or changes limits up to the first failure. -/
def limitEach (wish : Wish) (isOne : Bool) : List (Kind × Option Bytes) → Action Nat
  | [] => return 0
  | (kind, value?) :: rest => do
    let state ← get
    match value? with
    | none =>
      let value := if wish.hard && !wish.soft then kind.highest state else kind.current state
      print (if isOne then Kind.text value else kind.described value)
      limitEach wish isOne rest
    | some text =>
      let status ← putLimit wish kind text
      if status = 0 then limitEach wish isOne rest else return status

/-- Runs `ulimit`. -/
def limits (arguments : List Bytes) : Action Nat := do
  let bound := arguments.length + arguments.flatten.length + 1
  let (wish, rest) ← wishes bound {} [] arguments
  if wish.all then
    let state ← get
    let hard := wish.hard && !wish.soft
    print (Kind.all.flatMap fun kind =>
      kind.described (if hard then kind.highest state else kind.current state))
    return 0
  let limits := if wish.limits.isEmpty then
      (Kind.ofLetter? 102).toList.map fun kind => (kind, rest.head?)
    else wish.limits.reverse
  limitEach wish (limits.length ≤ 1) limits

end Resources

end CleanLaunch.Shell
