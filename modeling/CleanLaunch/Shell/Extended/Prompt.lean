import CleanLaunch.Calendar.Layout
import CleanLaunch.Shell.Clock
import CleanLaunch.Shell.Extended.Lists

/-! Prompts of the extended language.

    A backslash with a letter behind it stands for what the shell knows of the time, the user, the working
    directory or itself: `Prompt.decoded`. What stands for a path or a sign of the user is protected from the
    expansions that a prompt goes through afterwards. -/

namespace CleanLaunch.Shell

namespace Prompt

open Shell.Action

/-- The version of the shell: the first two numbers of it, and all of it. -/
def version : Bytes := utf8 "5.2"

def fullVersion : Bytes := utf8 "5.2.21"

/-- The value of a variable. -/
def value (state : State) (name : String) : Bytes := (Lists.valueOf? state (utf8 name)).getD []

/-- A text protected from expansions in double quotes. -/
def guarded (text : Bytes) : Bytes :=
  text.flatMap fun byte => if (utf8 "\"$\x60\\").contains byte then [92, byte] else [byte]

/-- A path where the home directory has its sign. -/
def tilded (state : State) (path : Bytes) : Bytes :=
  let home := value state "HOME"
  if home.isEmpty || home = [Path.slash] then path
  else if path = home then [126]
  else if (home ++ [Path.slash]).isPrefixOf path then 126 :: path.drop home.length
  else path

/-- The last so many directories of a path, behind dots for those that are left out. -/
def trimmed (keeps : Nat) (path : Bytes) : Bytes :=
  let (front, rest) : Bytes × Bytes := match path with
    | 126 :: rest => ([126], rest)
    | rest => ([], rest)
  let parts := (rest.splitAt Path.slash).filter (!·.isEmpty)
  if keeps = 0 || parts.length ≤ keeps then path
  else
    let kept := Bytes.joinWith [Path.slash] (parts.drop (parts.length - keeps))
    front ++ (if front.isEmpty then [] else [Path.slash]) ++ utf8 "..." ++ Path.slash :: kept

/-- The name of the working directory in a prompt: all of it, or its last part. -/
def directory (state : State) (onlyLast : Bool) : Bytes :=
  let path := tilded state state.directoryPath
  if onlyLast then
    if path = [Path.slash] || path = [126] then path
    else ((path.splitAt Path.slash).getLast?).getD path
  else trimmed ((Number.read? (some 10) (value state "PROMPT_DIRTRIM")).map (·.value.toNat) |>.getD 0) path

/-- What a letter in a prompt stands for, and how many bytes behind it belong to it. `tell` tells the time in some
    format. -/
def escape? (state : State) (tell : Bytes → Bytes) (letter : UInt8) (rest : Bytes) : Option (Bytes × Nat) :=
  let plain (text : Bytes) : Option (Bytes × Nat) := some (text, 0)
  match Char.ofNat letter.toNat with
  | 'a' => plain [7]
  | 'e' => plain [27]
  | 'r' => plain [13]
  | 'n' => plain [10]
  | '\\' => plain [92]
  | '[' | ']' => plain []
  | 's' => plain (((state.name.splitAt Path.slash).getLast?).getD [])
  | 'v' => plain version
  | 'V' => plain fullVersion
  | 'd' => plain (tell (utf8 "%a %b %d"))
  | 't' => plain (tell (utf8 "%H:%M:%S"))
  | 'T' => plain (tell (utf8 "%I:%M:%S"))
  | '@' => plain (tell (utf8 "%I:%M %p"))
  | 'A' => plain (tell (utf8 "%H:%M"))
  | 'D' =>
    match rest with
    | 123 :: more =>
      let format := more.takeWhile (· != 125)
      if format.length = more.length then none
      else some (tell (if format.isEmpty then utf8 "%X" else format), format.length + 2)
    | _ => none
  | 'w' => plain (guarded (directory state false))
  | 'W' => plain (guarded (directory state true))
  | 'u' => plain (utf8 "root")
  | 'h' => plain ((value state "HOSTNAME").takeWhile (· != 46))
  | 'H' => plain (value state "HOSTNAME")
  | '$' => plain [35]
  | 'j' => plain (Bytes.decimal state.jobs.length)
  | 'l' => plain (utf8 "tty")
  | '!' => plain [49]
  | '#' => plain [48]
  | _ =>
    if 48 ≤ letter && letter ≤ 55 then
      let digits := (letter :: rest).take 3
      if digits.all fun byte => 48 ≤ byte && byte ≤ 55 then
        some ([(Number.digits 8 digits).1.toUInt8], digits.length - 1)
      else none
    else none

/-- A prompt with its escapes replaced. -/
def decode (state : State) (tell : Bytes → Bytes) : (bound : Nat) → Bytes → Bytes
  | 0, text => text
  | _, [] => []
  | bound + 1, 92 :: letter :: rest =>
    match escape? state tell letter rest with
    | some (text, length) => text ++ decode state tell bound (rest.drop length)
    | none => 92 :: letter :: decode state tell bound rest
  | bound + 1, byte :: rest => byte :: decode state tell bound rest

/-- A prompt with its escapes replaced by what they stand for now. -/
def decoded (text : Bytes) : Action Bytes := do
  let state ← get
  let zone ← Clock.zone (((state.bindings.lookup Clock.variableName).filter (·.exported)).bind (·.value?))
  let moment := Calendar.Moment.ofSeconds zone (state.world.now.fdiv Files.partsPerSecond) 0
  return decode state moment.shown (text.length + 1) text

end Prompt

end CleanLaunch.Shell
