import CleanLaunch.Shell.Utility.Paths

/-! Backups: what becomes of a file whose place something else takes.

    A simple backup has an ending behind the file's name, a numbered one the next number that is free. -/

namespace CleanLaunch.Shell.Utility

open Shell.Action

/-- Which backups are made. -/
inductive Backup
  | simple (ending : Bytes)
  | numbered
  /-- Numbered ones if there are some already. -/
  | existing (ending : Bytes)
  deriving DecidableEq

namespace Backup

/-- The flags about backups. -/
def flags : List LongFlag := [⟨"backup", 'β', .perhaps⟩, ⟨"suffix", 'S', .argument⟩]

/-- Words for kinds of backups. -/
def kinds : List (List String) :=
  [["none", "off"], ["simple", "never"], ["existing", "nil"], ["numbered", "t"]]

/-- Does a call ask for backups at all? -/
def isAskedFor (call : Call) : Bool := (call.last? "bβS").isSome

/-- The ending of simple backups. -/
def endingOf (call : Call) : Action Bytes := do
  let given := (call.argument? 'S').or (environmentValue? (← get) "SIMPLE_BACKUP_SUFFIX")
  return match given with
    | some text => if text.isEmpty || text.contains Path.slash then utf8 "~" else text
    | none => utf8 "~"

/-- The backups that a call asks for, or the status to end with. -/
def ofCall (call : Call) : Action (Except Nat (Option Backup)) := do
  if !isAskedFor call then return .ok none
  let ending ← endingOf call
  let given := ((call.flags.find? fun flag => flag.1 == 'β' && !flag.2.isEmpty).map (·.2))
  let usual := (environmentValue? (← get) "VERSION_CONTROL").filter (!·.isEmpty)
  let kind ← match given, usual with
    | some word, _ => choice? "backup type" kinds (some word)
    | none, some word => choice? "$VERSION_CONTROL" kinds (some word)
    | none, none => pure (.ok none)
  match kind with
  | .error status => return .error status
  | .ok (some "none") => return .ok none
  | .ok (some "simple") => return .ok (some (.simple ending))
  | .ok (some "numbered") => return .ok (some .numbered)
  | .ok _ => return .ok (some (.existing ending))

/-- The number of a backup of a file, if a name is that of one. -/
def number? (name other : Bytes) : Option Nat :=
  let start := name ++ utf8 ".~"
  let digits := (other.drop start.length).dropLast
  if start.isPrefixOf other && other.getLast? = some 126 && digits.head? != some 48 then natural? digits
  else none

/-- The path of the next backup of the file at a path. -/
def path (backup : Backup) (path : Bytes) : Action Bytes := do
  let numbers ← match ← resolve false path with
    | .ok target =>
      let names := (← get).world.tree.children target.place.dropLast
      pure (names.filterMap (number? (lastPart path)))
    | .error _ => pure []
  let next := path ++ utf8 ".~" ++ Bytes.decimal (numbers.foldl max 0 + 1) ++ utf8 "~"
  return match backup with
    | .simple ending => path ++ ending
    | .numbered => next
    | .existing ending => if numbers.isEmpty then path ++ ending else next

end Backup

end CleanLaunch.Shell.Utility
