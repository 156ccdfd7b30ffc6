import CleanLaunch.Files.System
import CleanLaunch.Shell.Utility.Mode
import CleanLaunch.Shell.Utility.Paths

/-! The utilities that change permissions and owners: `chmod`, `chown` and `chgrp`.

    All files have one owner, and nobody may give any away. -/

namespace CleanLaunch.Shell.Utility

open Shell.Action
open Files (Place Node Tree Target Account)

/-- What is done to one file: its path, where it is, and whether it is an operand. -/
abbrev Deed := Bytes → Found → Bool → Action Bool

/-- Does something to a file, and to everything below it. -/
def forEachBelow (what : Deed) : (bound : Nat) → (isOperand : Bool) → Bytes → Found → Action Bool
  | 0, _, _, _ => return false
  | bound + 1, isOperand, path, found => do
    let isGood ← what path found isOperand
    let tree := (← get).world.tree
    match tree.node? found.place with
    | some (.directory mode) =>
      if mode &&& 0o400 == 0 then
        complain (utf8 "cannot read directory " ++ (← quotedName path) ++ utf8 ": " ++ Errno.EACCES.wording)
        return false
      (tree.children found.place).eraseDups.foldlM (fun isGood name => do
        let place := found.place ++ [name]
        let below := within path name
        match (← get).world.tree.node? place with
        | none => return isGood
        | some node =>
          if mode &&& 0o100 == 0 then
            complain (utf8 "cannot access " ++ (← quotedName below) ++ utf8 ": " ++ Errno.EACCES.wording)
            return false
          let answer ← forEachBelow what bound false below ⟨place, node⟩
          return isGood && answer) isGood
    | _ => return isGood

/-- Does something to every operand, and below those that are directories if that is wanted. -/
def forOperands (call : Call) (operands : List Bytes) (what : Deed) : Action Nat := do
  let isQuiet := call.has 'f'
  let isGood ← operands.foldlM (fun isGood path => do
    let report (what : String) (more : Bytes) : Action Bool := do
      if !isQuiet then complain (utf8 what ++ (← quotedName path) ++ more)
      return false
    let follows := !call.has 'h'
    match ← foundAt follows path, ← foundAt false path with
    | .error .ENOENT, .ok _ => report "cannot operate on dangling symlink " []
    | .error errno, _ => report "cannot access " (utf8 ": " ++ errno.wording)
    | .ok found, _ =>
      if call.has 'R' && found.place.isEmpty && call.last? "νπ" == some 'π' then
        complain (utf8 "it is dangerous to operate recursively on " ++ (← quotedName path))
        complain (utf8 "use --no-preserve-root to override this failsafe")
        return false
      let bound := (← get).tree.nodes.length + 2
      let answer ← if call.has 'R' then forEachBelow what bound true path found else what path found true
      return isGood && answer) true
  finish (if isGood then 0 else 1) 1

namespace Permissions

/-- Octal digits and letters of a mode. -/
def shownMode (mode : Nat) : Bytes :=
  Mode.octal 4 mode ++ utf8 " (" ++ Mode.letters mode ++ utf8 ")"

/-- How permissions change: to some of another file, or as a text says. -/
inductive Change
  | copied (mode : Nat)
  /-- The text may have come as a flag, which should do what it says without the mask. -/
  | described (text : Bytes) (isFlag : Bool)

/-- The permissions after a change. -/
def changed (change : Change) (isDirectory : Bool) (umask before : Nat) : Nat :=
  match change with
  | .copied mode => mode
  | .described text _ => (Mode.change? isDirectory umask text before).getD before

/-- Changes the permissions of one file. -/
def alter (call : Call) (change : Change) : Deed := fun path found isOperand => do
  let state ← get
  match found.node with
  | .link _ =>
    if !isOperand && call.has 'v' then
      print (utf8 "neither symbolic link " ++ (← quotedName path) ++ utf8 " nor referent has been changed\n")
    return true
  | node =>
    let isDirectory := node.isDirectory
    let before := node.mode
    let after := changed change isDirectory state.umask before
    let result : Option Errno := match node.withMode? after with
      | none => if found.place.isOfKernel then some .EPERM else none
      | some _ => if found.place.isOfKernel then some .EPERM else none
    match result with
    | some errno =>
      if !call.has 'f' then
        complain (utf8 "changing permissions of " ++ (← quotedName path) ++ utf8 ": " ++ errno.wording)
      return false
    | none =>
      setMode found.place after
      let name ← quotedName path
      if before ≠ after && (call.last? "vc").isSome then
        print (utf8 "mode of " ++ name ++ utf8 " changed from " ++ shownMode before ++ utf8 " to " ++
          shownMode after ++ [10])
      else if call.last? "vc" == some 'v' then
        print (utf8 "mode of " ++ name ++ utf8 " retained as " ++ shownMode after ++ [10])
      match change with
      | .described text true =>
        let expected := changed (.described text true) isDirectory 0 before
        if after &&& (0o7777 ^^^ expected) != 0 then
          complain ((← plainName path) ++ utf8 ": new permissions are " ++ Mode.letters after ++
            utf8 ", not " ++ Mode.letters expected)
          return false
        return true
      | _ => return true

end Permissions

open Permissions in
/-- Changes permissions. -/
def chmod (arguments : List Bytes) : Action Nat :=
  let modeLetters := "r::w::x::X::s::t::u::g::o::a::,::+::=::0::1::2::3::4::5::6::7::"
  withCall ⟨"Rcfv" ++ modeLetters, [⟨"recursive", 'R', .nothing⟩, ⟨"changes", 'c', .nothing⟩,
    ⟨"verbose", 'v', .nothing⟩, ⟨"quiet", 'f', .nothing⟩, ⟨"silent", 'f', .nothing⟩,
    ⟨"no-preserve-root", 'ν', .nothing⟩, ⟨"preserve-root", 'π', .nothing⟩,
    ⟨"reference", 'ρ', .argument⟩], .atEnd⟩ 1 arguments fun call => do
    let isMode (flag : Char × Bytes) : Bool := !"Rcfvνπρ".toList.contains flag.1
    let given := (call.flags.reverse.filter isMode).map fun flag => 45 :: flag.1.toNat.toUInt8 :: flag.2
    let flagMode := if given.isEmpty then none else some (Bytes.joinWith [44] given)
    match call.argument? 'ρ', flagMode with
    | some _, some _ => refuse 1 (utf8 "cannot combine mode and --reference options")
    | some path, none =>
      if call.operands.isEmpty then return ← missingOperand "operand"
      match ← foundAt true path with
      | .error errno =>
        complain (utf8 "failed to get attributes of " ++ (← quotedName path) ++ utf8 ": " ++ errno.wording)
        return 1
      | .ok found => forOperands call call.operands (alter call (.copied found.node.mode))
    | none, _ =>
      let (mode?, paths) := if flagMode.isNone then (call.operands.head?, call.operands.drop 1)
        else (flagMode, call.operands)
      match mode? with
      | none => missingOperand "operand"
      | some text =>
        if paths.isEmpty then
          return ← (if flagMode.isNone then missingAfter text else missingOperand "operand")
        if (Mode.change? false (← get).umask text 0).isNone then
          return ← refuse 1 (utf8 "invalid mode: " ++ (← quoted text))
        forOperands call paths (alter call (.described text flagMode.isSome))

namespace Owning

/-- Who is to own files: a user, a group, and how each was written. -/
structure Owner where
  user? : Option Nat := none
  group? : Option Nat := none
  userText : Bytes := []
  groupText : Bytes := []

/-- A group or user by its name or number. -/
def user? (text : Bytes) : Option Nat :=
  match Account.all.find? fun account => utf8 account.name = text with
  | some account => some account.user
  | none => natural? (if text.head? == some 43 then text.drop 1 else text)

/-- Groups without an account of their own name. -/
def otherGroups : List (String × Nat) :=
  [("adm", 4), ("tty", 5), ("disk", 6), ("dialout", 20), ("fax", 21), ("voice", 22), ("cdrom", 24),
   ("floppy", 25), ("tape", 26), ("sudo", 27), ("audio", 29), ("dip", 30), ("operator", 37), ("src", 40),
   ("shadow", 42), ("utmp", 43), ("video", 44), ("sasl", 45), ("plugdev", 46), ("staff", 50), ("users", 100),
   ("nogroup", 65534)]

/-- Accounts whose name is not that of their group. -/
def withoutGroup : List String := ["sync", "_apt", "nobody"]

def group? (text : Bytes) : Option Nat :=
  let named := Account.all.find? fun account => utf8 account.name = text && !withoutGroup.contains account.name
  match named, otherGroups.find? fun entry => utf8 entry.1 = text with
  | some account, _ => some account.group
  | none, some (_, n) => some n
  | none, none => natural? (if text.head? == some 43 then text.drop 1 else text)

/-- The name of a user or group. -/
def nameOf (isGroup : Bool) (n : Nat) : Bytes :=
  match Account.all.find? fun account =>
    if isGroup then account.group = n && !withoutGroup.contains account.name else account.user = n with
  | some account => utf8 account.name
  | none => Bytes.decimal n

/-- Reads an owner: a user, a colon and a group, either of which may be left out. A user with a colon alone
    stands for its own group. The result is a problem with a word if there is one. -/
def read (text : Bytes) : Except Bytes Owner :=
  let userText := text.takeWhile (· != 58)
  let rest := text.drop userText.length
  let groupText := rest.drop 1
  if userText.isEmpty && groupText.isEmpty then .ok {}
  else
    let user := if userText.isEmpty then some none else (user? userText).map some
    let group := if groupText.isEmpty then some none else (group? groupText).map some
    match user, group with
    | none, _ => .error (utf8 "invalid user")
    | _, none => .error (utf8 "invalid group")
    | some user?, some group? =>
      if !rest.isEmpty && groupText.isEmpty then
        match user?.bind fun n => Account.all.find? fun account => account.user = n with
        | some account => .ok { user?, group? := some account.group, userText
                                groupText := nameOf true account.group }
        | none => .error (utf8 "invalid spec")
      else .ok { user?, group?, userText, groupText }

/-- Sets the owner of one file, if it has it already. -/
def alter (call : Call) (isGroup : Bool) (owner : Owner) : Deed := fun path found _ => do
  let isKept (n? : Option Nat) : Bool := n? = none || n? = some 0
  let name ← quotedName path
  let isOfGroup := isGroup && owner.group?.isSome
  let what := utf8 (if isOfGroup then "group" else "ownership")
  let both (user group : Bytes) : Bytes :=
    match owner.user?, owner.group? with
    | some _, some _ => user ++ utf8 ":" ++ group
    | some _, none => user
    | none, some _ => if isGroup then group else utf8 ":" ++ group
    | none, none => []
  let current := both (utf8 "root") (utf8 "root")
  if isKept owner.user? && isKept owner.group? then
    if call.last? "vc" == some 'v' then
      let isNothing := owner.user?.isNone && owner.group?.isNone
      print (what ++ utf8 " of " ++ name ++ utf8 " retained" ++
        (if isNothing then [] else utf8 " as " ++ (if isGroup || owner.user?.isSome then current else utf8 "root:root")) ++
        [10])
    return true
  else
    if !call.has 'f' then
      complain (utf8 (if isGroup then "changing group of " else "changing ownership of ") ++ name ++
        utf8 ": " ++ (if found.place.isOfKernel then Errno.EPERM else .EPERM).wording)
    if call.last? "vc" == some 'v' then
      print (utf8 "failed to change " ++ what ++ utf8 " of " ++ name ++ utf8 " from " ++ current ++
        utf8 " to " ++ both owner.userText owner.groupText ++ [10])
    return false

def known : Flags :=
  ⟨"HLPRcfhv", [⟨"recursive", 'R', .nothing⟩, ⟨"changes", 'c', .nothing⟩, ⟨"dereference", 'δ', .nothing⟩,
    ⟨"from", 'φ', .argument⟩, ⟨"no-dereference", 'h', .nothing⟩, ⟨"no-preserve-root", 'ν', .nothing⟩,
    ⟨"preserve-root", 'π', .nothing⟩, ⟨"quiet", 'f', .nothing⟩, ⟨"silent", 'f', .nothing⟩,
    ⟨"reference", 'ρ', .argument⟩, ⟨"verbose", 'v', .nothing⟩], .atEnd⟩

end Owning

open Owning in
/-- Changes owners. -/
def changeOwner (isGroup : Bool) (arguments : List Bytes) : Action Nat :=
  withCall known 1 arguments fun call => do
    if call.has 'φ' then leave .abandoned
    match call.argument? 'ρ', call.operands with
    | _, [] => missingOperand "operand"
    | some path, operands =>
      match ← foundAt true path with
      | .error errno =>
        complain (utf8 "failed to get attributes of " ++ (← quotedName path) ++ utf8 ": " ++ errno.wording)
        return 1
      | .ok _ =>
        let root := utf8 "root"
        let owner : Owner := if isGroup then { group? := some 0, groupText := root }
          else { user? := some 0, group? := some 0, userText := root, groupText := root }
        forOperands call operands (alter call isGroup owner)
    | none, [text] => missingAfter text
    | none, text :: operands =>
      let owner : Except Bytes Owner :=
        if isGroup then
          if text.isEmpty then .ok {}
          else match group? text with
            | some n => .ok { group? := some n, groupText := text }
            | none => .error (utf8 "invalid group")
        else read text
      match owner with
      | .error problem =>
        complain (problem ++ utf8 ": " ++ (← quoted text))
        return 1
      | .ok owner => forOperands call operands (alter call isGroup owner)

end CleanLaunch.Shell.Utility
