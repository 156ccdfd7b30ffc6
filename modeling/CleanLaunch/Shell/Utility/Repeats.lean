import CleanLaunch.Shell.Utility.Sorting

/-! The utility `uniq`, which prints lines without repetitions, or just those that are repeated. -/

namespace CleanLaunch.Shell.Utility

open Shell.Action

namespace Repeats

/-- Where an empty line stands between groups. -/
structure Delimiting where
  /-- Before the first group too? -/
  atStart : Bool := false
  between : Bool := false
  atEnd : Bool := false

def delimiting (word : Option String) : Delimiting :=
  match word with
  | some "separate" => { between := true }
  | some "prepend" => { atStart := true, between := true }
  | some "append" => { between := true, atEnd := true }
  | some "both" => { atStart := true, between := true, atEnd := true }
  | _ => {}

/-- What is compared of lines. -/
structure Relevance where
  fields : Nat := 0
  bytes : Nat := 0
  width : Option Nat := none
  folds : Bool := false

def Relevance.part (relevance : Relevance) (line : Bytes) : Bytes :=
  let line := (SortKey.afterFields none relevance.fields line).drop relevance.bytes
  let line := match relevance.width with
    | some width => line.take width
    | none => line
  if relevance.folds then line.map Collation.toCapital else line

/-- Neighbours that are equal in what counts. -/
def groups (relevance : Relevance) (all : List Bytes) : List (List Bytes) :=
  ((all.foldl (fun (groups : List (Bytes × List Bytes)) line =>
    let part := relevance.part line
    match groups with
    | (first, group) :: rest =>
      if first = part then (first, line :: group) :: rest else (part, [line]) :: groups
    | [] => [(part, [line])]) []).map fun (_, group) => group.reverse).reverse

/-- Which lines of a group are shown. -/
structure Choice where
  single : Bool
  first : Bool
  others : Bool

/-- The lines of a group that are shown. -/
def Choice.lines (choice : Choice) (group : List Bytes) : List Bytes :=
  match group with
  | [] => []
  | [line] => if choice.single then [line] else []
  | first :: _ =>
    if choice.others then if choice.first then group else group.dropLast
    else if choice.first then [first] else []

/-- Groups with empty lines between them. -/
def layOut (delimiting : Delimiting) (groups : List (List Bytes)) : List Bytes :=
  let body := groups.zipIdx.flatMap fun (group, n) =>
    (if (n = 0 && delimiting.atStart) || (0 < n && delimiting.between) then [[]] else []) ++ group
  body ++ (if delimiting.atEnd && !groups.isEmpty then [[]] else [])

/-- Words with counts like `-1` and `+2` written as flags. -/
def spellOut (words : List Bytes) : List Bytes :=
  words.flatMap fun word =>
    match word with
    | 45 :: digits => if (natural? digits).isSome then [utf8 "-f", digits] else [word]
    | 43 :: digits => if (natural? digits).isSome then [utf8 "-s", digits] else [word]
    | _ => [word]

/-- Shows lines, each with its end, on standard output or in a file. -/
def put (ending : UInt8) (target : Option Bytes) (all : List Bytes) : Action Nat := do
  let text := all.flatMap (· ++ [ending])
  match target with
  | none =>
    print text
    finish 0 1
  | some path =>
    match ← openPath .output path with
    | .error errno =>
      complain ((← plainName path) ++ utf8 ": " ++ errno.wording)
      return 1
    | .ok descriptor =>
      let _ ← write descriptor text
      close descriptor
      return 0

/-- A number that a flag asks for. -/
def count (call : Call) (letter : Char) (what : String) : Except Bytes (Option Nat) :=
  match call.argument? letter with
  | none => .ok none
  | some text =>
    match Amount.read "" text with
    | .value n => .ok (some n)
    | .tooLarge => .ok (some Amount.largest)
    | _ => .error (text ++ utf8 (": invalid number of " ++ what))

def relevance (call : Call) : Except Bytes Relevance := do
  return {
    fields := (← count call 'f' "fields to skip").getD 0
    bytes := (← count call 's' "bytes to skip").getD 0
    width := ← count call 'w' "bytes to compare"
    folds := call.has 'i' }

end Repeats

open Repeats in
/-- Prints lines without repetitions, or those with some. -/
def uniq (arguments : List Bytes) : Action Nat :=
  withCall ⟨"cdDf:is:uw:z", [⟨"count", 'c', .nothing⟩, ⟨"repeated", 'd', .nothing⟩,
    ⟨"all-repeated", 'D', .perhaps⟩, ⟨"group", 'γ', .perhaps⟩, ⟨"ignore-case", 'i', .nothing⟩,
    ⟨"unique", 'u', .nothing⟩, ⟨"skip-fields", 'f', .argument⟩, ⟨"skip-chars", 's', .argument⟩,
    ⟨"check-chars", 'w', .argument⟩, ⟨"zero-terminated", 'z', .nothing⟩], .atEnd⟩ 1 (spellOut arguments)
    fun call => do
    let word (letter : Char) : Option Bytes := (call.argument? letter).filter (!·.isEmpty)
    match ← choice? "--all-repeated" [["none"], ["prepend"], ["separate"]] (word 'D'),
        ← choice? "--group" [["prepend"], ["append"], ["separate"], ["both"]] (word 'γ') with
    | .error status, _ | _, .error status => return status
    | .ok repeated, .ok group =>
    match relevance call with
    | .error problem =>
      complain problem
      return 1
    | .ok relevance =>
    let isGrouped := call.has 'γ'
    if isGrouped && (call.last? "cdDu").isSome then
      return ← refuse 1 (utf8 "--group is mutually exclusive with -c/-d/-D/-u")
    match call.operands with
    | _ :: _ :: extra :: _ => extraOperand extra
    | operands =>
      if call.has 'D' && call.has 'c' then
        return ← refuse 1 (utf8 "printing all duplicated lines and repeat counts is meaningless")
      let path := operands.headD [45]
      let ending : UInt8 := if call.has 'z' then 0 else 10
      match ← content path with
      | .closed errno =>
        complain ((← plainName path) ++ utf8 ": " ++ errno.wording)
        return 1
      | .unreadable errno =>
        complain (utf8 "error reading " ++ (← quotedName path) ++ utf8 ": " ++ errno.wording)
        return 1
      | .text text =>
        let groups := groups relevance (Sorting.linesOf ending text)
        let choice : Choice := {
          single := (call.last? "dD").isNone, first := !call.has 'u', others := call.has 'D' }
        let shown :=
          if isGrouped then layOut (delimiting (group.or (some "separate"))) groups
          else if call.has 'D' then
            let shown := (groups.filter (1 < ·.length)).map choice.lines
            layOut (delimiting repeated) shown
          else groups.flatMap fun group =>
            (choice.lines group).map fun line =>
              let digits := Bytes.decimal group.length
              if call.has 'c' then List.replicate (7 - digits.length) 32 ++ digits ++ 32 :: line else line
        put ending (operands.drop 1).head? shown

end CleanLaunch.Shell.Utility
