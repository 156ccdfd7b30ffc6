import CleanLaunch.Shell.Utility.Input

/-! The utility `wc`, which counts the lines, words and bytes of files. -/

namespace CleanLaunch.Shell.Utility

open Shell.Action

namespace Counting

/-- How many words there are in a text. -/
def words (wide : Bool) (text : Bytes) : Nat :=
  let isSpace (code : Nat) : Bool :=
    code == 32 || (9 ≤ code && code ≤ 13) || (wide && Character.isSpace code)
  ((Character.codes wide text).foldl (fun (count, inWord) code =>
    if isSpace code then (count, false) else (if inWord then count else count + 1, true)) (0, false)).1

/-- How many characters there are in a text. -/
def characters (wide : Bool) (text : Bytes) : Nat :=
  ((Character.codes wide text).filter (· < Character.strayCode)).length

/-- How many columns the widest line of a text has. -/
def widestLine (wide : Bool) (text : Bytes) : Nat :=
  let (widest, _) := (Character.codes wide text).foldl (fun (widest, column) code =>
    let column :=
      if code == 10 || code == 12 || code == 13 then 0
      else if code == 9 then column / 8 * 8 + 8
      else if wide then column + Character.width code
      else if 32 ≤ code && code ≤ 126 then column + 1 else column
    (max widest column, column)) (0, 0)
  widest

/-- Digits that a total of file sizes takes. What is no regular file has columns for larger numbers. -/
def width (paths : List Bytes) : Action Nat := do
  let state ← get
  let sizes ← paths.mapM fun path => do
    if path = [45] then
      match ← filePlace? 0 with
      | some (place, _, _) => return some (state.world.fileAt place).2.length
      | none => return if ← isOpen 0 then none else some 0
    else match state.tree.find state.directory path with
      | .ok (.file _ text) => return some text.length
      | .ok _ => return none
      | .error _ => return some 0
  let width := (Bytes.decimal (sumOf (sizes.filterMap id))).length
  return if sizes.contains none then max width 7 else width

/-- Where the names of files come from. -/
inductive Names
  /-- The call. -/
  | operands (paths : List Bytes)
  /-- A file that lists them. -/
  | listed (paths : List Bytes)

def Names.paths : Names → List Bytes
  | .operands paths => inputs paths
  | .listed paths => paths

/-- The files to count in. -/
def names (call : Call) : Action (Except Nat Names) := do
  match call.argument? 'φ', call.operands with
  | none, operands => return .ok (.operands operands)
  | some _, extra :: _ =>
    complain (utf8 "extra operand " ++ (← quotedName extra))
    printError (utf8 "file operands cannot be combined with --files0-from\n")
    suggestHelp
    return .error 1
  | some path, [] =>
    match ← content path with
    | .text text =>
      return .ok (.listed ((linesUpTo 0 text).map fun name =>
        if name.getLast? = some 0 then name.dropLast else name))
    | .closed errno =>
      complain (utf8 "cannot open " ++ (← quotedName path) ++ utf8 " for reading: " ++ errno.wording)
      return .error 1
    | .unreadable errno =>
      complain ((← plainName path) ++ utf8 ": read error: " ++ errno.wording)
      return .error 1

/-- Are the names of files read one by one, from something that is no regular file? -/
def isStreamed (call : Call) : Action Bool := do
  let state ← get
  match call.argument? 'φ' with
  | none => return false
  | some [45] => return (← filePlace? 0).isNone
  | some path => return match state.tree.find state.directory path with
    | .ok node => !node.isRegular
    | .error _ => true

/-- When a line with totals is printed. -/
def totals : List (List String) := [["auto"], ["always"], ["only"], ["never"]]

end Counting

open Counting in
/-- Counts lines, words and bytes. -/
def wc (arguments : List Bytes) : Action Nat :=
  withCall ⟨"clLmw", [⟨"bytes", 'c', .nothing⟩, ⟨"chars", 'm', .nothing⟩, ⟨"lines", 'l', .nothing⟩,
    ⟨"words", 'w', .nothing⟩, ⟨"debug", 'δ', .nothing⟩, ⟨"files0-from", 'φ', .argument⟩,
    ⟨"max-line-length", 'L', .nothing⟩, ⟨"total", 'τ', .argument⟩], .atEnd⟩ 1 arguments fun call => do
    let wide := hasWideCharacters (← get)
    match ← choice? "--total" totals (call.argument? 'τ') with
    | .error status => return status
    | .ok total =>
    let usual := (call.last? "clmwL").isNone
    let counts (text : Bytes) : List Nat :=
      (if usual || call.has 'l' then [text.count 10] else []) ++
      (if usual || call.has 'w' then [words wide text] else []) ++
      (if call.has 'm' then [characters wide text] else []) ++
      (if usual || call.has 'c' then [text.length] else []) ++
      (if call.has 'L' then [widestLine wide text] else [])
    let columns := (counts []).length
    match ← names call with
    | .error status => return status
    | .ok names =>
    let paths := names.paths
    let isNarrow := (columns = 1 && paths.length = 1) || total == some "only" || (← isStreamed call)
    let width ← if isNarrow then pure 1 else width paths
    let report (numbers : List Nat) (name : Bytes) : Action Unit := do
      let fields := numbers.map fun n =>
        let digits := Bytes.decimal n
        List.replicate (width - digits.length) 32 ++ digits
      print (Bytes.joinWith [32] fields ++ name ++ [10])
    let isUnnamed : Bool := match names with
      | .operands [] => true
      | _ => false
    let one (numbers : List Nat) (path : Bytes) : Action Unit := do
      if total != some "only" then report numbers (if isUnnamed then [] else 32 :: path)
    let (status, sums) ← paths.foldlM (fun (status, sums) path => do
      let complainAbout (errno : Errno) : Action Unit := do
        complain ((← plainName (if isUnnamed then inputName path else path)) ++ utf8 ": " ++ errno.wording)
      if path.isEmpty && (call.argument? 'φ').isSome then
        let number := (paths.takeWhile (!·.isEmpty)).length + 1
        complain ((← plainName ((call.argument? 'φ').getD [])) ++ 58 :: Bytes.decimal number ++
          utf8 ": invalid zero-length file name")
        return (1, sums)
      match ← content path with
      | .closed errno =>
        complainAbout errno
        return (1, sums)
      | .unreadable errno =>
        complainAbout errno
        one (counts []) path
        return (1, sums)
      | .text text =>
        one (counts text) path
        let combined := (List.zipWith (fun (sum, isWidest) n => if isWidest then max sum n else sum + n)
          (sums.zipIdx.map fun (sum, n) => (sum, call.has 'L' && n + 1 = columns)) (counts text))
        return (status, combined))
      (0, List.replicate columns 0)
    let showsTotal : Bool := match total with
      | some "always" | some "only" => true
      | some "never" => false
      | _ => 1 < paths.length
    if showsTotal then report sums (if total == some "only" then [] else utf8 " total")
    if paths.contains [45] && !(← isOpen 0) then
      complain (utf8 "-: " ++ Errno.EBADF.wording)
      return 1
    match ← flush with
    | none => return status
    | some _ =>
      complain (utf8 "write error")
      return 1

end CleanLaunch.Shell.Utility
