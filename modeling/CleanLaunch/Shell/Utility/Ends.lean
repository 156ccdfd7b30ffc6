import CleanLaunch.Shell.Utility.Amount
import CleanLaunch.Shell.Utility.Input

/-! The utilities that print the ends of files: `head` and `tail`. -/

namespace CleanLaunch.Shell.Utility

open Shell.Action

namespace Ends

/-- How much of a file is printed: a number, and what it counts. -/
structure Extent where
  count : Nat := 10
  inBytes : Bool := false
  /-- Is the count about the other end than usual? -/
  isOpposite : Bool := false

/-- The extent that the last of the flags `c` and `n` asks for. `sign` stands before counts about the other
    end; a plus sign stays in force for the flags behind it. -/
def extent (call : Call) (sign : UInt8) : Action (Except Bytes Extent) := do
  let given := call.flags.filter fun flag => flag.1 == 'c' || flag.1 == 'n'
  match given with
  | [] => return .ok {}
  | (letter, text) :: _ =>
    let isOpposite := text.head? == some sign || (sign == 43 && given.any (·.2.head? == some 43))
    let digits :=
      if text.head? == some sign || (sign == 43 && text.head? == some 45) then text.drop 1 else text
    let inBytes := letter == 'c'
    let what := if inBytes then "invalid number of bytes" else "invalid number of lines"
    let text := if sign == 45 && text.head? == some 45 then text.drop 1 else digits
    return (← Amount.require Amount.usualSuffixes what text).map fun count =>
      { count, inBytes, isOpposite }

/-- A word like `-5` or `-5kq` as the flags that it stands for, or the letter that stands for none. -/
def spelledOut (digits letters : Bytes) : Except UInt8 (List Bytes) :=
  let (count, suffix, flags, strange) := letters.foldl
    (fun (count, suffix, flags, strange) letter =>
      match Char.ofNat letter.toNat with
      | 'c' => (utf8 "-c", [], flags, strange)
      | 'b' | 'k' | 'm' => (utf8 "-c", [letter], flags, strange)
      | 'l' => (utf8 "-n", suffix, flags, strange)
      | 'q' | 'v' | 'z' => (count, suffix, flags ++ [[45, letter]], strange)
      | _ => (count, suffix, flags, (strange : Option UInt8).or (some letter)))
    (utf8 "-n", [], ([] : List Bytes), none)
  match strange with
  | some letter => .error letter
  | none => .ok ([count, digits ++ suffix] ++ flags)

/-- Words with a count like `-5` at their head written as flags of their own. -/
def spellOutHead (words : List Bytes) : Except UInt8 (List Bytes) :=
  match words with
  | (45 :: text) :: rest =>
    let digits := text.takeWhile Bytes.isDigit
    if digits.isEmpty then .ok words
    else (· ++ rest) <$> spelledOut digits (text.drop digits.length)
  | _ => .ok words

/-- The same for counts like `-5c` and `+5`, which are only taken before a single operand. -/
def spellOutTail (words : List Bytes) : List Bytes :=
  let isAlone : Bool := match words with
    | [_] => true
    | [_, second] => second.head? != some 45 || second.length = 1
    | [_, second, _] => second = [45, 45]
    | _ => false
  match words with
  | (sign :: text) :: rest =>
    let digits := text.takeWhile Bytes.isDigit
    let isCount := sign == 43 || (sign == 45 && (text.drop (if text.head? == some 99 then 1 else 0)).head?.any
      Bytes.isDigit)
    if !isAlone || !isCount then words
    else
      let count (flag : String) (unit : Nat) : List Bytes :=
        let n := if digits.isEmpty then Bytes.decimal (10 * unit)
          else if unit = 1 then digits else digits ++ [98]
        utf8 flag :: (if sign == 43 then 43 :: n else n) :: rest
      match text.drop digits.length with
      | [] | [108] => count "-n" 1
      | [99] => count "-c" 1
      | [98] => count "-c" 512
      | _ => words
  | _ => words

/-- Does something with a file of several, below a line with its name. -/
def underHeading (call : Call) (isFirst : Bool) (path : Bytes) : Action Unit := do
  let silent := call.last? "qv"
  if (silent != some 'q' && 1 < call.operands.length) || silent == some 'v' then
    print ((if isFirst then [] else [10]) ++ utf8 "==> " ++ inputName path ++ utf8 " <==\n")

/-- Does something with files one after another; it is told whether nothing was shown before. -/
def forParts (call : Call) (body : Bool → Bytes → Action (Nat × Bool)) : Action Nat := do
  let (status, _) ← (inputs call.operands).foldlM (fun (status, isFirst) path => do
    let (one, shown) ← body isFirst path
    return (max status one, isFirst && !shown)) (0, true)
  let status ← finish status 1
  if (inputs call.operands).contains [45] && !(← isOpen 0) then
    complain (utf8 "-: " ++ Errno.EBADF.wording)
    return 1
  return status

def cannotOpen (path : Bytes) (errno : Errno) : Action (Nat × Bool) := do
  complain (utf8 "cannot open " ++ (← quotedName path) ++ utf8 " for reading: " ++ errno.wording)
  return (1, false)

def cannotRead (path : Bytes) (errno : Errno) : Action (Nat × Bool) := do
  complain (utf8 "error reading " ++ (← quotedName (inputName path)) ++ utf8 ": " ++ errno.wording)
  return (1, true)

/-- Bytes that are read at a time to find lines. -/
def blockLength : Nat := 8192

/-- Reads the first lines behind a descriptor, block by block, and goes back to behind them where that is
    possible. -/
def firstLines (ending : UInt8) (descriptor count : Nat) : Action (Except Errno Bytes) := do
  let before ← filePlace? descriptor
  let (answer, _) ← repeatFrom ((.ok [] : Except Errno Bytes), count) fun (answer, missing) => do
    match answer with
    | .error errno => return ((.error errno, missing), false)
    | .ok found =>
      if missing = 0 then return ((.ok found, 0), false)
      match ← readInput descriptor (some blockLength) with
      | .error errno => return ((.error errno, missing), false)
      | .ok block =>
        let part := (linesUpTo ending block).take missing
        let ended := (part.filter fun line => line.getLast? == some ending).length
        return ((.ok (found ++ part.flatten), missing - ended), !block.isEmpty)
  match before, answer with
  | some (_, offset, _), .ok text => seek descriptor (offset + text.length)
  | _, _ => pure ()
  return answer

/-- Reads the beginning of a file. -/
def beginning (extent : Extent) (ending : UInt8) (descriptor : Nat) : Action (Except Errno Bytes) := do
  if extent.isOpposite then
    return (← readAll descriptor).map fun text =>
      if extent.inBytes then text.take (text.length - extent.count)
      else
        let all := linesUpTo ending text
        (all.take (all.length - extent.count)).flatten
  else if extent.inBytes then readInput descriptor (some extent.count)
  else firstLines ending descriptor extent.count

/-- What of a text is at its end, or from a number on. -/
def ending (extent : Extent) (separator : UInt8) (text : Bytes) : Bytes :=
  let skip (length : Nat) : Nat :=
    if extent.isOpposite then extent.count - 1 else length - extent.count
  if extent.inBytes then text.drop (skip text.length)
  else
    let all := linesUpTo separator text
    (all.drop (skip all.length)).flatten

end Ends

open Ends in
/-- Prints the first lines or bytes of files. -/
def head (arguments : List Bytes) : Action Nat := do
  match spellOutHead arguments with
  | .error letter => refuse 1 (utf8 "invalid trailing option -- " ++ [letter])
  | .ok arguments =>
    withCall ⟨"c:n:qvz", [⟨"bytes", 'c', .argument⟩, ⟨"lines", 'n', .argument⟩, ⟨"quiet", 'q', .nothing⟩,
      ⟨"silent", 'q', .nothing⟩, ⟨"verbose", 'v', .nothing⟩, ⟨"zero-terminated", 'z', .nothing⟩], .atEnd⟩ 1
      arguments fun call => do
      match ← extent call 45 with
      | .error problem =>
        complain problem
        return 1
      | .ok extent =>
        forParts call fun isFirst path => do
          match ← withInput path fun descriptor => do
              if ← isOpen descriptor then underHeading call isFirst path
              beginning extent (if call.has 'z' then 0 else 10) descriptor with
          | .error errno => cannotOpen path errno
          | .ok (.error errno) => cannotRead path errno
          | .ok (.ok text) =>
            print text
            return (0, true)

open Ends in
/-- Prints the last lines or bytes of files, or those from a number on. -/
def tail (arguments : List Bytes) : Action Nat := do
  let arguments := spellOutTail arguments
  match arguments.head? with
  | some (45 :: digit :: _) =>
    if Bytes.isDigit digit then
      complain (utf8 "option used in invalid context -- " ++ [digit])
      return 1
  | _ => pure ()
  withCall ⟨"c:n:qvzfFs:0123456789", [⟨"bytes", 'c', .argument⟩, ⟨"lines", 'n', .argument⟩,
    ⟨"quiet", 'q', .nothing⟩, ⟨"silent", 'q', .nothing⟩, ⟨"verbose", 'v', .nothing⟩,
    ⟨"zero-terminated", 'z', .nothing⟩, ⟨"follow", 'f', .perhaps⟩, ⟨"sleep-interval", 's', .argument⟩,
    ⟨"retry", 'ρ', .nothing⟩, ⟨"pid", 'π', .argument⟩], .atEnd⟩ 1 arguments fun call => do
    if (call.last? "fFπ").isSome then leave .abandoned
    match call.flags.find? (·.1.isDigit) with
    | some (digit, _) =>
      complain (utf8 "option used in invalid context -- " ++ [digit.toNat.toUInt8])
      return 1
    | none => pure ()
    if call.has 'ρ' then
      complain (utf8 "warning: --retry ignored; --retry is useful only when following")
    match ← extent call 43 with
    | .error problem =>
      complain problem
      return 1
    | .ok extent =>
      forParts call fun isFirst path => do
        match ← withInput path fun descriptor => do
            if ← isOpen descriptor then underHeading call isFirst path
            readAll descriptor with
        | .error errno => cannotOpen path errno
        | .ok (.error .EBADF) =>
          complain (utf8 "cannot fstat " ++ (← quotedName (inputName path)) ++ utf8 ": " ++
            Errno.EBADF.wording)
          return (1, true)
        | .ok (.error errno) => cannotRead path errno
        | .ok (.ok text) =>
          print (ending extent (if call.has 'z' then 0 else 10) text)
          return (0, true)

end CleanLaunch.Shell.Utility
