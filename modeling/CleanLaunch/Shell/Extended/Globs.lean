import CleanLaunch.Shell.Character
import CleanLaunch.Shell.Pattern

/-! Patterns of the extended language.

    Patterns and texts are compared character by character. Besides what other patterns have, a group in
    parentheses behind a sign stands for one of its
    alternatives, for none or several of them in a row, or for anything else: `Glob.group`. A pattern is
    read once, to a list of `Glob`s; matching follows all the places of the text at once that a part of it
    may lead to, so that no choice is ever taken back. -/

namespace CleanLaunch.Shell

/-- A text as the codes of its characters. -/
abbrev Codes := List Nat

/-- Some of the characters of a set. -/
inductive Member
  | range (low high : Nat)
  | named (isIn : Nat → Bool)

def Member.holds (code : Nat) : Member → Bool
  | .range low high => low ≤ code && code ≤ high
  | .named isIn => isIn code

/-- How often one of the alternatives of a group stands in a text. -/
inductive Times
  | once
  | atMostOnce
  | anyNumber
  | atLeastOnce
  /-- What stands there is no alternative. -/
  | never
  deriving DecidableEq

/-- A part of a pattern. -/
inductive Glob
  | character (code : Nat)
  | anyCharacter
  | anyText
  | set (isNegated : Bool) (members : List Member)
  | group (times : Times) (alternatives : List (List Glob))

namespace Glob

/-- The ends of a text, the longest one first. -/
def ends : Codes → List Codes
  | [] => [[]]
  | first :: rest => (first :: rest) :: ends rest

/-- Ends of one text, those of two lists together, the longest ones first. -/
def union (first second : List Codes) : List Codes :=
  let all := (first ++ second).mergeSort fun a b => b.length ≤ a.length
  all.foldr (fun rest kept => if kept.head?.any (·.length = rest.length) then kept else rest :: kept) []

/-- What is left behind some steps, none of them included. -/
def closure (step : List Codes → List Codes) : (bound : Nat) → List Codes → List Codes
  | 0, rests => rests
  | bound + 1, rests =>
    let more := union rests (step rests)
    if more.length = rests.length then rests else closure step bound more

/-- What is left of each text behind a character that passes a test. -/
def behind (test : Nat → Bool) (rests : List Codes) : List Codes :=
  rests.filterMap fun rest => match rest with
    | first :: after => if test first then some after else none
    | [] => none

mutual

/-- What may be left behind a part of a pattern, for ends of one text, the longest ones first. -/
def after (rests : List Codes) : Glob → List Codes
  | .character code => behind (· == code) rests
  | .anyCharacter => behind (fun _ => true) rests
  | .anyText => (rests.head?.map ends).getD []
  | .set isNegated members => behind (fun code => members.any (·.holds code) != isNegated) rests
  | .group times alternatives =>
    let step (rests : List Codes) : List Codes := afterAny rests alternatives
    let most := ((rests.head?.map (·.length)).getD 0) + 1
    match times with
    | .once => step rests
    | .atMostOnce => union rests (step rests)
    | .anyNumber => closure step most rests
    | .atLeastOnce => closure step most (step rests)
    | .never =>
      let others (rest : Codes) : List Codes :=
        let refused := (step [rest]).map (·.length)
        (ends rest).filter fun other => !refused.contains other.length
      rests.foldl (fun all rest => union all (others rest)) []

/-- What may be left behind a pattern. -/
def afterAll (rests : List Codes) : List Glob → List Codes
  | [] => rests
  | glob :: globs => afterAll (after rests glob) globs

/-- What may be left behind one of some patterns. -/
def afterAny (rests : List Codes) : List (List Glob) → List Codes
  | [] => []
  | globs :: others => union (afterAll rests globs) (afterAny rests others)

end

end Glob

namespace Globs

/-- Names of characters that stand for themselves in a set. -/
def names : List (String × Char) :=
  [("space", ' '), ("exclamation-mark", '!'), ("quotation-mark", '"'), ("number-sign", '#'),
   ("dollar-sign", '$'), ("percent-sign", '%'), ("ampersand", '&'), ("apostrophe", '\''),
   ("left-parenthesis", '('), ("right-parenthesis", ')'), ("asterisk", '*'), ("plus-sign", '+'),
   ("comma", ','), ("hyphen", '-'), ("minus", '-'), ("period", '.'), ("dot", '.'), ("slash", '/'),
   ("colon", ':'), ("semicolon", ';'), ("less-than-sign", '<'), ("equals-sign", '='),
   ("greater-than-sign", '>'), ("question-mark", '?'), ("commercial-at", '@'),
   ("left-square-bracket", '['), ("backslash", '\\'), ("right-square-bracket", ']'),
   ("circumflex", '^'), ("underscore", '_'), ("grave-accent", '\x60'), ("left-brace", '\x7b'),
   ("vertical-line", '|'), ("right-brace", '\x7d'), ("tilde", '~'), ("tab", '\t'), ("newline", '\n')]

/-- A name as codes. -/
def codesOf (name : String) : Codes := (utf8 name).map (·.toNat)

/-- The character that a text in a set stands for. -/
def named? (text : Codes) : Option Nat :=
  match text with
  | [code] => some code
  | _ => (names.find? fun (name, _) => codesOf name = text).map fun (_, char) => char.toNat

/-- A text up to a sign and a closing bracket, and what follows them. -/
def enclosed? (sign : Nat) : (read : Codes) → Codes → Option (Codes × Codes)
  | _, [] => none
  | read, code :: rest =>
    if code == sign && rest.head? == some 93 then some (read.reverse, rest.drop 1)
    else enclosed? sign (code :: read) rest

/-- A character of a set, in whichever way it is written, and what follows it. -/
def memberCode? : Codes → Option (Nat × Codes)
  | 91 :: 46 :: rest =>
    match enclosed? 46 [] rest with
    | some (text, rest) => (named? text).map fun code => (code, rest)
    | none => some (91, 46 :: rest)
  | 91 :: 61 :: rest =>
    match enclosed? 61 [] rest with
    | some (text, rest) => (named? text).map fun code => (code, rest)
    | none => some (91, 61 :: rest)
  | 92 :: code :: rest => some (code, rest)
  | code :: rest => some (code, rest)
  | [] => none

/-- The members of a class of characters, if there is one of that name. -/
def classOf? (wide : Bool) (name : Codes) : Option (Nat → Bool) :=
  if wide then Character.class? (name.map (·.toUInt8))
  else (Pattern.classes.find? fun entry => codesOf entry.1 = name).map (·.2)

/-- The members of a set from a place behind its beginning on, and the pattern behind it. Without a result,
    it has no end. -/
def members? (wide : Bool) : (bound : Nat) → (read : List Member) → Codes → Option (List Member × Codes)
  | 0, _, _ => none
  | bound + 1, read, text =>
    let goOn (read : List Member) (rest : Codes) : Option (List Member × Codes) :=
      match rest with
      | 93 :: after => some (read.reverse, after)
      | _ => members? wide bound read rest
    let class? := match text with
      | 91 :: 58 :: rest => enclosed? 58 [] rest
      | _ => none
    match class? with
    | some (name, rest) =>
      match classOf? wide name with
      | some isIn => goOn (.named isIn :: read) rest
      | none => goOn read rest
    | none =>
      (memberCode? text).bind fun (low, rest) =>
        match rest with
        | 45 :: 93 :: _ => goOn (.range low low :: read) rest
        | 45 :: more => (memberCode? more).bind fun (high, rest) => goOn (.range low high :: read) rest
        | _ => goOn (.range low low :: read) rest

/-- The times that the sign before a group asks for. -/
def times? (sign : Nat) : Option Times :=
  List.lookup sign [(64, .once), (63, .atMostOnce), (42, .anyNumber), (43, .atLeastOnce), (33, .never)]

mutual

/-- Reads a pattern up to its end, or up to the end of an alternative if it is `inside` of a group; the
    second part is what is left then. -/
def read (wide inside : Bool) : (bound : Nat) → Codes → List Glob × Codes
  | 0, text => ([], text)
  | _, [] => ([], [])
  | bound + 1, code :: rest =>
    let goOn (glob : Glob) (rest : Codes) : List Glob × Codes :=
      let (globs, rest) := read wide inside bound rest
      (glob :: globs, rest)
    let group? := match times? code, rest with
      | some times, 40 :: inner => (alternatives? wide bound inner).map fun (all, rest) => (times, all, rest)
      | _, _ => none
    match group? with
    | some (times, all, rest) => goOn (.group times all) rest
    | none =>
      if inside && (code == 41 || code == 124) then ([], code :: rest)
      else if code == 42 then goOn .anyText rest
      else if code == 63 then goOn .anyCharacter rest
      else if code == 92 && !rest.isEmpty then goOn (.character (rest.headD 0)) (rest.drop 1)
      else if code == 91 then
        let isNegated := rest.head? == some 33 || rest.head? == some 94
        let inner := if isNegated then rest.drop 1 else rest
        match members? wide (inner.length + 1) [] inner with
        | some (members, rest) => goOn (.set isNegated members) rest
        | none => goOn (.character 91) rest
      else goOn (.character code) rest

/-- The alternatives of a group up to its end, and the pattern behind it. -/
def alternatives? (wide : Bool) : (bound : Nat) → Codes → Option (List (List Glob) × Codes)
  | 0, _ => none
  | bound + 1, text =>
    let (globs, rest) := read wide true bound text
    match rest with
    | 41 :: rest => some ([globs], rest)
    | 124 :: rest => (alternatives? wide bound rest).map fun (others, rest) => (globs :: others, rest)
    | _ => none

end

/-- A pattern as it is matched. -/
def ofPattern (wide : Bool) (pattern : Bytes) : List Glob :=
  let codes := Character.codes wide pattern
  (read wide false (2 * codes.length + 1) codes).1

/-- Does a pattern match all of a text? `wide` says that characters may have several bytes. -/
def isMatch (wide : Bool) (pattern text : Bytes) : Bool :=
  (Glob.afterAll [Character.codes wide text] (ofPattern wide pattern)).getLast?.any (·.isEmpty)

/-- The bytes of so many characters at the head of a text. -/
def lengthOf (wide : Bool) (text : Bytes) (count : Nat) : Nat :=
  if wide then (((Character.pieces true text).take count).map (·.length)).foldl (· + ·) 0 else count

/-- How many bytes at the head of a text a pattern takes, at most or at least. -/
def startLength? (wide longest : Bool) (pattern text : Bytes) : Option Nat :=
  let codes := Character.codes wide text
  let rests := Glob.afterAll [codes] (ofPattern wide pattern)
  (if longest then rests.getLast? else rests.head?).map fun rest =>
    lengthOf wide text (codes.length - rest.length)

/-- Where the part at the end of a text begins that a pattern takes, the longest or the shortest one. -/
def endStart? (wide longest : Bool) (pattern text : Bytes) : Option Nat :=
  let globs := ofPattern wide pattern
  let codes := Character.codes wide text
  let starts := List.range (codes.length + 1)
  ((if longest then starts else starts.reverse).find? fun n =>
    (Glob.afterAll [codes.drop n] globs).getLast?.any (·.isEmpty)).map (lengthOf wide text)

/-- A pattern in which parentheses stand for themselves. -/
def withoutGroups : Bytes → Bytes
  | 92 :: byte :: rest => 92 :: byte :: withoutGroups rest
  | 40 :: rest => 92 :: 40 :: withoutGroups rest
  | byte :: rest => byte :: withoutGroups rest
  | [] => []

/-- Does a text have anything in it that makes it a pattern? `inBrackets` says that a bracket has been
    opened. -/
def isPattern (inBrackets : Bool) : Bytes → Bool
  | 92 :: _ :: rest => isPattern inBrackets rest
  | byte :: rest =>
    byte == 42 || byte == 63 || (byte == 93 && inBrackets) ||
      ((times? byte.toNat).isSome && rest.head? == some 40) || isPattern (inBrackets || byte == 91) rest
  | [] => false

/-- A text with small letters only. -/
def folded (wide : Bool) (text : Bytes) : Bytes :=
  if wide then Character.map true Character.toLower text
  else text.map fun byte => if 65 ≤ byte && byte ≤ 90 then byte + 32 else byte

end Globs

end CleanLaunch.Shell
