import CleanLaunch.Shell.Utility.Expression

/-! Scripts that edit lines.

    A script is a list of steps. Each step is a command with a selection of the lines it is for. Braces
    around steps are a step of their own, which leads behind the group for lines that are not selected. -/

namespace CleanLaunch.Shell.Utility.Editing

/-- A pattern that lines are searched for. -/
structure Pattern where
  expression : Regular
  look : Regular.Look
  groups : Nat

/-- Which lines are meant. A pattern that is missing is the one that was used last. -/
inductive Address
  | line (number : Nat)
  /-- A line, and every one that is some multiple of a step behind it. -/
  | step (first distance : Nat)
  | last
  | matching (pattern : Option Pattern)

/-- Where a range of lines ends. -/
inductive Finish
  | address (address : Address)
  /-- Some lines behind its start. -/
  | after (count : Nat)
  /-- At the next line whose number is a multiple. -/
  | multiple (factor : Nat)

/-- The lines that a command is for: all, one address, or the ranges between two. -/
structure Selection where
  first : Option Address := none
  finish : Option Finish := none
  isNegated : Bool := false

/-- What becomes of the case of letters. -/
inductive Casing
  | kept | raised | lowered
  deriving DecidableEq

/-- A piece of a replacement: a text, and what a group has matched behind it. -/
structure Piece where
  text : Bytes
  group : Option Nat := none
  casing : Casing := .kept
  /-- What becomes of the case of its first letter. -/
  first : Casing := .kept

/-- Where texts are written. -/
inductive Sink
  | main
  /-- Standard output, even where the edited lines go elsewhere. -/
  | standard
  | problems
  /-- A file, by the order in which the script names them. -/
  | file (index : Nat)
  deriving DecidableEq

/-- What matches of a pattern are replaced with. -/
structure Substitution where
  pattern : Option Pattern
  pieces : List Piece
  isGlobal : Bool := false
  /-- The first match that is replaced. -/
  occurrence : Nat := 1
  printsBefore : Bool := false
  prints : Bool := false
  /-- Is the result run as a command? -/
  isRun : Bool := false
  sink : Option Sink := none

/-- When a jump is made. -/
inductive When
  | always
  /-- If something has been replaced since the last line was read. -/
  | replaced
  | notReplaced
  deriving DecidableEq

/-- What a command does. The pattern space is the text that is edited, the hold space another one that
    is kept. -/
inductive Command
  /-- Nothing; the step is only there to be jumped to. -/
  | mark
  /-- Goes on behind a step unless a line is selected. -/
  | group (finish : Nat)
  | append (text : Bytes)
  | insert (text : Bytes)
  | change (text : Bytes)
  | jump (when_ : When) (label : Bytes)
  | delete
  | deleteFirst
  /-- Runs a command, which is the pattern space if it is empty. -/
  | run (command : Bytes)
  | fileName
  | getHeld
  | appendHeld
  | hold
  | holdMore
  | exchange
  | list (width : Option Nat)
  | next
  | appendNext
  | print
  | printFirst
  | quit (status : Nat) (prints : Bool)
  | readFile (path : Bytes)
  | readLine (path : Bytes)
  | substitute (substitution : Substitution)
  | write (sink : Sink)
  | writeFirst (sink : Sink)
  /-- Replaces characters by others. -/
  | translate (pairs : List (Bytes × Bytes))
  | clear
  | number

/-- A command and the lines it is for. -/
structure Step where
  selection : Selection
  command : Command

/-- A script. -/
structure Script where
  steps : Array Step := #[]
  /-- Steps that can be jumped to. -/
  labels : List (Bytes × Nat) := []
  /-- The files that it writes. -/
  files : List Bytes := []
  /-- Does it say that lines are not printed of themselves? -/
  isQuiet : Bool := false
  /-- What messages name as the place that was read last. -/
  place : Bytes := []

end CleanLaunch.Shell.Utility.Editing
