import CleanLaunch.Files.Image
import Mathlib.Algebra.BigOperators.Group.List.Basic

/-! What a program is started with.

    A path leads to a program at once, or by way of scripts that name their interpreters:
    `Image.behind_eq_ok`. Each script puts strings in front of those it was started with, behind the
    name of the program, and takes the room for them from what was left, so that a started program has
    the arguments of the call behind those strings and all of them within the limit:
    `Image.behind_started`, `Image.load_started`. -/

namespace CleanLaunch.Files.Image

variable {tree : Tree} {directory : Place} {title path : Bytes} {depth room : Nat}
  {arguments environment : List Bytes} {image : Image}

/-! ### Sizes -/

/-- Bytes that some strings take. -/
def sizeOfAll (strings : List Bytes) : Nat := sumOf (strings.map stringSize)

theorem sizeOfAll_append (front back : List Bytes) :
    sizeOfAll (front ++ back) = sizeOfAll front + sizeOfAll back := by
  simp only [sizeOfAll, sumOf, ← List.sum_eq_foldl, List.map_append, List.sum_append]

theorem sizeOfAll_cons (string : Bytes) (rest : List Bytes) :
    sizeOfAll (string :: rest) = sizeOfAll [string] + sizeOfAll rest :=
  sizeOfAll_append [string] rest

theorem sizeOfAll_take_drop (strings : List Bytes) (count : Nat) :
    sizeOfAll (strings.take count) + sizeOfAll (strings.drop count) = sizeOfAll strings := by
  rw [← sizeOfAll_append, List.take_append_drop]

/-- The room that is left is what the strings and the pointers to them do not take. -/
theorem roomAfter?_eq_some (hroom : roomAfter? path arguments environment = some room) :
    (∀ string ∈ path :: arguments ++ environment, string.length ≤ maxStringLength) ∧
      sizeOfAll (path :: arguments ++ environment) +
        pointerSize * (max arguments.length 1 + environment.length) + room = maxTotalLength := by
  rw [roomAfter?] at hroom
  split at hroom
  · next hfits =>
    rw [Bool.and_eq_true, List.all_eq_true, decide_eq_true_eq] at hfits
    obtain ⟨hstrings, hneeded⟩ := hfits
    obtain rfl := Option.some.inj hroom
    exact ⟨fun string hstring => of_decide_eq_true (hstrings string hstring),
      Nat.add_sub_cancel' hneeded⟩
  · cases hroom

/-! ### From a file to its program -/

/-- A file that was opened is a program, or a script whose interpreter is started in its place. -/
theorem behind_eq_ok {opened : Place × Node}
    (hbehind : behind tree directory title depth room opened path arguments = .ok image) :
    (opened = (image.place, .program image.program) ∧ image.title = title ∧
        image.arguments = arguments) ∨
      ∃ less interpreter argument next, depth = less + 1 ∧
        sizeOfAll (path :: Option.toList argument ++ [interpreter]) ≤
          room + sizeOfAll (arguments.take 1) ∧
        openFile tree directory interpreter = .ok next ∧
        behind tree directory title less (room + sizeOfAll (arguments.take 1) -
          sizeOfAll (path :: Option.toList argument ++ [interpreter])) next interpreter
          (interpreter :: Option.toList argument ++ path :: arguments.drop 1) = .ok image := by
  obtain ⟨place, node⟩ := opened
  cases depth with
  | zero => cases hbehind
  | succ less =>
    cases node with
    | program name =>
      obtain rfl := Except.ok.inj hbehind
      exact Or.inl ⟨rfl, rfl, rfl⟩
    | file mode content =>
      simp only [behind] at hbehind
      split at hbehind
      · cases hbehind
      · next interpreter argument _ =>
        split at hbehind
        · cases hbehind
        · next hroom =>
          split at hbehind
          · cases hbehind
          · next next hnext =>
            exact Or.inr ⟨less, interpreter, argument, next, rfl, Nat.le_of_not_lt hroom, hnext,
              hbehind⟩
    | _ => cases hbehind

/-- What is started for a file that was called with some arguments and some room for more. -/
structure Started (tree : Tree) (directory : Place) (room : Nat) (arguments : List Bytes)
    (image : Image) : Prop where
  /-- It is a program under a path that can be opened. -/
  program : ∃ path, openFile tree directory path = .ok (image.place, .program image.program)
  /-- Behind what scripts put there, it has all of the arguments but the first. -/
  kept : ∃ front, image.arguments = front ++ arguments.drop 1
  /-- Its arguments take no more than those of the call and the room that was left. -/
  size : sizeOfAll image.arguments ≤ room + sizeOfAll arguments

theorem behind_started : ∀ (depth : Nat) {room : Nat} {opened : Place × Node} {path : Bytes}
    {arguments : List Bytes}, openFile tree directory path = .ok opened →
    behind tree directory title depth room opened path arguments = .ok image →
    Started tree directory room arguments image
  | depth, room, opened, path, arguments, hopened, hbehind => by
    rcases behind_eq_ok hbehind with
      ⟨rfl, _, harguments⟩ | ⟨less, interpreter, argument, next, rfl, hroom, hnext, hlater⟩
    · refine ⟨⟨path, hopened⟩, ⟨arguments.take 1, ?_⟩, ?_⟩
      · rw [harguments, List.take_append_drop]
      · rw [harguments]
        exact Nat.le_add_left _ _
    · obtain ⟨hprogram, ⟨front, hkept⟩, hsize⟩ := behind_started less hnext hlater
      refine ⟨hprogram, ⟨front ++ Option.toList argument ++ [path], ?_⟩, ?_⟩
      · rw [hkept, List.cons_append, List.drop_succ_cons, List.drop_zero, List.append_assoc,
          List.append_assoc, List.singleton_append]
      · -- What the script puts there comes out of the room, and its first argument goes into it.
        have hput : sizeOfAll (interpreter :: Option.toList argument ++ path :: arguments.drop 1) =
            sizeOfAll (path :: Option.toList argument ++ [interpreter]) +
              sizeOfAll (arguments.drop 1) := by
          rw [sizeOfAll_append, sizeOfAll_append, sizeOfAll_cons interpreter,
            sizeOfAll_cons path (arguments.drop 1), sizeOfAll_cons path (Option.toList argument)]
          omega
        have hsplit := sizeOfAll_take_drop arguments 1
        omega

/-! ### From a path -/

/-- What a call starts: a program under a path that can be opened, with the arguments of the call except the first behind what scripts put there. No string of
    the call is too long, and all that the program starts with fits. -/
theorem load_started (hload : load tree directory path arguments environment = .ok image) :
    (∀ string ∈ path :: arguments ++ environment, string.length ≤ maxStringLength) ∧
      (∃ path, openFile tree directory path = .ok (image.place, .program image.program)) ∧
      (∃ front, image.arguments = front ++ arguments.drop 1) ∧
      sizeOfAll (path :: image.arguments ++ environment) +
        pointerSize * (max arguments.length 1 + environment.length) ≤ maxTotalLength := by
  rw [load] at hload
  split at hload
  · cases hload
  split at hload
  · cases hload
  · next opened hopened =>
    split at hload
    · cases hload
    · next room hroom =>
      obtain ⟨hstrings, hneeded⟩ := roomAfter?_eq_some hroom
      obtain ⟨hprogram, hkept, hsize⟩ := behind_started maxInterpreters hopened hload
      refine ⟨hstrings, hprogram, hkept, ?_⟩
      rw [sizeOfAll_append, sizeOfAll_cons] at hneeded ⊢
      omega

end CleanLaunch.Files.Image
