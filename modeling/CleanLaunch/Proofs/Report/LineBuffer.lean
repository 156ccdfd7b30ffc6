import CleanLaunch.Proofs.Report.ChildLine
import CleanLaunch.Report.LineBuffer

/-! Lines of the child in the buffer they are built in.

    The buffer has a fixed number of cells and a count of those in use, and nothing may be written
    outside of it: a `LineBuffer` operation whose difference or whose range does not exist gives
    nothing. None ever does. A buffer that `Holds` a line takes every addition and holds the line
    with the addition, `push?_of_holds`, so by induction on the parts it holds every line that can
    be put together, `build?_holds`, and has a cell left for the newline. What the line is depends
    only on the bytes of all parts together, of which it shows the first: `ofParts_truncated`. -/

namespace CleanLaunch

open ChildLine (Part bufferLength capacity)

namespace LineBuffer

/-! ### What a buffer holds -/

/-- The cells in use are the line, and one more is left for the newline. -/
structure Holds (buffer : LineBuffer) (line : ChildLine) : Prop where
  used_eq : buffer.used = line.bytes.length
  bytes_eq : buffer.cells.take buffer.used = line.bytes
  used_le : buffer.used ≤ capacity

variable {buffer : LineBuffer} {line : ChildLine}

theorem holds_empty : empty.Holds ⟨[]⟩ := ⟨rfl, rfl, Nat.zero_le _⟩

/-- Bytes copied behind those in use are read back behind them. -/
theorem copy?_of_holds (hholds : buffer.Holds line) (bytes : Bytes)
    (hroom : buffer.used + bytes.length ≤ bufferLength) :
    ∃ copied, buffer.copy? buffer.used bytes = some copied ∧
      copied.cells.take (buffer.used + bytes.length) = line.bytes ++ bytes := by
  refine ⟨_, dif_pos hroom, ?_⟩
  have hlength : (buffer.cells.take buffer.used ++ bytes).length = buffer.used + bytes.length := by
    rw [List.length_append, hholds.bytes_eq, hholds.used_eq]
  show (buffer.cells.take buffer.used ++ bytes ++ _).take (buffer.used + bytes.length) = _
  rw [← hlength, List.take_left, hholds.bytes_eq]

theorem push?_of_holds (hholds : buffer.Holds line) (bytes : Bytes) :
    ∃ pushed, buffer.push? bytes = some pushed ∧ pushed.Holds (line.pushBytes bytes) := by
  have hcapacity : capacity + 1 = bufferLength := rfl
  have hused := hholds.used_le
  have hroom : buffer.room? = some line.room := by
    rw [room?, if_pos hused, hholds.used_eq, ChildLine.room]
  have hpiece : (bytes.take line.room).length = min bytes.length line.room := by
    rw [List.length_take, Nat.min_comm]
  have hfits : buffer.used + min bytes.length line.room ≤ capacity := by
    rw [ChildLine.room, ← hholds.used_eq]
    omega
  obtain ⟨copied, hcopied, hcells⟩ := copy?_of_holds hholds (bytes.take line.room) (by omega)
  refine ⟨{ copied with used := buffer.used + min bytes.length line.room }, ?_, ?_, ?_, hfits⟩
  · rw [push?, hroom, Option.bind_eq_bind, Option.bind_some, hcopied]
    rfl
  · rw [ChildLine.pushBytes, List.length_append, hpiece, ← hholds.used_eq]
  · rw [← hpiece]
    exact hcells

/-- The newline goes into the cell that was kept back. -/
theorem emit?_of_holds (hholds : buffer.Holds line) : buffer.emit? = some line.emit := by
  have hcapacity : capacity + 1 = bufferLength := rfl
  obtain ⟨ended, hended, hcells⟩ := copy?_of_holds hholds [10]
    (hcapacity ▸ Nat.succ_le_succ hholds.used_le)
  rw [emit?, hended, Option.bind_eq_bind, Option.bind_some, ChildLine.emit, ← hcells]
  rfl

theorem foldlM_push?_of_holds : ∀ (pieces : List Bytes) {buffer : LineBuffer} {line : ChildLine},
    buffer.Holds line →
    ∃ filled, pieces.foldlM push? buffer = some filled ∧
      filled.Holds (pieces.foldl ChildLine.pushBytes line)
  | [], _, _, hholds => ⟨_, rfl, hholds⟩
  | piece :: rest, buffer, line, hholds => by
    obtain ⟨pushed, hpush, hpushed⟩ := push?_of_holds hholds piece
    rw [List.foldlM_cons, hpush]
    exact foldlM_push?_of_holds rest hpushed

end LineBuffer

namespace ChildLine

theorem add_eq (line : ChildLine) (part : Part) : line.add part = line.pushBytes part.content := by
  cases part <;> rfl

theorem ofParts_eq_foldl (level : ChildLevel) (parts : List Part) :
    ofParts level parts = (opening level :: parts.map Part.content).foldl pushBytes ⟨[]⟩ := by
  rw [ofParts, List.foldl_cons, List.foldl_map]
  exact congrArg (List.foldl · _ parts) (funext fun line => funext fun part => add_eq line part)

/-- However many parts there are, the buffer holds their line. -/
theorem build?_holds (level : ChildLevel) (parts : List Part) :
    ∃ buffer, LineBuffer.build? level parts = some buffer ∧
      buffer.Holds (ofParts level parts) := by
  rw [ofParts_eq_foldl]
  exact LineBuffer.foldlM_push?_of_holds _ LineBuffer.holds_empty

theorem shows_foldl : ∀ (pieces : List Bytes) {line : ChildLine} {content : Bytes},
    line.Shows content → (pieces.foldl pushBytes line).Shows (content ++ pieces.flatten)
  | [], _, content, hshows => by rwa [List.flatten_nil, List.append_nil]
  | piece :: rest, line, content, hshows => by
    rw [List.foldl_cons, List.flatten_cons, ← List.append_assoc]
    exact shows_foldl rest (shows_pushBytes hshows piece)

theorem shows_ofParts (level : ChildLevel) (parts : List Part) :
    (ofParts level parts).Shows (opening level ++ parts.flatMap Part.content) := by
  rw [ofParts_eq_foldl, List.flatMap_def, ← List.flatten_cons]
  exact shows_foldl _ (show (⟨[]⟩ : ChildLine).Shows [] from rfl)

theorem emit_ofParts (level : ChildLevel) (parts : List Part) :
    (ofParts level parts).emit =
      (opening level ++ parts.flatMap Part.content).take capacity ++ [10] :=
  emit_of_shows (shows_ofParts level parts)

/-- A line is the first 511 bytes of its level's opening and all its parts one after another, and it
    is written with a newline, in at most 512 bytes. After each of the parts on the way the buffer
    holds the line so far, no byte was written outside of it, and there is room for the newline.
    Parts with the same bytes, cut in any other way and added by either operation, give the same
    line, and so does one message. -/
theorem ofParts_truncated (level : ChildLevel) (parts : List Part) :
    let whole := opening level ++ parts.flatMap Part.content
    (ofParts level parts).bytes = whole.take 511 ∧
      (ofParts level parts).emit = whole.take 511 ++ [10] ∧
      (ofParts level parts).emit.length ≤ 512 ∧
      (∀ n, let reached := ofParts level (parts.take n)
        reached.bytes.length ≤ 511 ∧
          ∃ buffer, LineBuffer.build? level (parts.take n) = some buffer ∧
            buffer.Holds reached ∧ buffer.emit? = some reached.emit) ∧
      (∀ others : List Part, others.flatMap Part.content = parts.flatMap Part.content →
        (ofParts level others).emit = (ofParts level parts).emit) ∧
      log level (parts.flatMap Part.content) = (ofParts level parts).emit := by
  intro whole
  have hemit : (ofParts level parts).emit = whole.take 511 ++ [10] := emit_ofParts level parts
  refine ⟨shows_ofParts level parts, hemit, ?_, fun n => ?_, fun others hsame => ?_, ?_⟩
  · rw [hemit, List.length_append, List.length_take, List.length_singleton]
    omega
  · obtain ⟨buffer, hbuild, hholds⟩ := build?_holds level (parts.take n)
    exact ⟨hholds.used_eq ▸ hholds.used_le, buffer, hbuild, hholds,
      LineBuffer.emit?_of_holds hholds⟩
  · rw [emit_ofParts, hsame, emit_ofParts]
  · rw [log, emit_of_shows (shows_writeText (shows_start level) _), emit_ofParts]

/-- A character of two bytes of which only the first one fits, and a part behind it. -/
theorem ofParts_truncated_character :
    let filler := List.replicate 485 (120 : UInt8)
    let parts : List Part := [.bytes filler, .text (utf8 "é"), .bytes (utf8 "more")]
    (ofParts .warn parts).bytes = opening .warn ++ filler ++ [195] ∧
      (ofParts .warn (parts.take 2)).bytes.length ≤ 511 ∧
      (∃ buffer, LineBuffer.build? .warn (parts.take 2) = some buffer ∧
        buffer.used = (ofParts .warn (parts.take 2)).bytes.length) ∧
      (ofParts .warn [.text (filler ++ utf8 "émore")]).emit = (ofParts .warn parts).emit := by
  intro filler parts
  obtain ⟨hbytes, _, _, hreached, hsame, _⟩ := ofParts_truncated .warn parts
  obtain ⟨hlength, buffer, hbuild, hholds, _⟩ := hreached 2
  exact ⟨hbytes.trans (by decide +kernel), hlength, ⟨buffer, hbuild, hholds.used_eq⟩,
    hsame _ (by decide +kernel)⟩

end ChildLine

end CleanLaunch
