import CleanLaunch.Report.ChildLine

/-! What a line of the child holds, whatever its pieces.

    However a line is put together, it shows the whole of its pieces one after another, as far as
    that fits: `ChildLine.Shows`. Every addition keeps to this, also when the line is full
    already: `ChildLine.shows_pushBytes`. The texts of errors are short, `Errno.length_text_le`,
    so a message that consists of little else is never cut: `ChildLine.log_of_fits`. -/

namespace CleanLaunch

namespace ChildLine

/-- The line holds as much of a content as fits before the newline. -/
def Shows (line : ChildLine) (content : Bytes) : Prop := line.bytes = content.take capacity

theorem shows_pushBytes {line : ChildLine} {content : Bytes} (hshows : line.Shows content)
    (more : Bytes) : (line.pushBytes more).Shows (content ++ more) := by
  have hbytes : line.bytes = content.take capacity := hshows
  have hroom : line.room = capacity - content.length := by
    rw [room, hbytes, List.length_take]
    omega
  rw [Shows, pushBytes, hroom, hbytes, List.take_append]

theorem shows_writeText {line : ChildLine} {content : Bytes} (hshows : line.Shows content)
    (text : Bytes) : (line.writeText text).Shows (content ++ text) :=
  shows_pushBytes hshows text

theorem shows_start (level : ChildLevel) : (start level).Shows (opening level) :=
  shows_writeText (show (⟨[]⟩ : ChildLine).Shows [] from rfl) (opening level)

theorem emit_of_shows {line : ChildLine} {content : Bytes} (hshows : line.Shows content) :
    line.emit = content.take capacity ++ [10] :=
  congrArg (· ++ [10]) hshows

/-- A message that fits behind the opening is logged whole. -/
theorem log_of_fits {level : ChildLevel} {message : Bytes}
    (hfits : (opening level ++ message).length ≤ capacity) :
    log level message = opening level ++ message ++ [10] := by
  rw [log, emit_of_shows (shows_writeText (shows_start level) message),
    List.take_of_length_le hfits]

end ChildLine

namespace Errno

theorem length_text_le (errno : Errno) : errno.text.length ≤ 100 := by
  cases errno <;> decide +kernel

theorem length_text_pos (errno : Errno) : 0 < errno.text.length := by
  have hcolon : (utf8 ": ").length = 2 := by decide
  rw [text, List.length_append, List.length_append, hcolon]
  omega

end Errno

end CleanLaunch
