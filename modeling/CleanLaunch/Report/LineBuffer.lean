import CleanLaunch.Report.ChildLine

/-! The buffer in which the child builds a line.

    A buffer has a fixed number of cells and a count of those in use. An operation that would have to
    take a difference or write to a cell that does not exist gives nothing. -/

namespace CleanLaunch

open ChildLine (Part bufferLength capacity)

/-- The cells of a line in the making, and how many are in use. -/
structure LineBuffer where
  cells : Bytes
  used : Nat
  length_cells : cells.length = bufferLength

namespace LineBuffer

def empty : LineBuffer := ⟨List.replicate bufferLength 0, 0, List.length_replicate⟩

/-- Writes bytes into the cells from a place on, if these cells all exist. -/
def copy? (buffer : LineBuffer) (place : Nat) (bytes : Bytes) : Option LineBuffer :=
  if hroom : place + bytes.length ≤ bufferLength then
    some
      { buffer with
        cells := buffer.cells.take place ++ bytes ++ buffer.cells.drop (place + bytes.length)
        length_cells := by
          have hcells := buffer.length_cells
          simp only [List.length_append, List.length_take, List.length_drop]
          omega }
  else none

/-- The cells that may still be filled with one kept back, if so many are not in use already. -/
def room? (buffer : LineBuffer) : Option Nat :=
  if buffer.used ≤ capacity then some (capacity - buffer.used) else none

/-- Adds bytes behind those in use, as many as there is room for. -/
def push? (buffer : LineBuffer) (bytes : Bytes) : Option LineBuffer := do
  let room ← buffer.room?
  let copied ← buffer.copy? buffer.used (bytes.take room)
  return { copied with used := buffer.used + min bytes.length room }

/-- Puts a newline behind the bytes in use and gives all of them. -/
def emit? (buffer : LineBuffer) : Option Bytes := do
  let ended ← buffer.copy? buffer.used [10]
  return ended.cells.take (buffer.used + 1)

/-- A line of a level, built part by part. -/
def build? (level : ChildLevel) (parts : List Part) : Option LineBuffer :=
  (ChildLine.opening level :: parts.map Part.content).foldlM push? empty

end LineBuffer

end CleanLaunch
