import Chip8.Display
import Chip8.Memory

/-!
This file lists the differences between two memories and between two displays.
-/

namespace Chip8

/-- Each run of bytes that differ has the address of its first byte. -/
def Memory.changes (old new : Memory) : List (Nat × List UInt8) :=
  let differing := (old.cells.toList.zip new.cells.toList).zipIdx.filter fun change =>
    change.1.1 != change.1.2
  (differing.splitBy fun left right => left.2 + 1 == right.2).filterMap fun run =>
    run.head?.map fun first => (first.2, run.map fun change => change.1.2)

namespace Display

/-- The rows run from the top. -/
def rowLists (display : Display) : List (List Bool) := display.rows.toList.map Vector.toList

/-- Each row that differs has its number, and a display of another size counts as dark. -/
def changes (old new : Display) : List (Nat × List Bool) :=
  let base := if old.width = new.width ∧ old.height = new.height then old else new.cleared
  (base.rowLists.zip new.rowLists).zipIdx.filterMap fun ((before, after), y) =>
    if before == after then none else some (y, after)

end Display

end Chip8
