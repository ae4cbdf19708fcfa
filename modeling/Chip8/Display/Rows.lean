import Chip8.Display
import Chip8.Literal.Shape

/-!
This file reads a display from its rows.
-/

namespace Chip8

/-- Without a row there is no width, and the rows must be equally long. -/
inductive RowsError where
  | noRow
  | ragged (cause : Ragged)
  deriving DecidableEq, Repr

def RowsError.message : RowsError → String
  | .noRow => "tuple index out of range"
  | .ragged cause => cause.message

/-- The rows run from the top, and the cells of a row from the left. -/
def Display.ofRows (rows : List (List Bool)) : Except RowsError Display :=
  match (Literal.list (rows.map fun row => .list (row.map .flag))).shape with
  | .ok [height, width] =>
      .ok (Grid.ofFn width height fun x y => (rows.getD y []).getD x false)
  | .ok _ => .error .noRow
  | .error cause => .error (.ragged cause)

end Chip8
