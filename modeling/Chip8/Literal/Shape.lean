import Chip8.Literal

/-!
This file finds the lengths of the sides of nested lists.
-/

namespace Chip8

/-- A shape with one side has a comma behind it. -/
def describeShape (shape : List Nat) : String :=
  match shape with
  | [side] => "(" ++ toString side ++ ",)"
  | sides => "(" ++ ", ".intercalate (sides.map toString) ++ ")"

/-- A shape has no more sides. -/
def sideLimit : Nat := 64

/-- A list without a shape is known by the sides on which its parts agree. -/
structure Ragged where
  sides : List Nat
  deriving DecidableEq, Repr

/-- Parts that agree on all sides up to the limit lie too deep. -/
def Ragged.message (ragged : Ragged) : String :=
  "setting an array element with a sequence. The requested array " ++
    if ragged.sides.length = sideLimit then
      "would exceed the maximum number of dimension of " ++ toString sideLimit ++ "."
    else
      "has an inhomogeneous shape after " ++ toString ragged.sides.length ++
        " dimensions. The detected shape was " ++ describeShape ragged.sides ++
        " + inhomogeneous part."

namespace Literal

mutual

/-- The depth counts the lists around the innermost value. -/
def depth : Literal → Nat
  | .list values => depthAll values + 1
  | _ => 0

def depthAll : List Literal → Nat
  | [] => 0
  | value :: rest => max value.depth (depthAll rest)

end

/-- Only a list has entries. -/
def entries? : Literal → Option (List Literal)
  | .list values => some values
  | _ => none

/-- The lists of a level must be equally long, and they must not stand beside other values. -/
def sides (level : List Literal) : Nat → List Nat × Bool
  | 0 => ([], level.all fun value => value.entries?.isNone)
  | depth + 1 =>
      match level.mapM entries? with
      | some [] => ([], true)
      | some (first :: rest) =>
          if rest.all fun entries => entries.length == first.length then
            let (inner, even) := sides (first :: rest).flatten depth
            (first.length :: inner, even)
          else ([], false)
      | none => ([], level.all fun value => value.entries?.isNone)

/-- The sides are listed from the outermost to the innermost. -/
def shape (value : Literal) : Except Ragged (List Nat) :=
  match sides [value] (min value.depth sideLimit) with
  | (sides, true) => .ok sides
  | (sides, false) => .error ⟨sides⟩

end Literal

end Chip8
