import Chip8.Color
import Chip8.Display
import Chip8.Error

/-!
This file turns a display into text and into a coloured image.
-/

namespace Chip8

abbrev Image : Type := Grid Color

/-- The rows of an image are repeated, or its columns. -/
inductive Axis where
  | rows
  | columns
  deriving DecidableEq, Repr

/-- The array library may refuse to repeat the rows or the columns of an image, whose height and
width it knows. -/
structure ArrayLibrary where
  refusal? (axis : Axis) (height width : Nat) (count : Int) : Option PictureError

namespace ArrayLibrary

def repeated (arrays : ArrayLibrary) (axis : Axis) (image : Image) (count : Int) :
    Except PictureError Image :=
  match arrays.refusal? axis image.height image.width count with
  | some error => .error error
  | none =>
      match axis with
      | .rows => .ok (image.repeatRows count.toNat)
      | .columns => .ok (image.repeatColumns count.toNat)

/-- The library refuses nothing but a count beyond a signed 64-bit word. -/
def roomy : ArrayLibrary where
  refusal? _ _ _ count := if fitsLong count then none else some .wideScale

end ArrayLibrary

namespace Display

/-- A row of the display becomes one symbol after the other. -/
def textRow (on off : String) {width : Nat} (row : Vector Bool width) : String :=
  String.join (row.toList.map fun lit => if lit then on else off)

/-- The border has a dash for each column. -/
def border (display : Display) : String := String.ofList (List.replicate display.width '─')

/-- The rows of the display stand in a frame. -/
def lines (display : Display) (on off : String) : List String :=
  ["┌" ++ display.border ++ "┐"] ++
    display.rows.toList.map (fun row => "│" ++ textRow on off row ++ "│") ++
    ["└" ++ display.border ++ "┘"]

def text (display : Display) (on off : String) : String :=
  "\n".intercalate (display.lines on off)

/-- A scale below one counts as one. -/
def blockSide (scale : Int) : Nat := max 1 scale.toNat

/-- Each pixel has the colour of a lit or of a dark pixel. -/
def colored (display : Display) (palette : Palette) : Image :=
  display.map fun lit => if lit then palette.on else palette.off

/-- Each pixel becomes a square block. -/
def image (display : Display) (scale : Int) (palette : Palette) : Image :=
  (display.colored palette).enlarge (blockSide scale)

/-- The array library repeats the rows before the columns, and only for a scale above one. -/
def image? (display : Display) (arrays : ArrayLibrary) (scale : Int) (palette : Palette) :
    Except PictureError Image :=
  if 1 < scale then do
    let tall ← arrays.repeated .rows (display.colored palette) scale
    arrays.repeated .columns tall scale
  else .ok (display.colored palette)

end Display

end Chip8
