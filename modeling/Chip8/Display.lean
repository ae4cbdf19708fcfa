import Chip8.Grid
import Chip8.Mode

/-!
This file defines the display and the drawing of sprites on it.
-/

namespace Chip8

/-- A pixel of the display is lit or dark. -/
abbrev Display : Type := Grid Bool

/-- All pixels are dark at first. -/
def Display.blank (mode : Mode) : Display := Grid.fill mode.width mode.height false

/-- A pixel outside the display is dark. -/
def Display.lit (display : Display) (x y : Nat) : Bool := (display.cell? x y).getD false

/-- The size stays when the display is cleared. -/
def Display.cleared (display : Display) : Display := Grid.fill display.width display.height false

/-- A sprite is eight pixels wide and has one byte for each row. -/
structure Sprite where
  x : Nat
  y : Nat
  height : Nat
  row : Nat → UInt8

/-- Of the steps that lead from the origin around the border to a position, the last one counts. -/
def lastStep? (origin count size position : Nat) : Option Nat :=
  let first := (position + size - origin % size) % size
  if first < count then some (first + (count - 1 - first) / size * size) else none

/-- The row that falls on a line of the display may be missing. -/
def Sprite.rowAt? (sprite : Sprite) (height y : Nat) : Option UInt8 :=
  (lastStep? sprite.y sprite.height height y).map sprite.row

/-- The leftmost pixel of a row is its highest bit. -/
def Sprite.bitAt (sprite : Sprite) (width : Nat) (byte : UInt8) (x : Nat) : Bool :=
  match lastStep? sprite.x 8 width x with
  | some column => byte.toNat.testBit (7 - column)
  | none => false

/-- A sprite covers the pixels on which one of its set bits falls. -/
def Sprite.covers (sprite : Sprite) (width height x y : Nat) : Bool :=
  match sprite.rowAt? height y with
  | some byte => sprite.bitAt width byte x
  | none => false

/-- The covered pixels change their state. -/
def Sprite.flip (sprite : Sprite) (display : Display) : Display where
  width := display.width
  height := display.height
  rows := Vector.ofFn fun y =>
    match sprite.rowAt? display.height y.val with
    | some byte => Vector.ofFn fun x =>
        display.rows[y][x] ^^ sprite.bitAt display.width byte x.val
    | none => display.rows[y]

/-- A sprite collides with the display when it covers a lit pixel. -/
def Sprite.collides (sprite : Sprite) (display : Display) : Bool :=
  Nat.any display.height fun y below =>
    match sprite.rowAt? display.height y with
    | some byte => Nat.any display.width fun x inside =>
        display.rows[y][x] && sprite.bitAt display.width byte x
    | none => false

theorem Display.ext_lit {left right : Display} (width : left.width = right.width)
    (height : left.height = right.height) (pixels : ∀ x y, left.lit x y = right.lit x y) :
    left = right := by
  apply Grid.ext_rows width height
  intro x y
  have same := pixels x y
  simp only [Display.lit, Grid.cell?, width, height] at same ⊢
  split <;> simp_all

@[simp] theorem Display.lit_blank (mode : Mode) (x y : Nat) :
    (Display.blank mode).lit x y = false := by
  simp only [Display.lit, Display.blank, Grid.cell?_fill]
  split <;> rfl

@[simp] theorem Display.lit_cleared (display : Display) (x y : Nat) :
    display.cleared.lit x y = false := by
  simp only [Display.lit, Display.cleared, Grid.cell?_fill]
  split <;> rfl

theorem Sprite.lit_flip (sprite : Sprite) (display : Display) (x y : Nat) :
    (sprite.flip display).lit x y =
      (display.lit x y ^^ (decide (x < display.width ∧ y < display.height) &&
        sprite.covers display.width display.height x y)) := by
  by_cases valid : x < display.width ∧ y < display.height
  · obtain ⟨inside, below⟩ := valid
    cases row : sprite.rowAt? display.height y <;>
      simp [Display.lit, Grid.cell?, Sprite.flip, Sprite.covers, inside, below, row]
  · simp [Display.lit, Grid.cell?, Sprite.flip, valid]

end Chip8
