/-!
This file defines rectangular grids of cells, which serve as displays and as images.
-/

namespace Chip8

/-- The rows of a grid run from the top, and the cells of a row from the left. -/
structure Grid (α : Type) where
  width : Nat
  height : Nat
  rows : Vector (Vector α width) height
  deriving DecidableEq, Repr

/-- The function gives the cell in column `x` of row `y`. -/
def Grid.ofFn {α : Type} (width height : Nat) (cell : Nat → Nat → α) : Grid α where
  width := width
  height := height
  rows := Vector.ofFn fun y => Vector.ofFn fun x => cell x.val y.val

/-- There is no cell outside the grid. -/
def Grid.cell? {α : Type} (grid : Grid α) (x y : Nat) : Option α :=
  if valid : x < grid.width ∧ y < grid.height then
    have below := valid.2
    have inside := valid.1
    some grid.rows[y][x]
  else none

/-- All cells of the grid are equal. -/
def Grid.fill {α : Type} (width height : Nat) (value : α) : Grid α where
  width := width
  height := height
  rows := Vector.replicate height (Vector.replicate width value)

/-- The map keeps the place of each cell. -/
def Grid.map {α β : Type} (f : α → β) (grid : Grid α) : Grid β where
  width := grid.width
  height := grid.height
  rows := grid.rows.map fun row => row.map f

/-- Each entry of a vector is repeated a number of times. -/
def stretch {α : Type} {count : Nat} (times : Nat) (entries : Vector α count) :
    Vector α (count * times) :=
  Vector.ofFn fun index =>
    have inside : index.val / times < count :=
      Nat.div_lt_of_lt_mul (Nat.mul_comm count times ▸ index.isLt)
    entries[index.val / times]

/-- Each row stands as often as told, one below the other. -/
def Grid.repeatRows {α : Type} (grid : Grid α) (times : Nat) : Grid α where
  width := grid.width
  height := grid.height * times
  rows := stretch times grid.rows

/-- Each cell of a row stands as often as told, one beside the other. -/
def Grid.repeatColumns {α : Type} (grid : Grid α) (times : Nat) : Grid α where
  width := grid.width * times
  height := grid.height
  rows := grid.rows.map (stretch times)

/-- Each cell becomes a square block of equal cells. -/
def Grid.enlarge {α : Type} (grid : Grid α) (scale : Nat) : Grid α :=
  (grid.repeatRows scale).repeatColumns scale

theorem Grid.ext_rows {α : Type} {left right : Grid α} (width : left.width = right.width)
    (height : left.height = right.height)
    (cells : ∀ x y, left.cell? x y = right.cell? x y) : left = right := by
  obtain ⟨w, h, rows⟩ := left
  obtain ⟨w', h', rows'⟩ := right
  obtain rfl : w = w' := width
  obtain rfl : h = h' := height
  congr
  apply Vector.ext
  intro y below
  apply Vector.ext
  intro x inside
  have same := cells x y
  simpa [Grid.cell?, below, inside] using same

@[simp] theorem Grid.cell?_ofFn {α : Type} (width height : Nat) (cell : Nat → Nat → α)
    (x y : Nat) : (Grid.ofFn width height cell).cell? x y =
      if x < width ∧ y < height then some (cell x y) else none := by
  by_cases below : y < height <;> by_cases inside : x < width <;>
    simp [Grid.cell?, Grid.ofFn, below, inside]

@[simp] theorem Grid.cell?_fill {α : Type} (width height : Nat) (value : α) (x y : Nat) :
    (Grid.fill width height value).cell? x y =
      if x < width ∧ y < height then some value else none := by
  by_cases below : y < height <;> by_cases inside : x < width <;>
    simp [Grid.cell?, Grid.fill, below, inside]

@[simp] theorem Grid.cell?_map {α β : Type} (f : α → β) (grid : Grid α) (x y : Nat) :
    (grid.map f).cell? x y = (grid.cell? x y).map f := by
  by_cases below : y < grid.height <;> by_cases inside : x < grid.width <;>
    simp [Grid.cell?, Grid.map, below, inside]

theorem getElem_stretch {α : Type} {count : Nat} (times : Nat) (entries : Vector α count)
    (index : Nat) (inside : index < count * times) (below : index / times < count) :
    (stretch times entries)[index] = entries[index / times] := by
  simp [stretch]

theorem Grid.cell?_repeatRows {α : Type} (grid : Grid α) (times x y : Nat) (positive : 0 < times) :
    (grid.repeatRows times).cell? x y = grid.cell? x (y / times) := by
  have below : y < grid.height * times ↔ y / times < grid.height :=
    (Nat.div_lt_iff_lt_mul positive).symm
  by_cases valid : x < grid.width ∧ y / times < grid.height
  · simp [Grid.cell?, Grid.repeatRows, below, valid, getElem_stretch]
  · simp [Grid.cell?, Grid.repeatRows, below, valid]

theorem Grid.cell?_repeatColumns {α : Type} (grid : Grid α) (times x y : Nat)
    (positive : 0 < times) : (grid.repeatColumns times).cell? x y = grid.cell? (x / times) y := by
  have inside : x < grid.width * times ↔ x / times < grid.width :=
    (Nat.div_lt_iff_lt_mul positive).symm
  by_cases valid : x / times < grid.width ∧ y < grid.height
  · simp [Grid.cell?, Grid.repeatColumns, inside, valid, getElem_stretch]
  · simp [Grid.cell?, Grid.repeatColumns, inside, valid]

theorem Grid.cell?_enlarge {α : Type} (grid : Grid α) (scale x y : Nat) (positive : 0 < scale) :
    (grid.enlarge scale).cell? x y = grid.cell? (x / scale) (y / scale) := by
  rw [enlarge, cell?_repeatColumns _ _ _ _ positive, cell?_repeatRows _ _ _ _ positive]

/-- Blocks of a single cell change nothing. -/
theorem Grid.enlarge_one {α : Type} (grid : Grid α) : grid.enlarge 1 = grid := by
  refine Grid.ext_rows (Nat.mul_one _) (Nat.mul_one _) fun x y => ?_
  rw [cell?_enlarge _ _ _ _ Nat.one_pos, Nat.div_one, Nat.div_one]

end Chip8
