import Chip8.Proofs.Reachable

/-!
This file proves which pixels a sprite changes and when it reports a collision.
-/

namespace Chip8

/-- A set bit of a sprite covers the pixel on which it falls, around the borders of the display. -/
def Sprite.Covers (sprite : Sprite) (width height p q : Nat) : Prop :=
  ∃ r c, r < sprite.height ∧ c < 8 ∧ p = (sprite.x + c) % width ∧ q = (sprite.y + r) % height ∧
    (sprite.row r).toNat.testBit (7 - c) = true

section Wrapping

variable {origin count size position step step' : Nat}

theorem mod_of_lt_twice {number : Nat} (small : number < 2 * size) :
    number % size = if number < size then number else number - size := by
  split
  · rename_i inside
    exact Nat.mod_eq_of_lt inside
  · rename_i outside
    rw [Nat.mod_eq_sub_mod (Nat.le_of_not_lt outside), Nat.mod_eq_of_lt (by omega)]

/-- A short way from the origin to a position has one length. -/
theorem wraps_to_iff (short : step < size) (inside : position < size) :
    (origin + step) % size = position ↔ (position + size - origin % size) % size = step := by
  have turned : origin % size < size := Nat.mod_lt _ (Nat.zero_lt_of_lt inside)
  rw [← Nat.mod_add_mod]
  generalize origin % size = start at *
  rw [mod_of_lt_twice (by omega), mod_of_lt_twice (by omega)]
  split <;> split <;> omega

theorem eq_of_wraps (short : step < size) (short' : step' < size)
    (same : (origin + step) % size = (origin + step') % size) : step = step' := by
  have inside : (origin + step') % size < size := Nat.mod_lt _ (Nat.zero_lt_of_lt short)
  exact ((wraps_to_iff short inside).mp same).symm.trans ((wraps_to_iff short' inside).mp rfl)

/-- When the steps do not go around, the last one is the only one. -/
theorem lastStep?_eq_some_iff (few : count ≤ size) (inside : position < size) :
    lastStep? origin count size position = some step ↔
      step < count ∧ (origin + step) % size = position := by
  have once (first : Nat) : (count - 1 - first) / size * size = 0 := by
    rw [Nat.div_eq_of_lt (by omega), Nat.zero_mul]
  simp only [lastStep?, once, Nat.add_zero, Option.ite_none_right_eq_some, Option.some.injEq]
  constructor
  · rintro ⟨reached, rfl⟩
    exact ⟨reached, (wraps_to_iff (by omega) inside).mpr rfl⟩
  · rintro ⟨reached, wraps⟩
    have first := (wraps_to_iff (by omega) inside).mp wraps
    exact ⟨first ▸ reached, first⟩

end Wrapping

theorem any_eq_true_iff {count : Nat} {test : (index : Nat) → index < count → Bool} :
    Nat.any count test = true ↔ ∃ index, ∃ below : index < count, test index below = true := by
  rw [Nat.any_eq_finRange_any, List.any_eq_true]
  constructor
  · rintro ⟨index, _, holds⟩
    exact ⟨index.val, index.isLt, holds⟩
  · rintro ⟨index, below, holds⟩
    exact ⟨⟨index, below⟩, List.mem_finRange _, holds⟩

/-- A sprite that is no larger than the display does not meet itself around the borders. -/
structure Sprite.Fits (sprite : Sprite) (display : Display) : Prop where
  wide : 8 ≤ display.width
  high : sprite.height ≤ display.height

namespace Sprite

variable {sprite : Sprite} {display : Display} {width height p q : Nat}

theorem covers_iff (wide : 8 ≤ width) (high : sprite.height ≤ height) (inside : p < width)
    (below : q < height) :
    sprite.covers width height p q = true ↔ sprite.Covers width height p q := by
  constructor
  · intro covered
    unfold covers rowAt? bitAt at covered
    cases row : lastStep? sprite.y sprite.height height q with
    | none => simp [row] at covered
    | some r =>
        cases column : lastStep? sprite.x 8 width p with
        | none => simp [row, column] at covered
        | some c =>
            obtain ⟨last, line⟩ := (lastStep?_eq_some_iff high below).mp row
            obtain ⟨few, stripe⟩ := (lastStep?_eq_some_iff wide inside).mp column
            refine ⟨r, c, last, few, stripe.symm, line.symm, ?_⟩
            simpa [row, column] using covered
  · rintro ⟨r, c, last, few, stripe, line, set⟩
    have row : lastStep? sprite.y sprite.height height q = some r :=
      (lastStep?_eq_some_iff high below).mpr ⟨last, line.symm⟩
    have column : lastStep? sprite.x 8 width p = some c :=
      (lastStep?_eq_some_iff wide inside).mpr ⟨few, stripe.symm⟩
    simpa [covers, rowAt?, bitAt, row, column] using set

theorem collides_iff : sprite.collides display = true ↔
    ∃ p q, p < display.width ∧ q < display.height ∧
      sprite.covers display.width display.height p q = true ∧ display.lit p q = true := by
  unfold collides
  rw [any_eq_true_iff]
  constructor
  · rintro ⟨q, below, met⟩
    cases row : sprite.rowAt? display.height q with
    | none => simp [row] at met
    | some byte =>
        simp only [row, any_eq_true_iff] at met
        obtain ⟨p, inside, met⟩ := met
        obtain ⟨lit, bit⟩ := Bool.and_eq_true_iff.mp met
        refine ⟨p, q, inside, below, ?_, ?_⟩
        · simpa [covers, row] using bit
        · simpa [Display.lit, Grid.cell?, inside, below] using lit
  · rintro ⟨p, q, inside, below, covered, lit⟩
    refine ⟨q, below, ?_⟩
    cases row : sprite.rowAt? display.height q with
    | none => simp [covers, row] at covered
    | some byte =>
        simp only [any_eq_true_iff]
        refine ⟨p, inside, Bool.and_eq_true_iff.mpr ⟨?_, ?_⟩⟩
        · simpa [Display.lit, Grid.cell?, inside, below] using lit
        · simpa [covers, row] using covered

namespace Fits

variable (fits : sprite.Fits display)
include fits

theorem inside (covered : sprite.Covers display.width display.height p q) :
    p < display.width ∧ q < display.height := by
  obtain ⟨r, c, last, few, rfl, rfl, _⟩ := covered
  have wide := fits.wide
  have high := fits.high
  exact ⟨Nat.mod_lt _ (by omega), Nat.mod_lt _ (by omega)⟩

theorem covers_eq_true_iff :
    p < display.width ∧ q < display.height ∧
        sprite.covers display.width display.height p q = true ↔
      sprite.Covers display.width display.height p q := by
  constructor
  · rintro ⟨inside, below, covered⟩
    exact (covers_iff fits.wide fits.high inside below).mp covered
  · intro covered
    obtain ⟨inside, below⟩ := fits.inside covered
    exact ⟨inside, below, (covers_iff fits.wide fits.high inside below).mpr covered⟩

/-- A covered pixel changes its state. -/
theorem lit_flip_of_covers (covered : sprite.Covers display.width display.height p q) :
    (sprite.flip display).lit p q = !display.lit p q := by
  obtain ⟨inside, below, covers⟩ := fits.covers_eq_true_iff.mpr covered
  simp [lit_flip, inside, below, covers]

theorem lit_flip_of_not_covers (free : ¬sprite.Covers display.width display.height p q) :
    (sprite.flip display).lit p q = display.lit p q := by
  rw [lit_flip]
  by_cases valid : p < display.width ∧ q < display.height
  · have open' : sprite.covers display.width display.height p q = false := by
      rw [← Bool.not_eq_true]
      exact fun covers => free (fits.covers_eq_true_iff.mp ⟨valid.1, valid.2, covers⟩)
    simp [open']
  · simp [valid]

/-- A sprite collides when one of the pixels that it covers is lit. -/
theorem collides_iff_covers : sprite.collides display = true ↔
    ∃ p q, sprite.Covers display.width display.height p q ∧ display.lit p q = true := by
  rw [collides_iff]
  constructor
  · rintro ⟨p, q, inside, below, covers, lit⟩
    exact ⟨p, q, fits.covers_eq_true_iff.mp ⟨inside, below, covers⟩, lit⟩
  · rintro ⟨p, q, covered, lit⟩
    obtain ⟨inside, below, covers⟩ := fits.covers_eq_true_iff.mpr covered
    exact ⟨p, q, inside, below, covers, lit⟩

end Fits
end Sprite

namespace Machine

variable {machine : Machine} {n : Int}

/-- Every mode has room for the largest sprite. -/
theorem Coherent.fits (coherent : machine.Coherent) {sprite : Sprite} (few : sprite.height ≤ 15) :
    sprite.Fits machine.display where
  wide := by
    have wide := machine.mode.le_size.1
    rw [coherent.width]
    omega
  high := by
    have high := machine.mode.le_size.2
    rw [coherent.height]
    omega

theorem covers_spriteAt_iff (machine : Machine) (x y n : Int) (w h p q : Nat) :
    (machine.spriteAt x y n).Covers w h p q ↔
      ∃ r c : Nat, r < n ∧ c < 8 ∧ p = ((machine.registers.read x).toNat + c) % w ∧
        q = ((machine.registers.read y).toNat + r) % h ∧
        machine.memory.cells[cellIndex (machine.index.toNat + r)].toNat.testBit (7 - c) = true := by
  have rows (r : Nat) : r < n.toNat ↔ r < n := by omega
  simp only [Sprite.Covers, spriteAt, rows]
  rfl

/-- A sprite changes the pixels that its set bits cover, each of them once, and the flag tells
whether one of them was lit. The other registers stay, and a frame is left waiting. -/
theorem draw_exact (reached : machine.Reachable) (x y : Int) (few : n ≤ 15) :
    let w := machine.display.width
    let h := machine.display.height
    let left := (machine.registers.read x).toNat
    let top := (machine.registers.read y).toNat
    let covered (p q : Nat) := ∃ r c : Nat, r < n ∧ c < 8 ∧ p = (left + c) % w ∧
      q = (top + r) % h ∧
      machine.memory.cells[cellIndex (machine.index.toNat + r)].toNat.testBit (7 - c) = true
    (w = machine.mode.width ∧ h = machine.mode.height) ∧
      (∀ r r' c c' : Nat, r < n → r' < n → c < 8 → c' < 8 → (left + c) % w = (left + c') % w →
        (top + r) % h = (top + r') % h → r = r' ∧ c = c') ∧
      ∃ registers display, machine.apply (.draw x y n) =
          .ok { machine with registers := registers, display := display, redraw := true } ∧
        (display.width = w ∧ display.height = h) ∧
        (∀ p q, (covered p q → display.lit p q = !machine.display.lit p q) ∧
          (¬covered p q → display.lit p q = machine.display.lit p q)) ∧
        ((∃ p q, covered p q ∧ machine.display.lit p q = true) → registers.read 15 = 1) ∧
        (¬(∃ p q, covered p q ∧ machine.display.lit p q = true) → registers.read 15 = 0) ∧
        ∀ r, 0 ≤ r ∧ r ≤ 15 → r ≠ 15 → registers.read r = machine.registers.read r := by
  intro w h left top covered
  let sprite := machine.spriteAt x y n
  let flag : UInt8 := if sprite.collides machine.display then 1 else 0
  have fits : sprite.Fits machine.display :=
    reached.coherent.fits (show n.toNat ≤ 15 by omega)
  have meets (p q : Nat) : sprite.Covers w h p q ↔ covered p q :=
    machine.covers_spriteAt_iff x y n w h p q
  have collides : sprite.collides machine.display = true ↔
      ∃ p q, covered p q ∧ machine.display.lit p q = true := by
    simp only [fits.collides_iff_covers, ← meets, w, h]
  have raised : (machine.registers.write flagRegister flag).read 15 = flag :=
    machine.registers.read_write_self flagRegister flag
  refine ⟨⟨reached.coherent.width, reached.coherent.height⟩, ?_,
    machine.registers.write flagRegister flag, sprite.flip machine.display, rfl, ⟨rfl, rfl⟩,
    fun p q => ⟨?_, ?_⟩, ?_, ?_, ?_⟩
  · intro r r' c c' last last' few few' stripe line
    have wide := fits.wide
    have high : n.toNat ≤ h := fits.high
    exact ⟨eq_of_wraps (by omega) (by omega) line, eq_of_wraps (by omega) (by omega) stripe⟩
  · exact fun hit => fits.lit_flip_of_covers ((meets p q).mpr hit)
  · exact fun free => fits.lit_flip_of_not_covers (mt (meets p q).mp free)
  · exact fun hit => raised.trans (if_pos (collides.mpr hit))
  · exact fun free => raised.trans (if_neg (mt collides.mp free))
  · intro r inside other
    exact Registers.read_write_of_ne _ _
      (mt (Instruction.registerIndex_injective (by decide) inside) other)

/-- A sprite of two rows starts at the last cell of the memory and near the last pixel, and its
column comes from the flag register. -/
def atLastPixel : Machine :=
  fresh.obeyAll [.apply (.instruction (.setIndex 0xFFF)),
    .apply (.instruction (.setImmediate 15 62)), .apply (.instruction (.setImmediate 1 31))]

/-- The second row is the top of a digit, and it lands around both borders. -/
theorem draw_of_atLastPixel :
    atLastPixel.Reachable ∧ (2 : Int) ≤ 15 ∧
      ∃ registers display, atLastPixel.apply (.draw 15 1 2) =
          .ok { atLastPixel with registers := registers, display := display, redraw := true } ∧
        display.lit 1 0 = true ∧ registers.read 15 = 0 := by
  have reached : atLastPixel.Reachable := reachable_fresh _
  have blank : atLastPixel.display = Display.blank .basic64x32 := by decide +kernel
  have dark (p q : Nat) : atLastPixel.display.lit p q = false := by
    rw [blank, Display.lit_blank]
  obtain ⟨_, _, registers, display, applied, _, pixels, _, free, _⟩ :=
    draw_exact reached 15 1 (show (2 : Int) ≤ 15 by decide)
  refine ⟨reached, by decide, registers, display, applied, ?_, free ?_⟩
  · rw [(pixels 1 0).1 ⟨1, 3, by decide, by decide, by decide +kernel, by decide +kernel,
      by decide +kernel⟩, dark]
    rfl
  · rintro ⟨p, q, _, lit⟩
    rw [dark] at lit
    contradiction

end Machine

end Chip8
