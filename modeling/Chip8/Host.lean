/-!
This file states the limits of the host.
-/

namespace Chip8

/-- A number fits a signed 32-bit word. -/
def fitsWord (value : Int) : Prop := -0x80000000 ≤ value ∧ value < 0x80000000

instance (value : Int) : Decidable (fitsWord value) := inferInstanceAs (Decidable (_ ∧ _))

/-- A number fits a signed 64-bit word. -/
def fitsLong (value : Int) : Prop :=
  -0x8000000000000000 ≤ value ∧ value < 0x8000000000000000

instance (value : Int) : Decidable (fitsLong value) := inferInstanceAs (Decidable (_ ∧ _))

/-- A signed 32-bit word keeps the low bits of a number. -/
def wrapWord (value : Int) : Int := value.bmod 0x100000000

theorem wrapWord_of_fits {value : Int} (fits : fitsWord value) : wrapWord value = value := by
  obtain ⟨lower, upper⟩ := fits
  exact Int.bmod_eq_of_le_mul_two (by omega) (by omega)

end Chip8
