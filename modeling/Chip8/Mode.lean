/-!
This file lists the display modes.
-/

namespace Chip8

/-- A mode fixes the size of the display. -/
inductive Mode where
  | basic64x32
  | eti64x48
  | eti64x64
  | hp128x64
  deriving DecidableEq, Repr

/-- The modes stand in the order of their size. -/
def Mode.all : List Mode := [.basic64x32, .eti64x48, .eti64x64, .hp128x64]

def Mode.width : Mode → Nat
  | .basic64x32 => 64
  | .eti64x48 => 64
  | .eti64x64 => 64
  | .hp128x64 => 128

def Mode.height : Mode → Nat
  | .basic64x32 => 32
  | .eti64x48 => 48
  | .eti64x64 => 64
  | .hp128x64 => 64

theorem Mode.le_size (mode : Mode) : 64 ≤ mode.width ∧ 32 ≤ mode.height := by
  cases mode <;> decide

theorem Mode.size_le (mode : Mode) : mode.width ≤ 128 ∧ mode.height ≤ 64 := by
  cases mode <;> decide

def Mode.name : Mode → String
  | .basic64x32 => "BASIC_64x32"
  | .eti64x48 => "ETI_64x48"
  | .eti64x64 => "ETI_64x64"
  | .hp128x64 => "HP_128x64"

/-- A mode is found by its exact name. -/
def Mode.ofName? (name : String) : Option Mode := Mode.all.find? fun mode => mode.name == name

theorem Mode.ofName?_name (mode : Mode) : Mode.ofName? mode.name = some mode := by
  cases mode <;> decide

end Chip8
