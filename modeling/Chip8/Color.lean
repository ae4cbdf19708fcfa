import Chip8.Setting

/-!
This file defines colours and the named pairs of them.
-/

namespace Chip8

structure Color where
  red : UInt8
  green : UInt8
  blue : UInt8
  deriving DecidableEq, Repr

/-- A component of a colour must be a byte. -/
inductive ColorError where
  | outOfRange (value : Int)
  | wideComponent
  deriving DecidableEq, Repr

def ColorError.message : ColorError → String
  | .outOfRange value => "Python integer " ++ toString value ++ " out of bounds for uint8"
  | .wideComponent => "Python int too large to convert to C long"

/-- A number beyond a signed 64-bit word is told apart. -/
def Color.component (value : Int) : Except ColorError UInt8 :=
  if 0 ≤ value ∧ value < 0x100 then .ok (UInt8.ofInt value)
  else if fitsLong value then .error (.outOfRange value)
  else .error .wideComponent

/-- The first component out of range is reported. -/
def Color.ofComponents (red green blue : Int) : Except ColorError Color := do
  return ⟨← component red, ← component green, ← component blue⟩

/-- A palette colours the lit and the dark pixels. -/
structure Palette where
  on : Color
  off : Color
  deriving DecidableEq, Repr

/-- The components of the dark colour are checked first. -/
def Palette.ofComponents (on off : Int × Int × Int) : Except ColorError Palette := do
  let off ← Color.ofComponents off.1 off.2.1 off.2.2
  let on ← Color.ofComponents on.1 on.2.1 on.2.2
  return ⟨on, off⟩

/-- A scheme is a palette with a name. -/
inductive Scheme where
  | classic
  | amber
  | white
  | blue
  | retro
  deriving DecidableEq, Repr

namespace Scheme

def all : List Scheme := [.classic, .amber, .white, .blue, .retro]

def name : Scheme → String
  | .classic => "classic"
  | .amber => "amber"
  | .white => "white"
  | .blue => "blue"
  | .retro => "retro"

def palette : Scheme → Palette
  | .classic => ⟨⟨0, 255, 0⟩, ⟨0, 0, 0⟩⟩
  | .amber => ⟨⟨255, 176, 0⟩, ⟨0, 0, 0⟩⟩
  | .white => ⟨⟨255, 255, 255⟩, ⟨0, 0, 0⟩⟩
  | .blue => ⟨⟨0, 255, 255⟩, ⟨0, 0, 64⟩⟩
  | .retro => ⟨⟨255, 255, 0⟩, ⟨64, 0, 64⟩⟩

def ofName? (name : String) : Option Scheme := all.find? fun scheme => scheme.name == name

def ofSetting (name : String) : Except SettingError Scheme :=
  match ofName? name with
  | some scheme => .ok scheme
  | none => .error (.unknownScheme name)

end Scheme

end Chip8
