import Chip8.Error

/-!
This file defines the hexadecimal keypad.
-/

namespace Chip8

/-- The keypad has sixteen keys. -/
abbrev keyCount : Nat := 16

structure Keypad where
  keys : Vector Bool keyCount
  deriving DecidableEq, Repr

namespace Keypad

def released : Keypad := ⟨Vector.replicate keyCount false⟩

/-- The last four bits of a number select a key. -/
def keyIndex (value : UInt8) : Fin keyCount := ⟨value.toNat % keyCount, Nat.mod_lt _ (by decide)⟩

def isHeld (keypad : Keypad) (value : UInt8) : Bool := keypad.keys[keyIndex value]

/-- The smallest held key is reported. -/
def firstHeld? (keypad : Keypad) : Option (Fin keyCount) := keypad.keys.findFinIdx? id

/-- The other keys keep their states. -/
def hold (keypad : Keypad) (key : Fin keyCount) (state : Bool) : Keypad :=
  ⟨keypad.keys.set key.val state key.isLt⟩

/-- Only the numbers of the sixteen keys are accepted. -/
def set (keypad : Keypad) (key : Int) (state : Bool) : Except KeypadError Keypad :=
  if valid : 0 ≤ key ∧ key < keyCount then
    .ok (keypad.hold ⟨key.toNat, by omega⟩ state)
  else .error (.outOfRange key)

/-- The states of a keypad stand in a list, and a text counts as the list of its characters. -/
def states? : Literal → Option (List Literal)
  | .list values => some values
  | .text value => some (value.toList.map fun c => .text (String.singleton c))
  | _ => none

/-- Only a plain row of sixteen states is accepted. -/
def ofLiteral (value : Literal) : Except KeypadError Keypad :=
  match states? value with
  | none => .error (.notIterable value)
  | some states =>
      if (Literal.list states).hasNothing then .error .nothing
      else
        match (Literal.list states).shape with
        | .error cause => .error (.ragged cause)
        | .ok shape =>
            if shape = [keyCount] then
              .ok ⟨Vector.ofFn fun key => (states.getD key.val .nothing).holds⟩
            else .error (.wrongShape shape)

end Keypad

end Chip8
