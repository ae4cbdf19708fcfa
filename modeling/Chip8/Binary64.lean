/-!
This file reads a double as the exact number that its bits stand for.
-/

namespace Chip8

/-- A double is no number, an infinity, or a signed integer times a power of two. -/
inductive Binary64 where
  | notANumber
  | infinite (negative : Bool)
  | finite (negative : Bool) (significand : Nat) (exponent : Int)
  deriving DecidableEq, Repr

/-- The exponent field selects the case, and the hidden bit belongs to every normal number. -/
def Binary64.ofFloat (value : Float) : Binary64 :=
  let bits := value.toBits.toNat
  let negative := bits / 0x8000000000000000 % 2 = 1
  let field : Nat := bits / 0x10000000000000 % 0x800
  let fraction := bits % 0x10000000000000
  if field = 2047 then
    if fraction = 0 then .infinite negative else .notANumber
  else if field = 0 then .finite negative fraction (-1074)
  else .finite negative (fraction + 0x10000000000000) (field - 1075)

/-- This power of two is exact for every exponent from -1074 to 1023. -/
def Binary64.powerOfTwo (exponent : Int) : Float :=
  if exponent < -1022 then Float.ofBits (UInt64.ofNat (Nat.pow 2 (exponent + 1074).toNat))
  else Float.ofBits (UInt64.ofNat ((exponent + 1023).toNat * 0x10000000000000))

/-- The floor of a finite number needs no rounding. -/
def Binary64.floor (negative : Bool) (significand : Nat) (exponent : Int) : Int :=
  let signed : Int := if negative then -significand else significand
  if 0 ≤ exponent then signed * Nat.pow 2 exponent.toNat else signed / Nat.pow 2 (-exponent).toNat

end Chip8
