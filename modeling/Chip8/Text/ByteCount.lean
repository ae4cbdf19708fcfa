import Chip8.Text.Fixed

/-!
This file writes numbers of bytes in binary units.
-/

namespace Chip8.ByteCount

def units : List String := ["bytes", "KiB", "MiB", "GiB", "TiB", "PiB", "EiB"]

/-- A double keeps the 53 leading bits of a number, and a half goes to the even neighbour. -/
def nearest (count : Nat) : Nat :=
  let unit := Nat.pow 2 (count.log2 - 52)
  Fixed.roundDiv count unit * unit

/-- The unit is the largest one that the rounded number reaches. -/
def unitOf (count : Nat) : Nat :=
  let step := count.log2 / 10
  let reached := if Fixed.roundDiv count (Nat.pow 1024 step) = 1024 then step + 1 else step
  min reached (units.length - 1)

/-- There are three digits, or more in front of the point, which is always written. -/
def digits (count unit : Nat) : String :=
  if Fixed.roundDiv (count * 100) unit < 1000 then
    Fixed.decimal 2 (Fixed.roundDiv (count * 100) unit)
  else if Fixed.roundDiv (count * 10) unit < 1000 then
    Fixed.decimal 1 (Fixed.roundDiv (count * 10) unit)
  else toString (Fixed.roundDiv count unit) ++ "."

/-- The number is rounded to a double before it is cut to its digits. -/
def text (count : Nat) : String :=
  let count := nearest count
  let step := unitOf count
  let number := if step = 0 then toString count else digits count (Nat.pow 1024 step)
  number ++ " " ++ units.getD step ""

end Chip8.ByteCount
