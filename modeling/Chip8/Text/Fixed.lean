import Chip8.Binary64

/-!
This file writes doubles with a fixed number of decimal places.
-/

namespace Chip8.Fixed

/-- The quotient is rounded to the nearest integer, and a half goes to the even neighbour. -/
def roundDiv (numerator denominator : Nat) : Nat :=
  let quotient := numerator / denominator
  let rest := numerator % denominator
  if 2 * rest < denominator then quotient
  else if denominator < 2 * rest then quotient + 1
  else quotient + quotient % 2

/-- The scaled value counts units of the last place. -/
def scaled (places significand : Nat) (exponent : Int) : Nat :=
  if 0 ≤ exponent then significand * Nat.pow 2 exponent.toNat * Nat.pow 10 places
  else roundDiv (significand * Nat.pow 10 places) (Nat.pow 2 (-exponent).toNat)

/-- A point separates the last places, each of which is written. -/
def decimal (places units : Nat) : String :=
  let whole := toString (units / Nat.pow 10 places)
  if places = 0 then whole
  else
    let part := (toString (units % Nat.pow 10 places)).toList
    whole ++ "." ++ String.ofList (List.replicate (places - part.length) '0' ++ part)

/-- The text keeps the sign of a number that is rounded to zero. -/
def text (places : Nat) (value : Float) : String :=
  match Binary64.ofFloat value with
  | .notANumber => "nan"
  | .infinite negative => if negative then "-inf" else "inf"
  | .finite negative significand exponent =>
      (if negative then "-" else "") ++ decimal places (scaled places significand exponent)

/-- Blanks on the left fill the text to the width. -/
def alignRight (width : Nat) (body : String) : String :=
  String.ofList (List.replicate (width - body.length) ' ') ++ body

end Chip8.Fixed
