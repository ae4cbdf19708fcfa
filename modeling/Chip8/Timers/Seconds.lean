import Chip8.Binary64
import Chip8.Clock
import Chip8.Timers

/-!
This file measures time in seconds, with doubles as clock readings.
-/

namespace Chip8

/-- The timers run at sixty ticks a second. -/
def timerFrequency : Nat := 60

/-- The tick is the double next to a sixtieth of a second. -/
def tickSeconds : Float := Float.ofBits 0x3F91111111111111

/-- The remainder has the sign of the first number, and it needs no rounding. -/
def remainder (negative : Bool) (significand : Nat) (exponent : Int)
    (significand' : Nat) (exponent' : Int) : Float :=
  let shared := min exponent exponent'
  let units := (significand * Nat.pow 2 (exponent - shared).toNat) %
    (significand' * Nat.pow 2 (exponent' - shared).toNat)
  let size := Float.ofNat units * Binary64.powerOfTwo shared
  if negative then -size else size

/-- The quotient is rounded down, except that it snaps to an integer just above it. -/
def snapDown (quotient : Float) : Except ClockError Int :=
  match Binary64.ofFloat quotient with
  | .notANumber => .error .notANumber
  | .infinite _ => .error .infinite
  | .finite negative significand exponent =>
      let below := Binary64.floor negative significand exponent
      .ok (if quotient - Float.ofInt below > 0.5 then below + 1 else below)

/-- The number of whole ticks is a floor division of doubles, corrected by the remainder. -/
def wholeTicks (elapsed : Float) : Except ClockError Int :=
  match Binary64.ofFloat elapsed, Binary64.ofFloat tickSeconds with
  | .finite negative significand exponent, .finite _ significand' exponent' =>
      let rest := remainder negative significand exponent significand' exponent'
      let quotient := (elapsed - rest) / tickSeconds
      snapDown (if rest < 0 then quotient - 1 else quotient)
  | _, _ => .error .notANumber

instance : TimeBase Reading where
  ticks last now := wholeTicks (now.seconds - last.seconds)
  advance last ticks := .ofSeconds (last.seconds + Float.ofInt ticks * tickSeconds)

end Chip8
