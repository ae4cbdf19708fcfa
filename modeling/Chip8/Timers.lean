import Chip8.Error

/-!
This file defines the two countdown timers and their update from clock readings.
-/

namespace Chip8

/-- A time base counts the whole ticks between two readings and moves a reading by ticks. -/
class TimeBase (τ : Type) where
  ticks (last now : τ) : Except ClockError Int
  advance (last : τ) (ticks : Int) : τ

/-- The timers remember the reading at which their last tick began. -/
structure Timers (τ : Type) where
  delay : UInt8
  sound : UInt8
  last : τ
  deriving DecidableEq, Repr

/-- A timer stops at zero. -/
def countDown (timer : UInt8) (ticks : Int) : UInt8 := UInt8.ofNat (timer.toNat - ticks.toNat)

/-- A partial tick stays for the next update, and a clock that goes back changes nothing. -/
def Timers.update {τ : Type} [TimeBase τ] (timers : Timers τ) (now : τ) :
    Except ClockError (Timers τ) :=
  match TimeBase.ticks timers.last now with
  | .error error => .error error
  | .ok ticks =>
      if ticks ≤ 0 then .ok timers
      else .ok {
        delay := countDown timers.delay ticks
        sound := countDown timers.sound ticks
        last := TimeBase.advance timers.last ticks }

end Chip8
