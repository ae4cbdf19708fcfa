import Chip8.Timers.Seconds

/-!
This file measures time in seconds, with rational numbers as clock readings.
-/

namespace Chip8

/-- The exact tick is a sixtieth of a second. -/
def exactTick : Rat := 1 / timerFrequency

instance : TimeBase Rat where
  ticks last now := .ok ((now - last) / exactTick).floor
  advance last ticks := last + ticks * exactTick

end Chip8
