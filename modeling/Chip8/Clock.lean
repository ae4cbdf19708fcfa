/-!
This file defines a clock as the list of its coming readings.
-/

namespace Chip8

/-- A reading keeps all bits of a double, also of one that is no number. -/
structure Reading where
  bits : UInt64
  deriving DecidableEq, Repr

def Reading.ofSeconds (value : Float) : Reading := ⟨value.toBits⟩

def Reading.seconds (reading : Reading) : Float := Float.ofBits reading.bits

/-- A clock without readings stands at zero. -/
def Reading.zero : Reading := ⟨0⟩

structure Clock where
  readings : List Reading

/-- Each look at the clock uses up one reading, except that the last one stays. -/
def Clock.read (clock : Clock) : Reading × Clock :=
  match clock.readings with
  | [] => (.zero, clock)
  | [last] => (last, clock)
  | now :: rest => (now, ⟨rest⟩)

end Chip8
