import Chip8.Clock
import Chip8.Machine.Apply

/-!
This file runs the fetch, decode and execute cycle.
-/

namespace Chip8.Machine

/-- The word at the program counter is read, and nothing changes. -/
def peek (machine : Machine) : Nat := machine.memory.word machine.pc.toNat

/-- The program counter moves behind the word. -/
def advance (machine : Machine) : Machine := { machine with pc := machine.pc + 2 }

/-- The timers are updated after the fetch and before the instruction is applied. -/
def step [RandomLibrary] (machine : Machine) (now : Reading) : Except Error Machine := do
  let ready ← machine.advance.updateTimers now
  ready.execute machine.peek

/-- The run lists the program counter after each step. -/
def run [RandomLibrary] (machine : Machine) (clock : Clock) :
    Nat → Except Error (List UInt16 × Machine)
  | 0 => .ok ([], machine)
  | count + 1 => do
      let (now, clock) := clock.read
      let next ← machine.step now
      let (rest, final) ← next.run clock count
      return (next.pc :: rest, final)

end Chip8.Machine
