import Chip8.Machine.Load
import Chip8.Machine.Step

/-!
This file gathers the operations on a machine into one type, so that a history is a list.
-/

namespace Chip8

/-- A command carries all that its operation reads from outside. -/
inductive Command where
  | step (now : Reading)
  | execute (item : Item)
  | apply (item : Item)
  | updateTimers (now : Reading)
  | load (source : ProgramSource)
  | reset (now : Reading)
  | press (key : Int)
  | release (key : Int)
  | setKeys (states : Literal)
  | consumeFrame
  deriving DecidableEq

namespace Machine

def perform [RandomLibrary] (machine : Machine) : Command → Except Error Machine
  | .step now => machine.step now
  | .execute item => machine.executeItem item
  | .apply item => machine.applyItem item
  | .updateTimers now => machine.updateTimers now
  | .load source => machine.loadSource source
  | .reset now => .ok (machine.reset now)
  | .press key => machine.press key
  | .release key => machine.release key
  | .setKeys states => machine.setKeys states
  | .consumeFrame => .ok machine.consumeFrame.2

/-- A refused command leaves the machine alone. -/
def obey [RandomLibrary] (machine : Machine) (command : Command) : Machine :=
  match machine.perform command with
  | .ok next => next
  | .error _ => machine

/-- The commands of a history follow each other. -/
def obeyAll [RandomLibrary] (machine : Machine) (commands : List Command) : Machine :=
  commands.foldl obey machine

end Machine

end Chip8
