import Chip8.CallStack
import Chip8.Display
import Chip8.Font
import Chip8.Keypad
import Chip8.Memory
import Chip8.Setting
import Chip8.Timers.Seconds

/-!
This file defines the state of the machine and the operations that do not run a program.
-/

namespace Chip8

/-- The display is kept apart from the mode that fixes its size. -/
structure Machine where
  key : RandomKey
  memory : Memory
  pc : UInt16
  index : UInt16
  registers : Registers
  stack : CallStack
  timers : Timers Reading
  keypad : Keypad
  display : Display
  redraw : Bool
  mode : Mode
  deriving DecidableEq

namespace Machine

/-- A new machine holds only the font. -/
def create (key : RandomKey) (mode : Mode) (now : Reading) : Machine where
  key := key
  memory := Memory.blank.writeBlock fontStart fontBytes
  pc := UInt16.ofNat programStart
  index := 0
  registers := Registers.blank
  stack := CallStack.empty
  timers := ⟨0, 0, now⟩
  keypad := Keypad.released
  display := Display.blank mode
  redraw := false
  mode := mode

/-- The seed is checked before the mode. -/
def ofSettings (seed? : Option Int) (mode? : Option String) (now : Reading) :
    Except SettingError Machine := do
  let key ← RandomKey.ofSetting seed?
  return create key (← Mode.ofSetting mode?) now

/-- The random key and the mode survive a reset, and the program does not. -/
def reset (machine : Machine) (now : Reading) : Machine := create machine.key machine.mode now

/-- The resolution belongs to the mode. -/
def resolution (machine : Machine) : Nat × Nat := (machine.mode.width, machine.mode.height)

/-- The timers may refuse the reading. -/
def updateTimers (machine : Machine) (now : Reading) : Except Error Machine :=
  match machine.timers.update now with
  | .ok timers => .ok { machine with timers := timers }
  | .error error => .error (.clock error)

/-- A key of the keypad is pressed or released. -/
def hold (machine : Machine) (key : Fin keyCount) (state : Bool) : Machine :=
  { machine with keypad := machine.keypad.hold key state }

def setKey (machine : Machine) (key : Int) (state : Bool) : Except Error Machine :=
  match machine.keypad.set key state with
  | .ok keypad => .ok { machine with keypad := keypad }
  | .error error => .error (.keypad error)

def press (machine : Machine) (key : Int) : Except Error Machine := machine.setKey key true

def release (machine : Machine) (key : Int) : Except Error Machine := machine.setKey key false

/-- The whole keypad is replaced. -/
def setKeys (machine : Machine) (states : Literal) : Except Error Machine :=
  match Keypad.ofLiteral states with
  | .ok keypad => .ok { machine with keypad := keypad }
  | .error error => .error (.keypad error)

/-- A changed display is handed out once. -/
def consumeFrame (machine : Machine) : Option Display × Machine :=
  if machine.redraw then (some machine.display, { machine with redraw := false })
  else (none, machine)

end Machine

end Chip8
