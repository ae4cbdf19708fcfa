import Chip8.Alu
import Chip8.Instruction.Decode
import Chip8.Machine

/-!
This file gives each instruction its effect on the machine.
-/

namespace Chip8

/-- A system call to this address clears the display. -/
def legacyClearAddress : Int := 0x230

/-- A jump to this address may switch to the square display. -/
def hiresJumpAddress : Int := 0x260

/-- The switch needs the program counter behind the first instruction of the program. -/
def hiresTriggerPc : UInt16 := 0x202

/-- The program goes on here after the switch. -/
def hiresEntryPoint : UInt16 := 0x2C0

/-- The index register keeps its low sixteen bits. -/
def indexMask : Nat := 0xFFFF

/-- These instructions combine two registers, and a shift combines a register with itself. -/
def Instruction.arithmetic? : Instruction → Option (AluOperation × Int × Int)
  | .setRegister x y => some (.set, x, y)
  | .or x y => some (.or, x, y)
  | .and x y => some (.and, x, y)
  | .xor x y => some (.xor, x, y)
  | .add x y => some (.add, x, y)
  | .subtract x y => some (.subtract, x, y)
  | .shiftRight x => some (.shiftRight, x, x)
  | .subtractReversed x y => some (.subtractReversed, x, y)
  | .shiftLeft x => some (.shiftLeft, x, x)
  | _ => none

namespace Machine

def setRegister (machine : Machine) (x : Int) (value : UInt8) : Machine :=
  { machine with registers := machine.registers.write x value }

/-- The flag is written last, so it wins when both registers are the same. -/
def compute (machine : Machine) (operation : AluOperation) (x y : Int) : Machine :=
  let outcome := operation.compute (machine.registers.read x).toNat (machine.registers.read y).toNat
  let changed := machine.setRegister x (UInt8.ofInt outcome.result)
  match outcome.flag? with
  | some flag => changed.setRegister flagRegister (UInt8.ofInt flag)
  | none => changed

/-- All pixels go dark. -/
def clearScreen (machine : Machine) : Machine :=
  { machine with display := machine.display.cleared, redraw := true }

/-- The display, its mode and the program counter change together. -/
def enterHires (machine : Machine) : Machine :=
  { machine with
    mode := .eti64x64
    display := Display.blank .eti64x64
    redraw := true
    pc := hiresEntryPoint }

def jump (machine : Machine) (address : Int) : Except Error Machine :=
  if fitsWord address then .ok { machine with pc := UInt16.ofInt address }
  else .error (.wideOperand address)

/-- The return address is stored before the jump. -/
def call (machine : Machine) (address : Int) : Except Error Machine :=
  match machine.stack.push machine.pc with
  | .ok stack => { machine with stack := stack }.jump address
  | .error error => .error error

def returnFromCall (machine : Machine) : Except Error Machine :=
  match machine.stack.pop machine.pc.toNat with
  | .ok (address, stack) => .ok { machine with stack := stack, pc := address }
  | .error error => .error error

/-- A skip passes over one instruction. -/
def skipIf (machine : Machine) (condition : Bool) : Machine :=
  if condition then { machine with pc := machine.pc + 2 } else machine

/-- A random byte is masked, and the key moves on. -/
def randomize [RandomLibrary] (machine : Machine) (x mask : Int) : Machine :=
  let value := bitAnd machine.key.byte.toNat mask
  { machine.setRegister x (UInt8.ofInt value) with key := machine.key.next }

/-- The rows of the sprite are read from the index onwards. -/
def spriteAt (machine : Machine) (x y height : Int) : Sprite where
  x := (machine.registers.read x).toNat
  y := (machine.registers.read y).toNat
  height := height.toNat
  row := fun r => machine.memory.read (machine.index.toNat + r)

/-- The flag tells whether the sprite met a lit pixel. -/
def draw (machine : Machine) (x y height : Int) : Machine :=
  let sprite := machine.spriteAt x y height
  let flag : UInt8 := if sprite.collides machine.display then 1 else 0
  { machine.setRegister flagRegister flag with
    display := sprite.flip machine.display
    redraw := true }

/-- Without a held key the same instruction is run again. -/
def waitForKey (machine : Machine) (x : Int) : Machine :=
  match machine.keypad.firstHeld? with
  | some key => machine.setRegister x (UInt8.ofNat key.val)
  | none => { machine with pc := machine.pc - 2 }

/-- The three digits of a byte are stored with the hundreds first. -/
def storeDecimal (machine : Machine) (x : Int) : Machine :=
  let value := (machine.registers.read x).toNat
  let digits := [value / 100, value / 10 % 10, value % 10].map UInt8.ofNat
  { machine with memory := machine.memory.writeBlock machine.index.toNat digits }

def storeRegisters (machine : Machine) (x : Int) : Machine :=
  let values := machine.registers.upTo x
  { machine with memory := machine.memory.writeBlock machine.index.toNat values }

def loadRegisters (machine : Machine) (x : Int) : Machine :=
  let value (r : Nat) := machine.memory.read (machine.index.toNat + r)
  { machine with registers := machine.registers.fillUpTo x value }

/-- The program counter is expected to point behind the instruction. -/
def apply [RandomLibrary] (machine : Machine) : Instruction → Except Error Machine
  | .sys address => .ok (if address = legacyClearAddress then machine.clearScreen else machine)
  | .clearScreen => .ok machine.clearScreen
  | .returnFromCall => machine.returnFromCall
  | .jump address =>
      if address = hiresJumpAddress ∧ machine.pc = hiresTriggerPc then .ok machine.enterHires
      else machine.jump address
  | .call address => machine.call address
  | .skipIfEqualImmediate x value =>
      .ok (machine.skipIf (decide ((machine.registers.read x).toNat = value)))
  | .skipIfNotEqualImmediate x value =>
      .ok (machine.skipIf (decide ((machine.registers.read x).toNat ≠ value)))
  | .skipIfEqualRegister x y =>
      .ok (machine.skipIf (decide (machine.registers.read x = machine.registers.read y)))
  | .skipIfNotEqualRegister x y =>
      .ok (machine.skipIf (decide (machine.registers.read x ≠ machine.registers.read y)))
  | .setImmediate x value =>
      if fitsWord value then .ok (machine.setRegister x (UInt8.ofInt value))
      else .error (.wideOperand value)
  | .addImmediate x value =>
      .ok (machine.setRegister x (UInt8.ofInt ((machine.registers.read x).toNat + value)))
  | .setRegister x y => .ok (machine.compute .set x y)
  | .or x y => .ok (machine.compute .or x y)
  | .and x y => .ok (machine.compute .and x y)
  | .xor x y => .ok (machine.compute .xor x y)
  | .add x y => .ok (machine.compute .add x y)
  | .subtract x y => .ok (machine.compute .subtract x y)
  | .shiftRight x => .ok (machine.compute .shiftRight x x)
  | .subtractReversed x y => .ok (machine.compute .subtractReversed x y)
  | .shiftLeft x => .ok (machine.compute .shiftLeft x x)
  | .setIndex address =>
      if fitsWord address then .ok { machine with index := UInt16.ofInt address }
      else .error (.wideOperand address)
  | .jumpWithOffset address =>
      .ok { machine with pc := UInt16.ofInt (address + (machine.registers.read 0).toNat) }
  | .random x mask => .ok (machine.randomize x mask)
  | .draw x y height => .ok (machine.draw x y height)
  | .skipIfKeyPressed x =>
      .ok (machine.skipIf (machine.keypad.isHeld (machine.registers.read x)))
  | .skipIfKeyNotPressed x =>
      .ok (machine.skipIf (!machine.keypad.isHeld (machine.registers.read x)))
  | .getDelayTimer x => .ok (machine.setRegister x machine.timers.delay)
  | .waitForKey x => .ok (machine.waitForKey x)
  | .setDelayTimer x =>
      .ok { machine with timers := { machine.timers with delay := machine.registers.read x } }
  | .setSoundTimer x =>
      .ok { machine with timers := { machine.timers with sound := machine.registers.read x } }
  | .addToIndex x =>
      .ok { machine with index := machine.index + (machine.registers.read x).toUInt16 }
  | .fontCharacter x =>
      .ok { machine with index := UInt16.ofNat (glyphAddress (machine.registers.read x)) }
  | .binaryCodedDecimal x => .ok (machine.storeDecimal x)
  | .storeRegisters x => .ok (machine.storeRegisters x)
  | .loadRegisters x => .ok (machine.loadRegisters x)

/-- A literal cannot be applied. -/
def applyItem [RandomLibrary] (machine : Machine) (item : Item) : Except Error Machine :=
  match item with
  | .instruction value => machine.apply value
  | .literal _ => .error (.fault (.unhandledInstruction item))

/-- Only the arithmetic instructions are accepted. -/
def applyArithmetic (machine : Machine) (item : Item) : Except Error Machine :=
  match item with
  | .instruction value =>
      match value.arithmetic? with
      | some (operation, x, y) => .ok (machine.compute operation x y)
      | none => .error (.notArithmetic item)
  | .literal _ => .error (.notArithmetic item)

/-- The opcode is decoded first. -/
def execute [RandomLibrary] (machine : Machine) (opcode : Int) : Except Error Machine :=
  match Instruction.decode opcode with
  | .ok instruction => machine.apply instruction
  | .error fault => .error (.fault fault)

/-- A literal is taken for an opcode. -/
def executeItem [RandomLibrary] (machine : Machine) : Item → Except Error Machine
  | .instruction value => machine.apply value
  | .literal value =>
      match value.integer with
      | .ok opcode => machine.execute opcode
      | .error error => .error (.integer error)

end Machine

end Chip8
