import Chip8.Fault
import Chip8.Instruction

/-!
This file decodes opcodes.
-/

namespace Chip8.Instruction

/-- The last nibble selects one of nine operations. -/
def decodeArithmetic? (x y : Int) : Nat → Option Instruction
  | 0x0 => some (.setRegister x y)
  | 0x1 => some (.or x y)
  | 0x2 => some (.and x y)
  | 0x3 => some (.xor x y)
  | 0x4 => some (.add x y)
  | 0x5 => some (.subtract x y)
  | 0x6 => some (.shiftRight x)
  | 0x7 => some (.subtractReversed x y)
  | 0xE => some (.shiftLeft x)
  | _ => none

/-- The low byte selects the direction of a key test. -/
def decodeKeyTest? (x : Int) : Nat → Option Instruction
  | 0x9E => some (.skipIfKeyPressed x)
  | 0xA1 => some (.skipIfKeyNotPressed x)
  | _ => none

/-- The low byte selects an operation on timers, index or memory. -/
def decodeTransfer? (x : Int) : Nat → Option Instruction
  | 0x07 => some (.getDelayTimer x)
  | 0x0A => some (.waitForKey x)
  | 0x15 => some (.setDelayTimer x)
  | 0x18 => some (.setSoundTimer x)
  | 0x1E => some (.addToIndex x)
  | 0x29 => some (.fontCharacter x)
  | 0x33 => some (.binaryCodedDecimal x)
  | 0x55 => some (.storeRegisters x)
  | 0x65 => some (.loadRegisters x)
  | _ => none

/-- The first nibble selects a group, and some words of a group have no meaning. -/
def decodeWord? (word : Nat) : Option Instruction :=
  let x : Int := ↑(word / 0x100 % 0x10)
  let y : Int := ↑(word / 0x10 % 0x10)
  let nibble := word % 0x10
  let byte := word % 0x100
  let address : Int := ↑(word % 0x1000)
  match word / 0x1000 with
  | 0x0 => some (if word = 0x00E0 then .clearScreen
      else if word = 0x00EE then .returnFromCall else .sys address)
  | 0x1 => some (.jump address)
  | 0x2 => some (.call address)
  | 0x3 => some (.skipIfEqualImmediate x byte)
  | 0x4 => some (.skipIfNotEqualImmediate x byte)
  | 0x5 => if nibble = 0 then some (.skipIfEqualRegister x y) else none
  | 0x6 => some (.setImmediate x byte)
  | 0x7 => some (.addImmediate x byte)
  | 0x8 => decodeArithmetic? x y nibble
  | 0x9 => if nibble = 0 then some (.skipIfNotEqualRegister x y) else none
  | 0xA => some (.setIndex address)
  | 0xB => some (.jumpWithOffset address)
  | 0xC => some (.random x byte)
  | 0xD => some (.draw x y nibble)
  | 0xE => decodeKeyTest? x byte
  | 0xF => decodeTransfer? x byte
  | _ => none

/-- A number that is no 16-bit word has no meaning either. -/
def decode? (opcode : Int) : Option Instruction :=
  if 0 ≤ opcode then decodeWord? opcode.toNat else none

/-- The fault names the opcode. -/
def decode (opcode : Int) : Except Fault Instruction :=
  match decode? opcode with
  | some instruction => .ok instruction
  | none => .error (.invalidOpcode opcode)

/-- An opcode without meaning is shown with three question marks. -/
def disassemble (opcode : Int) : String :=
  Hex.padded 4 opcode ++ "  " ++
    match decode? opcode with
    | some instruction => instruction.trace
    | none => "???"

end Chip8.Instruction
