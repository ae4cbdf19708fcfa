import Chip8.Instruction

/-!
This file encodes instructions as opcodes and assembles programs.
-/

namespace Chip8

/-- An encoding fails at an operand, at a reserved word or at a literal. -/
inductive EncodeError where
  | outOfRange (kind : OperandKind) (value : Int)
  | reserved (address : Int)
  | notInstruction (value : Literal)
  deriving DecidableEq, Repr

def EncodeError.message : EncodeError → String
  | .outOfRange kind value =>
      kind.name ++ " out of range: " ++ Hex.literal 0 value ++
        " (max " ++ Hex.literal 0 kind.limit ++ ")"
  | .reserved address => "Sys(" ++ Hex.literal 5 address ++ ") collides with a reserved opcode"
  | .notInstruction value => "Cannot encode " ++ value.describe

namespace Instruction

/-- The first operand out of range, if there is one, stops the encoding. -/
def operandOutOfRange? (instruction : Instruction) : Option Operand :=
  instruction.operands.find? fun operand => !decide operand.InRange

/-- Two words of the system group are taken by other instructions. -/
def reservedAddress? : Instruction → Option Int
  | .sys address => if address = 0x0E0 ∨ address = 0x0EE then some address else none
  | _ => none

/-- This layout puts a register and a byte into an opcode. -/
def registerByte (group : Nat) (x byte : Int) : Nat :=
  group * 0x1000 + x.toNat * 0x100 + byte.toNat

/-- This layout puts two registers and a nibble into an opcode. -/
def registerPair (group : Nat) (x y nibble : Int) : Nat :=
  group * 0x1000 + x.toNat * 0x100 + y.toNat * 0x10 + nibble.toNat

/-- The layout is meant for operands in range. -/
def layout : Instruction → Nat
  | .sys address => address.toNat
  | .clearScreen => 0x00E0
  | .returnFromCall => 0x00EE
  | .jump address => 0x1000 + address.toNat
  | .call address => 0x2000 + address.toNat
  | .skipIfEqualImmediate x value => registerByte 0x3 x value
  | .skipIfNotEqualImmediate x value => registerByte 0x4 x value
  | .skipIfEqualRegister x y => registerPair 0x5 x y 0x0
  | .setImmediate x value => registerByte 0x6 x value
  | .addImmediate x value => registerByte 0x7 x value
  | .setRegister x y => registerPair 0x8 x y 0x0
  | .or x y => registerPair 0x8 x y 0x1
  | .and x y => registerPair 0x8 x y 0x2
  | .xor x y => registerPair 0x8 x y 0x3
  | .add x y => registerPair 0x8 x y 0x4
  | .subtract x y => registerPair 0x8 x y 0x5
  | .shiftRight x => registerPair 0x8 x 0x0 0x6
  | .subtractReversed x y => registerPair 0x8 x y 0x7
  | .shiftLeft x => registerPair 0x8 x 0x0 0xE
  | .skipIfNotEqualRegister x y => registerPair 0x9 x y 0x0
  | .setIndex address => 0xA000 + address.toNat
  | .jumpWithOffset address => 0xB000 + address.toNat
  | .random x mask => registerByte 0xC x mask
  | .draw x y height => registerPair 0xD x y height
  | .skipIfKeyPressed x => registerByte 0xE x 0x9E
  | .skipIfKeyNotPressed x => registerByte 0xE x 0xA1
  | .getDelayTimer x => registerByte 0xF x 0x07
  | .waitForKey x => registerByte 0xF x 0x0A
  | .setDelayTimer x => registerByte 0xF x 0x15
  | .setSoundTimer x => registerByte 0xF x 0x18
  | .addToIndex x => registerByte 0xF x 0x1E
  | .fontCharacter x => registerByte 0xF x 0x29
  | .binaryCodedDecimal x => registerByte 0xF x 0x33
  | .storeRegisters x => registerByte 0xF x 0x55
  | .loadRegisters x => registerByte 0xF x 0x65

/-- A reserved address is reported before the range of the operands. -/
def encode (instruction : Instruction) : Except EncodeError Nat :=
  match instruction.reservedAddress? with
  | some address => .error (.reserved address)
  | none =>
      match instruction.operandOutOfRange? with
      | some operand => .error (.outOfRange operand.kind operand.value)
      | none => .ok instruction.layout

end Instruction

/-- The high byte comes first. -/
def opcodeBytes (opcode : Nat) : List UInt8 :=
  [UInt8.ofNat (opcode / 0x100), UInt8.ofNat (opcode % 0x100)]

def Item.encode : Item → Except EncodeError Nat
  | .instruction value => value.encode
  | .literal value => .error (.notInstruction value)

/-- The first item that cannot be encoded stops the assembly. -/
def assemble : List Item → Except EncodeError (List UInt8)
  | [] => .ok []
  | item :: rest => do
      let opcode ← item.encode
      let bytes ← assemble rest
      return opcodeBytes opcode ++ bytes

end Chip8
