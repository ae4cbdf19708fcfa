import Chip8.Literal
import Chip8.Text.Hex

/-!
This file defines the instruction set and the written form of an instruction.
-/

namespace Chip8

/-- The operands are unbounded integers, so an instruction may lack an opcode. -/
inductive Instruction where
  | sys (address : Int)
  | clearScreen
  | returnFromCall
  | jump (address : Int)
  | call (address : Int)
  | skipIfEqualImmediate (x value : Int)
  | skipIfNotEqualImmediate (x value : Int)
  | skipIfEqualRegister (x y : Int)
  | setImmediate (x value : Int)
  | addImmediate (x value : Int)
  | setRegister (x y : Int)
  | or (x y : Int)
  | and (x y : Int)
  | xor (x y : Int)
  | add (x y : Int)
  | subtract (x y : Int)
  | shiftRight (x : Int)
  | subtractReversed (x y : Int)
  | shiftLeft (x : Int)
  | skipIfNotEqualRegister (x y : Int)
  | setIndex (address : Int)
  | jumpWithOffset (address : Int)
  | random (x mask : Int)
  | draw (x y height : Int)
  | skipIfKeyPressed (x : Int)
  | skipIfKeyNotPressed (x : Int)
  | getDelayTimer (x : Int)
  | waitForKey (x : Int)
  | setDelayTimer (x : Int)
  | setSoundTimer (x : Int)
  | addToIndex (x : Int)
  | fontCharacter (x : Int)
  | binaryCodedDecimal (x : Int)
  | storeRegisters (x : Int)
  | loadRegisters (x : Int)
  deriving DecidableEq, Repr

/-- The kind of an operand fixes its size in an opcode. -/
inductive OperandKind where
  | register
  | address
  | byte
  | nibble
  deriving DecidableEq, Repr

def OperandKind.name : OperandKind → String
  | .register => "register"
  | .address => "address"
  | .byte => "byte"
  | .nibble => "nibble"

/-- The limit is the largest value that an opcode can hold. -/
def OperandKind.limit : OperandKind → Int
  | .register => 0xF
  | .address => 0xFFF
  | .byte => 0xFF
  | .nibble => 0xF

/-- An operand has a field name for the written form of its instruction. -/
structure Operand where
  field : String
  kind : OperandKind
  value : Int
  deriving DecidableEq, Repr

/-- An opcode can hold exactly the operands in range. -/
def Operand.InRange (operand : Operand) : Prop :=
  0 ≤ operand.value ∧ operand.value ≤ operand.kind.limit

instance (operand : Operand) : Decidable operand.InRange :=
  inferInstanceAs (Decidable (_ ∧ _))

namespace Instruction

def name : Instruction → String
  | .sys _ => "Sys"
  | .clearScreen => "ClearScreen"
  | .returnFromCall => "Return"
  | .jump _ => "Jump"
  | .call _ => "Call"
  | .skipIfEqualImmediate _ _ => "SkipIfEqualImmediate"
  | .skipIfNotEqualImmediate _ _ => "SkipIfNotEqualImmediate"
  | .skipIfEqualRegister _ _ => "SkipIfEqualRegister"
  | .setImmediate _ _ => "SetImmediate"
  | .addImmediate _ _ => "AddImmediate"
  | .setRegister _ _ => "SetRegister"
  | .or _ _ => "Or"
  | .and _ _ => "And"
  | .xor _ _ => "Xor"
  | .add _ _ => "Add"
  | .subtract _ _ => "Subtract"
  | .shiftRight _ => "ShiftRight"
  | .subtractReversed _ _ => "SubtractReversed"
  | .shiftLeft _ => "ShiftLeft"
  | .skipIfNotEqualRegister _ _ => "SkipIfNotEqualRegister"
  | .setIndex _ => "SetIndex"
  | .jumpWithOffset _ => "JumpWithOffset"
  | .random _ _ => "Random"
  | .draw _ _ _ => "Draw"
  | .skipIfKeyPressed _ => "SkipIfKeyPressed"
  | .skipIfKeyNotPressed _ => "SkipIfKeyNotPressed"
  | .getDelayTimer _ => "GetDelayTimer"
  | .waitForKey _ => "WaitForKey"
  | .setDelayTimer _ => "SetDelayTimer"
  | .setSoundTimer _ => "SetSoundTimer"
  | .addToIndex _ => "AddToIndex"
  | .fontCharacter _ => "FontCharacter"
  | .binaryCodedDecimal _ => "BinaryCodedDecimal"
  | .storeRegisters _ => "StoreRegisters"
  | .loadRegisters _ => "LoadRegisters"

/-- The operands stand in the order of their fields, which is also their order in an opcode. -/
def operands : Instruction → List Operand
  | .clearScreen | .returnFromCall => []
  | .sys address | .jump address | .call address | .setIndex address | .jumpWithOffset address =>
      [⟨"address", .address, address⟩]
  | .skipIfEqualImmediate x value | .skipIfNotEqualImmediate x value
  | .setImmediate x value | .addImmediate x value =>
      [⟨"x", .register, x⟩, ⟨"value", .byte, value⟩]
  | .random x mask => [⟨"x", .register, x⟩, ⟨"mask", .byte, mask⟩]
  | .skipIfEqualRegister x y | .skipIfNotEqualRegister x y | .setRegister x y
  | .or x y | .and x y | .xor x y | .add x y | .subtract x y | .subtractReversed x y =>
      [⟨"x", .register, x⟩, ⟨"y", .register, y⟩]
  | .draw x y height => [⟨"x", .register, x⟩, ⟨"y", .register, y⟩, ⟨"height", .nibble, height⟩]
  | .shiftRight x | .shiftLeft x | .skipIfKeyPressed x | .skipIfKeyNotPressed x
  | .getDelayTimer x | .waitForKey x | .setDelayTimer x | .setSoundTimer x | .addToIndex x
  | .fontCharacter x | .binaryCodedDecimal x | .storeRegisters x | .loadRegisters x =>
      [⟨"x", .register, x⟩]

/-- The name is followed by the operands in brackets. -/
def written (number : Int → String) (instruction : Instruction) : String :=
  let entries := instruction.operands.map fun operand =>
    operand.field ++ "=" ++ number operand.value
  instruction.name ++ "(" ++ ", ".intercalate entries ++ ")"

/-- Messages show decimal operands. -/
def describe (instruction : Instruction) : String := instruction.written toString

/-- Traces show hexadecimal operands. -/
def trace (instruction : Instruction) : String := instruction.written Hex.upper

/-- An instruction is built from its name and its operands in order. -/
def build? (name : String) (values : List Int) : Option Instruction :=
  match name, values with
  | "Sys", [address] => some (.sys address)
  | "ClearScreen", [] => some .clearScreen
  | "Return", [] => some .returnFromCall
  | "Jump", [address] => some (.jump address)
  | "Call", [address] => some (.call address)
  | "SkipIfEqualImmediate", [x, value] => some (.skipIfEqualImmediate x value)
  | "SkipIfNotEqualImmediate", [x, value] => some (.skipIfNotEqualImmediate x value)
  | "SkipIfEqualRegister", [x, y] => some (.skipIfEqualRegister x y)
  | "SetImmediate", [x, value] => some (.setImmediate x value)
  | "AddImmediate", [x, value] => some (.addImmediate x value)
  | "SetRegister", [x, y] => some (.setRegister x y)
  | "Or", [x, y] => some (.or x y)
  | "And", [x, y] => some (.and x y)
  | "Xor", [x, y] => some (.xor x y)
  | "Add", [x, y] => some (.add x y)
  | "Subtract", [x, y] => some (.subtract x y)
  | "ShiftRight", [x] => some (.shiftRight x)
  | "SubtractReversed", [x, y] => some (.subtractReversed x y)
  | "ShiftLeft", [x] => some (.shiftLeft x)
  | "SkipIfNotEqualRegister", [x, y] => some (.skipIfNotEqualRegister x y)
  | "SetIndex", [address] => some (.setIndex address)
  | "JumpWithOffset", [address] => some (.jumpWithOffset address)
  | "Random", [x, mask] => some (.random x mask)
  | "Draw", [x, y, height] => some (.draw x y height)
  | "SkipIfKeyPressed", [x] => some (.skipIfKeyPressed x)
  | "SkipIfKeyNotPressed", [x] => some (.skipIfKeyNotPressed x)
  | "GetDelayTimer", [x] => some (.getDelayTimer x)
  | "WaitForKey", [x] => some (.waitForKey x)
  | "SetDelayTimer", [x] => some (.setDelayTimer x)
  | "SetSoundTimer", [x] => some (.setSoundTimer x)
  | "AddToIndex", [x] => some (.addToIndex x)
  | "FontCharacter", [x] => some (.fontCharacter x)
  | "BinaryCodedDecimal", [x] => some (.binaryCodedDecimal x)
  | "StoreRegisters", [x] => some (.storeRegisters x)
  | "LoadRegisters", [x] => some (.loadRegisters x)
  | _, _ => none

end Instruction

/-- A program listing may hold a literal by mistake. -/
inductive Item where
  | instruction (value : Instruction)
  | literal (value : Literal)
  deriving DecidableEq, Repr

def Item.describe : Item → String
  | .instruction value => value.describe
  | .literal value => value.describe

/-- A text alone is shown without quotes. -/
def Item.plain : Item → String
  | .instruction value => value.describe
  | .literal value => value.plain

def Item.type : Item → String
  | .instruction value => value.name
  | .literal value => value.kind

/-- One item alone is shown without a frame. -/
def Item.describeAll : List Item → String
  | [] => ""
  | [item] => item.plain
  | items => "(" ++ ", ".intercalate (items.map describe) ++ ")"

end Chip8
