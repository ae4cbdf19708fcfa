import Chip8.Instruction
import Chip8.Text.Hex

/-!
This file lists the faults that halt a machine.
-/

namespace Chip8

/-- A fault halts the machine before it changes. -/
inductive Fault where
  | invalidOpcode (opcode : Int)
  | unhandledInstruction (item : Item)
  | stackUnderflow (pc : Int)
  | stackOverflow (pc depth : Int)
  | programTooLarge (size capacity : Int)
  deriving DecidableEq, Repr

namespace Fault

def name : Fault → String
  | .invalidOpcode _ => "InvalidOpcode"
  | .unhandledInstruction _ => "UnhandledInstruction"
  | .stackUnderflow _ => "StackUnderflow"
  | .stackOverflow _ _ => "StackOverflow"
  | .programTooLarge _ _ => "ProgramTooLarge"

def overflowMessage (pc : Int) (depth : String) : String :=
  "Call stack overflow at depth " ++ depth ++ " (pc=0x" ++ Hex.padded 3 pc ++ ")"

def sizeMessage (size capacity : String) : String :=
  "Program of " ++ size ++ " bytes exceeds capacity of " ++ capacity ++ " bytes"

def message : Fault → String
  | .invalidOpcode opcode => "Invalid opcode 0x" ++ Hex.padded 4 opcode
  | .unhandledInstruction item => "Unhandled instruction " ++ item.describe
  | .stackUnderflow pc => "Return with empty call stack (pc=0x" ++ Hex.padded 3 pc ++ ")"
  | .stackOverflow pc depth => overflowMessage pc (toString depth)
  | .programTooLarge size capacity => sizeMessage (toString size) (toString capacity)

end Fault

end Chip8
