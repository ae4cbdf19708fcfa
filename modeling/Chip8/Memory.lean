/-!
This file defines the byte memory and the bank of registers.
-/

namespace Chip8

/-- The memory has 4096 bytes. -/
abbrev memorySize : Nat := 4096

/-- A program is loaded at this address. -/
def programStart : Nat := 0x200

/-- A program may fill the memory above its start. -/
def programCapacity : Nat := memorySize - programStart

structure Memory where
  cells : Vector UInt8 memorySize
  deriving DecidableEq, Repr

/-- An address is taken modulo the size of the memory. -/
def cellIndex (address : Nat) : Fin memorySize :=
  ⟨address % memorySize, Nat.mod_lt address (by decide)⟩

namespace Memory

def blank : Memory := ⟨Vector.replicate memorySize 0⟩

def read (memory : Memory) (address : Nat) : UInt8 := memory.cells[cellIndex address]

def write (memory : Memory) (address : Nat) (value : UInt8) : Memory :=
  ⟨memory.cells.set (cellIndex address).val value (cellIndex address).isLt⟩

/-- A block is written upwards and may wrap at the end of the memory. -/
def writeBlock (memory : Memory) (address : Nat) : List UInt8 → Memory
  | [] => memory
  | value :: rest => (memory.write address value).writeBlock (address + 1) rest

/-- A word has its high byte first. -/
def word (memory : Memory) (address : Nat) : Nat :=
  (memory.read address).toNat * 0x100 + (memory.read (address + 1)).toNat

theorem read_congr (memory : Memory) {address address' : Nat}
    (same : address % memorySize = address' % memorySize) :
    memory.read address = memory.read address' := by
  have index : cellIndex address = cellIndex address' := Fin.ext same
  simp [read, index]

theorem read_write (memory : Memory) (address address' : Nat) (value : UInt8) :
    (memory.write address value).read address' =
      if address' % memorySize = address % memorySize then value else memory.read address' := by
  by_cases same : address' % memorySize = address % memorySize
  · simp [read, write, cellIndex, same]
  · simp [read, write, cellIndex, same, Ne.symm same]

end Memory

/-- There are sixteen registers, and the last one holds flags. -/
abbrev registerCount : Nat := 16

def flagRegister : Int := 0xF

structure Registers where
  cells : Vector UInt8 registerCount
  deriving DecidableEq, Repr

/-- A register number is taken modulo the number of registers. -/
def registerIndex (x : Int) : Fin registerCount :=
  ⟨(x % registerCount).toNat, by unfold registerCount; omega⟩

namespace Registers

def blank : Registers := ⟨Vector.replicate registerCount 0⟩

def read (registers : Registers) (x : Int) : UInt8 := registers.cells[registerIndex x]

def write (registers : Registers) (x : Int) (value : UInt8) : Registers :=
  ⟨registers.cells.set (registerIndex x).val value (registerIndex x).isLt⟩

/-- The block holds the registers up to and including register `x`. -/
def upTo (registers : Registers) (x : Int) : List UInt8 :=
  registers.cells.toList.take ((registerIndex x).val + 1)

/-- The registers up to and including register `x` take new values. -/
def fillUpTo (registers : Registers) (x : Int) (value : Nat → UInt8) : Registers :=
  ⟨Vector.ofFn fun r =>
    if r.val ≤ (registerIndex x).val then value r.val else registers.cells[r]⟩

theorem read_write (registers : Registers) (x x' : Int) (value : UInt8) :
    (registers.write x value).read x' =
      if registerIndex x' = registerIndex x then value else registers.read x' := by
  by_cases same : registerIndex x' = registerIndex x
  · simp [read, write, same]
  · have different : (registerIndex x).val ≠ (registerIndex x').val :=
      fun equal => same (Fin.ext equal.symm)
    simp [read, write, same, different]

end Registers

end Chip8
