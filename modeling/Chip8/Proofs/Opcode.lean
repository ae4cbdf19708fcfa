import Chip8.Instruction.Decode
import Chip8.Instruction.Encode
import Mathlib.Algebra.Group.Nat.Defs

/-!
This file says which words are opcodes and what an instruction tells about its opcode.
-/

namespace Chip8

/-- A pattern fixes the first digit of a word and a number of its last digits. -/
structure OpcodePattern where
  first : Nat
  digits : Nat
  last : Nat
  deriving DecidableEq, Repr

def OpcodePattern.Matches (pattern : OpcodePattern) (word : Nat) : Prop :=
  word / 0x1000 = pattern.first ∧ word % 16 ^ pattern.digits = pattern.last

instance (pattern : OpcodePattern) (word : Nat) : Decidable (pattern.Matches word) :=
  inferInstanceAs (Decidable (_ ∧ _))

/-- The patterns stand in the order of their first digit. -/
def opcodePatterns : List OpcodePattern :=
  [⟨0x0, 0, 0⟩, ⟨0x1, 0, 0⟩, ⟨0x2, 0, 0⟩, ⟨0x3, 0, 0⟩, ⟨0x4, 0, 0⟩, ⟨0x5, 1, 0x0⟩, ⟨0x6, 0, 0⟩,
   ⟨0x7, 0, 0⟩,
   ⟨0x8, 1, 0x0⟩, ⟨0x8, 1, 0x1⟩, ⟨0x8, 1, 0x2⟩, ⟨0x8, 1, 0x3⟩, ⟨0x8, 1, 0x4⟩, ⟨0x8, 1, 0x5⟩,
   ⟨0x8, 1, 0x6⟩, ⟨0x8, 1, 0x7⟩, ⟨0x8, 1, 0xE⟩,
   ⟨0x9, 1, 0x0⟩, ⟨0xA, 0, 0⟩, ⟨0xB, 0, 0⟩, ⟨0xC, 0, 0⟩, ⟨0xD, 0, 0⟩,
   ⟨0xE, 2, 0x9E⟩, ⟨0xE, 2, 0xA1⟩,
   ⟨0xF, 2, 0x07⟩, ⟨0xF, 2, 0x0A⟩, ⟨0xF, 2, 0x15⟩, ⟨0xF, 2, 0x18⟩, ⟨0xF, 2, 0x1E⟩,
   ⟨0xF, 2, 0x29⟩, ⟨0xF, 2, 0x33⟩, ⟨0xF, 2, 0x55⟩, ⟨0xF, 2, 0x65⟩]

/-- A word is an opcode when one of the patterns matches it. -/
def IsOpcode (word : Nat) : Prop := ∃ pattern ∈ opcodePatterns, pattern.Matches word

instance (word : Nat) : Decidable (IsOpcode word) :=
  inferInstanceAs (Decidable (∃ pattern ∈ opcodePatterns, pattern.Matches word))

namespace Instruction

theorem decode?_natCast (word : Nat) : decode? word = decodeWord? word := by
  simp [decode?]

theorem isSome_decodeArithmetic? (x y : Int) (nibble : Nat) :
    (decodeArithmetic? x y nibble).isSome ↔ nibble ≤ 7 ∨ nibble = 0xE := by
  fun_cases decodeArithmetic? x y nibble <;> grind

theorem isSome_decodeKeyTest? (x : Int) (byte : Nat) :
    (decodeKeyTest? x byte).isSome ↔ byte = 0x9E ∨ byte = 0xA1 := by
  fun_cases decodeKeyTest? x byte <;> grind

theorem isSome_decodeTransfer? (x : Int) (byte : Nat) :
    (decodeTransfer? x byte).isSome ↔
      byte ∈ [0x07, 0x0A, 0x15, 0x18, 0x1E, 0x29, 0x33, 0x55, 0x65] := by
  simp only [List.mem_cons, List.not_mem_nil, or_false]
  fun_cases decodeTransfer? x byte <;> grind

/-- Exactly the opcodes are decoded. -/
theorem isSome_decode?_iff (word : Nat) : (decode? word).isSome ↔ IsOpcode word := by
  simp only [decode?_natCast, decodeWord?, IsOpcode, opcodePatterns, OpcodePattern.Matches,
    List.mem_cons, List.not_mem_nil, or_false, exists_eq_or_imp, exists_eq_left, Nat.pow_zero,
    Nat.mod_one, Nat.reducePow]
  split
  case h_9 =>
    simp [*, isSome_decodeArithmetic?]
    omega
  case h_17 => simp_all
  all_goals simp [*, isSome_decodeKeyTest?, isSome_decodeTransfer?]

/-- An opcode can hold all operands. -/
def InRange (instruction : Instruction) : Prop :=
  ∀ operand ∈ instruction.operands, operand.InRange

/-- The second register of a shift has no meaning. -/
def isShift : Instruction → Bool
  | .shiftRight _ | .shiftLeft _ => true
  | _ => false

/-- The digit that a shift leaves open is cleared. -/
def canonicalWord (instruction : Instruction) (word : Nat) : Nat :=
  if instruction.isShift then word / 0x100 * 0x100 + word % 0x10 else word

variable {instruction : Instruction} {word : Nat}

theorem inRange_of_decodeWord? (decoded : decodeWord? word = some instruction) :
    instruction.InRange := by
  simp only [decodeWord?, decodeArithmetic?, decodeKeyTest?, decodeTransfer?] at decoded
  repeat' split at decoded
  all_goals cases decoded
  all_goals simp [InRange, operands, Operand.InRange, OperandKind.limit]
  all_goals omega

/-- An instruction is laid out as the word from which it was decoded. -/
theorem layout_of_decodeWord? (decoded : decodeWord? word = some instruction) :
    instruction.layout = instruction.canonicalWord word := by
  simp only [decodeWord?, decodeArithmetic?, decodeKeyTest?, decodeTransfer?] at decoded
  repeat' split at decoded
  all_goals cases decoded
  all_goals simp [layout, registerPair, registerByte, canonicalWord, isShift]
  all_goals omega

/-- The layout of an address is its group before its three digits. -/
theorem group_of_decode? {group : Nat} {address : Int} (decoded : decode? word = some instruction)
    (operands : instruction.operands = [⟨"address", .address, address⟩])
    (layout : instruction.layout = group * 0x1000 + address.toNat)
    (plain : instruction.isShift = false) :
    word / 0x1000 = group ∧ address = ↑(word % 0x1000) := by
  rw [decode?_natCast] at decoded
  have range := inRange_of_decodeWord? decoded
  rw [InRange, operands] at range
  have digits : 0 ≤ address ∧ address ≤ 0xFFF := range _ (List.mem_singleton.mpr rfl)
  have same := layout_of_decodeWord? decoded
  rw [layout, canonicalWord, plain, if_neg Bool.false_ne_true] at same
  omega

theorem decode?_eq_jump_iff {address : Int} :
    decode? word = some (.jump address) ↔ word / 0x1000 = 1 ∧ address = ↑(word % 0x1000) := by
  constructor
  · intro decoded
    exact group_of_decode? decoded rfl rfl rfl
  · rintro ⟨group, rfl⟩
    simp [decode?_natCast, decodeWord?, group]

theorem decode?_eq_call_iff {address : Int} :
    decode? word = some (.call address) ↔ word / 0x1000 = 2 ∧ address = ↑(word % 0x1000) := by
  constructor
  · intro decoded
    exact group_of_decode? decoded rfl rfl rfl
  · rintro ⟨group, rfl⟩
    simp [decode?_natCast, decodeWord?, group]

theorem decode?_eq_return_iff : decode? word = some .returnFromCall ↔ word = 0x00EE := by
  rw [decode?_natCast]
  constructor
  · intro decoded
    exact (layout_of_decodeWord? decoded).symm
  · rintro rfl
    rfl

end Instruction

end Chip8
