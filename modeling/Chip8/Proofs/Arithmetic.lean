import Chip8.Proofs.Reachable

/-!
This file proves which numbers the arithmetic instructions leave in the registers, and that the flag
is written last.
-/

namespace Chip8

/-- The two shifts have one register only. -/
def AluOperation.instruction (operation : AluOperation) (x y : Int) : Instruction :=
  match operation with
  | .set => .setRegister x y
  | .or => .or x y
  | .and => .and x y
  | .xor => .xor x y
  | .add => .add x y
  | .subtract => .subtract x y
  | .shiftRight => .shiftRight x
  | .subtractReversed => .subtractReversed x y
  | .shiftLeft => .shiftLeft x

/-- A flag is a single bit. -/
def IsBit (flag : Int) : Prop := flag = 0 ∨ flag = 1

/-- A flag of one stands for a carry of 256 or for a bit that is shifted out, and in a subtraction
a flag of zero stands for a borrow of 256. -/
inductive AluOperation.Yields (a b : Nat) : AluOperation → AluOutcome → Prop where
  | set : Yields a b .set ⟨b, none⟩
  | or : Yields a b .or ⟨(a ||| b : Nat), none⟩
  | and : Yields a b .and ⟨(a &&& b : Nat), none⟩
  | xor : Yields a b .xor ⟨(a ^^^ b : Nat), none⟩
  | add (result flag : Int) (bit : IsBit flag) (sum : (a : Int) + b = result + 256 * flag) :
      Yields a b .add ⟨result, some flag⟩
  | subtract (result flag : Int) (bit : IsBit flag)
      (difference : (a : Int) - b = result - 256 * (1 - flag)) :
      Yields a b .subtract ⟨result, some flag⟩
  | shiftRight (result flag : Int) (bit : IsBit flag) (halves : (a : Int) = 2 * result + flag) :
      Yields a b .shiftRight ⟨result, some flag⟩
  | subtractReversed (result flag : Int) (bit : IsBit flag)
      (difference : (b : Int) - a = result - 256 * (1 - flag)) :
      Yields a b .subtractReversed ⟨result, some flag⟩
  | shiftLeft (result flag : Int) (bit : IsBit flag)
      (double : 2 * (a : Int) = result + 256 * flag) :
      Yields a b .shiftLeft ⟨result, some flag⟩

/-- The result goes into its register before the flag does. -/
def AluOutcome.store (outcome : AluOutcome) (registers : Registers) (x : Int) : Registers :=
  let stored := registers.write x (UInt8.ofInt outcome.result)
  match outcome.flag? with
  | some flag => stored.write flagRegister (UInt8.ofInt flag)
  | none => stored

namespace AluOperation

/-- Two bytes obey the law of each operation. -/
theorem yields_compute (operation : AluOperation) {a b : Nat} (byte : a < 0x100)
    (byte' : b < 0x100) : operation.Yields a b (operation.compute a b) := by
  cases operation with
  | set => exact .set
  | or => exact .or
  | and => exact .and
  | xor => exact .xor
  | add => exact .add _ _ (by unfold IsBit; omega) (by omega)
  | subtract => exact .subtract _ _ (by unfold IsBit; omega) (by omega)
  | shiftRight => exact .shiftRight _ _ (by unfold IsBit; omega) (by omega)
  | subtractReversed => exact .subtractReversed _ _ (by unfold IsBit; omega) (by omega)
  | shiftLeft => exact .shiftLeft _ _ (by unfold IsBit; omega) (by omega)

/-- The operations that cut nothing off make no number longer than eight bits. -/
theorem result_compute (operation : AluOperation) {a b : Nat} (byte : a < 0x100)
    (byte' : b < 0x100) :
    0 ≤ (operation.compute a b).result ∧ (operation.compute a b).result ≤ 0xFF := by
  have either : a ||| b < 0x100 := Nat.or_lt_two_pow (n := 8) byte byte'
  have both : a &&& b < 0x100 := Nat.and_lt_two_pow a (n := 8) byte'
  have one : a ^^^ b < 0x100 := Nat.xor_lt_two_pow (n := 8) byte byte'
  cases operation with
  | or =>
      have result : (compute .or a b).result = ((a ||| b : Nat) : Int) := rfl
      omega
  | and =>
      have result : (compute .and a b).result = ((a &&& b : Nat) : Int) := rfl
      omega
  | xor =>
      have result : (compute .xor a b).result = ((a ^^^ b : Nat) : Int) := rfl
      omega
  | _ =>
      simp only [compute]
      omega

theorem Yields.bit {operation : AluOperation} {a b : Nat} {outcome : AluOutcome} {flag : Int}
    (yields : operation.Yields a b outcome) (flagged : outcome.flag? = some flag) :
    IsBit flag := by
  cases yields with
  | set | or | and | xor => cases flagged
  | add _ _ bit | subtract _ _ bit | shiftRight _ _ bit | subtractReversed _ _ bit
  | shiftLeft _ _ bit =>
      cases flagged
      exact bit

end AluOperation

namespace AluOutcome

variable (outcome : AluOutcome) (registers : Registers) {x r flag : Int}

theorem read_store_result (range : 0 ≤ x ∧ x ≤ 0xF) (lower : 0 ≤ outcome.result)
    (upper : outcome.result ≤ 0xFF) (shown : x ≠ 0xF ∨ outcome.flag? = none) :
    (((outcome.store registers x).read x).toNat : Int) = outcome.result := by
  have stored := registers.read_write_self x (UInt8.ofInt outcome.result)
  cases flagged : outcome.flag? with
  | none =>
      simp only [store, flagged, stored]
      exact toNat_ofInt lower upper
  | some flag =>
      have other : x ≠ 0xF := shown.resolve_right (by simp [flagged])
      have apart : registerIndex x ≠ registerIndex flagRegister :=
        mt (Instruction.registerIndex_injective (by decide) range) other
      simp only [store, flagged, Registers.read_write_of_ne _ _ apart, stored]
      exact toNat_ofInt lower upper

theorem read_store_flag (flagged : outcome.flag? = some flag) (bit : IsBit flag) :
    (((outcome.store registers x).read flagRegister).toNat : Int) = flag := by
  simp only [store, flagged, Registers.read_write_self]
  unfold IsBit at bit
  exact toNat_ofInt (by omega) (by omega)

theorem read_store_other (range : 0 ≤ x ∧ x ≤ 0xF) (range' : 0 ≤ r ∧ r ≤ 0xF) (other : r ≠ x)
    (plain : r ≠ 0xF ∨ outcome.flag? = none) :
    (outcome.store registers x).read r = registers.read r := by
  have apart : registerIndex r ≠ registerIndex x :=
    mt (Instruction.registerIndex_injective range range') other
  cases flagged : outcome.flag? with
  | none => simp only [store, flagged, Registers.read_write_of_ne _ _ apart]
  | some flag =>
      have beside : r ≠ 0xF := plain.resolve_right (by simp [flagged])
      have apart' : registerIndex r ≠ registerIndex flagRegister :=
        mt (Instruction.registerIndex_injective (by decide) range') beside
      simp only [store, flagged, Registers.read_write_of_ne _ _ apart,
        Registers.read_write_of_ne _ _ apart']

end AluOutcome

namespace Machine

theorem apply_arithmetic (machine : Machine) (operation : AluOperation) (x y : Int) :
    let outcome :=
      operation.compute (machine.registers.read x).toNat (machine.registers.read y).toNat
    machine.apply (operation.instruction x y) =
      .ok { machine with registers := outcome.store machine.registers x } := by
  cases operation <;> rfl

theorem applyArithmetic_instruction (machine : Machine) (operation : AluOperation) (x y : Int) :
    machine.applyArithmetic (.instruction (operation.instruction x y)) =
      machine.apply (operation.instruction x y) := by
  cases operation <;> rfl

/-- An arithmetic instruction reads its operands before it writes. Its numbers obey the law of the
operation, the flag covers the result in the last register, and all else stays. -/
theorem arithmetic_exact (machine : Machine) (operation : AluOperation) (x y : Int)
    (range : 0 ≤ x ∧ x ≤ 15) :
    let a := (machine.registers.read x).toNat
    let b := (machine.registers.read y).toNat
    let outcome := operation.compute a b
    operation.Yields a b outcome ∧ (0 ≤ outcome.result ∧ outcome.result ≤ 255) ∧
      ∃ registers, machine.apply (operation.instruction x y) =
          .ok { machine with registers := registers } ∧
        machine.applyArithmetic (.instruction (operation.instruction x y)) =
          .ok { machine with registers := registers } ∧
        (x ≠ 15 ∨ outcome.flag? = none →
          ((registers.read x).toNat : Int) = outcome.result) ∧
        (∀ flag, outcome.flag? = some flag → ((registers.read 15).toNat : Int) = flag) ∧
        ∀ r, 0 ≤ r ∧ r ≤ 15 → r ≠ x → r ≠ 15 ∨ outcome.flag? = none →
          registers.read r = machine.registers.read r := by
  intro a b outcome
  have byte : a < 0x100 := (machine.registers.read x).toNat_lt
  have byte' : b < 0x100 := (machine.registers.read y).toNat_lt
  have yields : operation.Yields a b outcome := operation.yields_compute byte byte'
  obtain ⟨lower, upper⟩ := operation.result_compute byte byte'
  have applied := machine.apply_arithmetic operation x y
  refine ⟨yields, ⟨lower, upper⟩, outcome.store machine.registers x, applied,
    (machine.applyArithmetic_instruction operation x y).trans applied, ?_, ?_, ?_⟩
  · exact outcome.read_store_result machine.registers range lower upper
  · exact fun flag flagged => outcome.read_store_flag machine.registers flagged (yields.bit flagged)
  · exact fun r inside => outcome.read_store_other machine.registers range inside

/-- The flag register holds an operand. -/
def flagOperand : Machine :=
  fresh.obeyAll
    [.apply (.instruction (.setImmediate 15 200)), .apply (.instruction (.setImmediate 1 100))]

/-- The carry takes the place of the sum 44. -/
theorem arithmetic_of_flagOperand :
    (0 ≤ (15 : Int) ∧ (15 : Int) ≤ 15) ∧
      ∃ registers, flagOperand.apply (.add 15 1) = .ok { flagOperand with registers := registers } ∧
        (registers.read 15).toNat = 1 ∧ (registers.read 1).toNat = 100 := by
  have range : 0 ≤ (15 : Int) ∧ (15 : Int) ≤ 15 := by decide
  have sum : AluOperation.add.compute (flagOperand.registers.read 15).toNat
      (flagOperand.registers.read 1).toNat = ⟨44, some 1⟩ := by decide +kernel
  have kept : (flagOperand.registers.read 1).toNat = 100 := by decide +kernel
  obtain ⟨_, _, registers, applied, _, _, flagged, others⟩ :=
    flagOperand.arithmetic_exact .add 15 1 range
  rw [sum] at flagged others
  refine ⟨range, registers, applied, Int.ofNat.inj (flagged 1 rfl), ?_⟩
  rw [others 1 (by decide) (by decide) (.inl (by decide)), kept]

end Machine

end Chip8
