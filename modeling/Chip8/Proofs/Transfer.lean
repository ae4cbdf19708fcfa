import Chip8.Proofs.Footprint

/-!
This file proves that registers stored in the memory are loaded from there unchanged.
-/

namespace Chip8

namespace Memory

theorem write_read (memory : Memory) (address : Nat) :
    memory.write address (memory.read address) = memory := by
  simp [write, read]

/-- A block that is no longer than the memory does not meet itself. -/
theorem read_writeBlock (memory : Memory) (address : Nat) {values : List UInt8}
    (fits : values.length ≤ memorySize) {offset : Nat} (inside : offset < values.length) :
    (memory.writeBlock address values).read (address + offset) = values[offset] := by
  induction values generalizing memory address offset with
  | nil => cases inside
  | cons value rest ih =>
      rw [List.length_cons] at fits
      rw [writeBlock]
      cases offset with
      | zero =>
          -- The later values go into other cells, because the block is too short to come around.
          have apart : ∀ later < rest.length,
              address % memorySize ≠ (address + 1 + later) % memorySize := by
            intro later bound
            unfold memorySize at fits ⊢
            omega
          simp only [Nat.add_zero, List.getElem_cons_zero]
          rw [read_writeBlock_of_outside _ _ apart, read_write, if_pos rfl]
      | succ offset =>
          have place : address + (offset + 1) = address + 1 + offset := by omega
          rw [place, List.getElem_cons_succ]
          exact ih _ _ (by omega) (Nat.lt_of_succ_lt_succ inside)

/-- A block that is there already changes nothing. -/
theorem writeBlock_of_read (memory : Memory) (address : Nat) {values : List UInt8}
    (there : ∀ offset (inside : offset < values.length),
      memory.read (address + offset) = values[offset]) :
    memory.writeBlock address values = memory := by
  induction values generalizing address with
  | nil => rfl
  | cons value rest ih =>
      have here : memory.read address = value := there 0 (Nat.succ_pos _)
      rw [writeBlock, ← here, memory.write_read]
      apply ih
      intro offset inside
      rw [Nat.add_assoc, Nat.add_comm 1]
      exact there (offset + 1) (Nat.succ_lt_succ inside)

end Memory

namespace Registers

variable (registers : Registers) {x : Int} {r : Nat}

theorem registerIndex_natCast (inside : r < registerCount) : (registerIndex r).val = r := by
  unfold registerIndex registerCount at *
  simp only
  omega

theorem getElem_upTo (inside : r < (registers.upTo x).length) :
    (registers.upTo x)[r] = registers.read r := by
  have bound : r < registerCount := by
    rw [length_upTo] at inside
    omega
  simp only [upTo, read, List.getElem_take, Vector.getElem_toList, Fin.getElem_fin,
    registerIndex_natCast bound]

theorem read_fillUpTo (value : Nat → UInt8) (below : r ≤ (registerIndex x).val) :
    (registers.fillUpTo x value).read r = value r := by
  have bound : r < registerCount := Nat.lt_of_le_of_lt below (registerIndex x).isLt
  simp only [read, fillUpTo, Fin.getElem_fin, Vector.getElem_ofFn, registerIndex_natCast bound,
    if_pos below]

end Registers

namespace Machine

variable {machine : Machine} {x : Int}

/-- Registers that are loaded from a block take its values. -/
theorem read_loadRegisters (machine : Machine) {memory : Memory} {address : Nat}
    {values : List UInt8} (stored : machine.memory = memory.writeBlock address values)
    (near : machine.index.toNat ≡ address [MOD memorySize])
    (fits : values.length ≤ memorySize) {r : Nat} (inside : r < values.length)
    (below : r ≤ (registerIndex x).val) :
    (machine.loadRegisters x).registers.read r = values[r] := by
  simp only [loadRegisters]
  rw [Registers.read_fillUpTo _ _ below, stored, Memory.read_congr _ (near.add_right r)]
  exact memory.read_writeBlock address fits inside

theorem read_loadRegisters_storeRegisters {other : Machine}
    (same : other.memory = (machine.storeRegisters x).memory)
    (near : other.index.toNat ≡ machine.index.toNat [MOD memorySize]) {r : Nat}
    (below : r ≤ (registerIndex x).val) :
    (other.loadRegisters x).registers.read r = machine.registers.read r := by
  have length := machine.registers.length_upTo x
  have limit := (registerIndex x).isLt
  have fits : (machine.registers.upTo x).length ≤ memorySize := by
    unfold registerCount memorySize at *
    omega
  have inside : r < (machine.registers.upTo x).length := by omega
  rw [other.read_loadRegisters same near fits inside below, Registers.getElem_upTo]

/-- Registers that stand in the memory already change nothing there. -/
theorem memory_storeRegisters_of_read (machine : Machine) (x : Int)
    (there : ∀ r : Nat, r ≤ (registerIndex x).val →
      machine.registers.read r = machine.memory.read (machine.index.toNat + r)) :
    (machine.storeRegisters x).memory = machine.memory := by
  apply Memory.writeBlock_of_read
  intro r inside
  have length := machine.registers.length_upTo x
  rw [Registers.getElem_upTo]
  exact (there r (by omega)).symm

theorem memory_loadRegisters (machine : Machine) (x : Int) :
    (machine.loadRegisters x).memory = machine.memory := by
  simp only [loadRegisters]

theorem memory_storeRegisters_loadRegisters (machine : Machine) (x : Int) :
    ((machine.loadRegisters x).storeRegisters x).memory = machine.memory := by
  have there (r : Nat) (below : r ≤ (registerIndex x).val) :
      (machine.loadRegisters x).registers.read r =
        (machine.loadRegisters x).memory.read ((machine.loadRegisters x).index.toNat + r) := by
    simp only [loadRegisters]
    exact Registers.read_fillUpTo _ _ below
  rw [(machine.loadRegisters x).memory_storeRegisters_of_read x there, memory_loadRegisters]

/-- The digits of a byte are loaded in the order of their place values. -/
theorem toNat_read_loadRegisters_storeDecimal (machine : Machine) (x : Int) {r : Nat}
    (digit : r < 3) :
    (((machine.storeDecimal x).loadRegisters 2).registers.read r).toNat =
      (machine.registers.read x).toNat / 10 ^ (2 - r) % 10 := by
  have byte := (machine.registers.read x).toNat_lt
  have fits : 3 ≤ memorySize := by decide
  have loaded := (machine.storeDecimal x).read_loadRegisters (x := 2) rfl rfl fits digit
    (Nat.le_of_lt_succ digit)
  rw [loaded]
  obtain rfl | rfl | rfl : r = 0 ∨ r = 1 ∨ r = 2 := by omega
  all_goals
    simp only [List.map_cons, List.getElem_cons_succ, List.getElem_cons_zero, UInt8.toNat_ofNat',
      Nat.reduceSub, Nat.reducePow]
    omega

/-- Stored registers are loaded unchanged from the same memory and the same place, loaded registers
are stored where they are already, and the digits of a byte are loaded one by one. -/
theorem registers_survive_memory (machine : Machine) (x : Int) (range : 0 ≤ x ∧ x ≤ 15) :
    (∃ stored, machine.apply (.storeRegisters x) = .ok stored ∧
      stored = { machine with memory := stored.memory } ∧
      (∀ cell : Fin 4096, (∀ r : Nat, r ≤ x → cell.val ≠ (machine.index.toNat + r) % 4096) →
        stored.memory.cells[cell] = machine.memory.cells[cell]) ∧
      ∀ other : Machine, other.memory = stored.memory →
        other.index.toNat ≡ machine.index.toNat [MOD 4096] →
          ∃ loaded, other.apply (.loadRegisters x) = .ok loaded ∧
            loaded = { other with registers := loaded.registers } ∧
            (∀ r, 0 ≤ r ∧ r ≤ x → loaded.registers.read r = machine.registers.read r) ∧
            ∀ r, x < r ∧ r ≤ 15 → loaded.registers.read r = other.registers.read r) ∧
    (∃ loaded stored, machine.apply (.loadRegisters x) = .ok loaded ∧
      loaded.apply (.storeRegisters x) = .ok stored ∧ stored.memory = machine.memory) ∧
    ∃ stored loaded, machine.apply (.binaryCodedDecimal x) = .ok stored ∧
      stored.apply (.loadRegisters 2) = .ok loaded ∧
      (∀ r, 0 ≤ r ∧ r ≤ 2 → (loaded.registers.read r).toNat ≤ 9) ∧
      100 * (loaded.registers.read 0).toNat + 10 * (loaded.registers.read 1).toNat +
        (loaded.registers.read 2).toNat = (machine.registers.read x).toNat := by
  have index := Instruction.registerIndex_eq range
  refine ⟨⟨machine.storeRegisters x, rfl, rfl, ?_, ?_⟩,
    ⟨machine.loadRegisters x, (machine.loadRegisters x).storeRegisters x, rfl, rfl,
      machine.memory_storeRegisters_loadRegisters x⟩,
    machine.storeDecimal x, (machine.storeDecimal x).loadRegisters 2, rfl, rfl, ?_, ?_⟩
  · intro cell outside
    have named : (Instruction.storeRegisters x).NamesRegisters := by
      intro operand inside _
      rw [List.mem_singleton.mp inside]
      exact range
    refine (machine.effect_storeRegisters x).memory_cell named cell fun r few => outside r ?_
    rw [Instruction.stored] at few
    omega
  · intro other same near
    refine ⟨other.loadRegisters x, rfl, rfl, ?_, ?_⟩
    · rintro r ⟨lower, upper⟩
      obtain ⟨r, rfl⟩ := Int.eq_ofNat_of_zero_le lower
      exact read_loadRegisters_storeRegisters same near (by omega)
    · rintro r ⟨above, upper⟩
      have place := Instruction.registerIndex_eq (x := r) ⟨by omega, upper⟩
      simp only [loadRegisters]
      exact Registers.read_fillUpTo_of_lt _ _ (by omega)
  · rintro r ⟨lower, upper⟩
    obtain ⟨r, rfl⟩ := Int.eq_ofNat_of_zero_le lower
    rw [machine.toNat_read_loadRegisters_storeDecimal x (by omega)]
    exact Nat.le_of_lt_succ (Nat.mod_lt _ (by decide))
  · have byte := (machine.registers.read x).toNat_lt
    have hundreds := machine.toNat_read_loadRegisters_storeDecimal x (r := 0) (by decide)
    have tens := machine.toNat_read_loadRegisters_storeDecimal x (r := 1) (by decide)
    have ones := machine.toNat_read_loadRegisters_storeDecimal x (r := 2) (by decide)
    push_cast at hundreds tens ones
    omega

/-- The index stands two cells before the end of the second memory. Two registers hold numbers. -/
def nearEnd : Machine :=
  fresh.obeyAll
    [.apply (.instruction (.setIndex 0x1FFE)), .apply (.instruction (.setImmediate 1 253)),
      .apply (.instruction (.setImmediate 2 30))]

/-- The block comes around to the first cell, and a new machine loads it from the end of the first
memory. -/
theorem registers_survive_nearEnd :
    (0 ≤ (2 : Int) ∧ (2 : Int) ≤ 15) ∧
      (∃ stored loaded, nearEnd.apply (.storeRegisters 2) = .ok stored ∧
        { fresh with memory := stored.memory, index := 0xFFE }.apply (.loadRegisters 2) =
          .ok loaded ∧
        stored.memory.read 0 = 30 ∧ loaded.registers.read 1 = 253 ∧
        loaded.registers.read 2 = 30 ∧ loaded.registers.read 3 = 0) ∧
      ∃ stored loaded, nearEnd.apply (.binaryCodedDecimal 1) = .ok stored ∧
        stored.apply (.loadRegisters 2) = .ok loaded ∧
        100 * (loaded.registers.read 0).toNat + 10 * (loaded.registers.read 1).toNat +
          (loaded.registers.read 2).toNat = 253 := by
  have start : nearEnd.index = 0x1FFE ∧ nearEnd.registers.read 1 = 253 ∧
      nearEnd.registers.read 2 = 30 ∧ (nearEnd.storeRegisters 2).memory.read 0 = 30 ∧
      fresh.registers.read 3 = 0 := by
    decide +kernel
  obtain ⟨index, first, second, around, blank⟩ := start
  have near : (0xFFE : UInt16).toNat ≡ nearEnd.index.toNat [MOD 4096] := by
    rw [index]
    decide
  obtain ⟨⟨stored, stores, _, _, loads⟩, _, _⟩ := nearEnd.registers_survive_memory 2 (by decide)
  obtain ⟨loaded, applied, _, restored, kept⟩ :=
    loads { fresh with memory := stored.memory, index := 0xFFE } rfl near
  obtain ⟨_, _, decimal, digits, converts, fetches, _, value⟩ :=
    nearEnd.registers_survive_memory 1 (by decide)
  refine ⟨by decide, ⟨stored, loaded, stores, applied, ?_, ?_, ?_, ?_⟩,
    decimal, digits, converts, fetches, ?_⟩
  · cases stores
    exact around
  · exact (restored 1 (by decide)).trans first
  · exact (restored 2 (by decide)).trans second
  · exact (kept 3 (by decide)).trans blank
  · rw [value, first]
    rfl

end Machine

end Chip8
