import Chip8.Machine.Load
import Chip8.Proofs.Aliasing
import Chip8.Proofs.Codec
import Mathlib.Data.List.Forall2

/-!
This file proves that an assembled program is found in memory as it was written.
-/

namespace Chip8

namespace Memory

/-- A block leaves the cells outside it alone. -/
theorem read_writeBlock_of_outside (memory : Memory) {address address' : Nat}
    (values : List UInt8)
    (outside : ∀ offset < values.length, address' % memorySize ≠ (address + offset) % memorySize) :
    (memory.writeBlock address values).read address' = memory.read address' := by
  induction values generalizing memory address with
  | nil => rfl
  | cons value rest ih =>
      have here : address' % memorySize ≠ address % memorySize := outside 0 (Nat.zero_lt_succ _)
      have above : ∀ offset < rest.length,
          address' % memorySize ≠ (address + 1 + offset) % memorySize := by
        intro offset inside
        rw [Nat.add_assoc, Nat.add_comm 1]
        exact outside (offset + 1) (Nat.succ_lt_succ inside)
      rw [writeBlock, ih _ above, read_write, if_neg here]

/-- A block behind a word is too short to come around to it. -/
theorem word_writeBlock_behind (memory : Memory) (address : Nat) (values : List UInt8)
    (fits : values.length + 2 ≤ memorySize) :
    (memory.writeBlock (address + 2) values).word address = memory.word address := by
  have outside : ∀ index < 2, ∀ offset < values.length,
      (address + index) % memorySize ≠ (address + 2 + offset) % memorySize := by
    intro index first offset inside
    unfold memorySize at fits ⊢
    omega
  have high : (memory.writeBlock (address + 2) values).read address = memory.read address :=
    memory.read_writeBlock_of_outside values (outside 0 (by decide))
  have low := memory.read_writeBlock_of_outside values (outside 1 (by decide))
  rw [word, word, high, low]

/-- The two bytes of a word go into different cells. -/
theorem word_write_write (memory : Memory) (address : Nat) (high low : UInt8) :
    ((memory.write address high).write (address + 1) low).word address =
      high.toNat * 0x100 + low.toNat := by
  have apart : address % memorySize ≠ (address + 1) % memorySize := by
    unfold memorySize
    omega
  simp only [word, read_write, if_neg apart, if_true]

theorem length_flatMap_opcodeBytes (opcodes : List Nat) :
    (opcodes.flatMap opcodeBytes).length = 2 * opcodes.length := by
  induction opcodes with
  | nil => rfl
  | cons opcode rest ih =>
      rw [List.flatMap_cons, List.length_append, ih, List.length_cons, Nat.mul_succ]
      exact Nat.add_comm 2 _

/-- A block that does not meet itself holds its words one after the other. -/
theorem word_writeBlock (memory : Memory) (address : Nat) {opcodes : List Nat}
    (small : ∀ opcode ∈ opcodes, opcode ≤ 0xFFFF) (fits : 2 * opcodes.length ≤ memorySize)
    (place : Fin opcodes.length) :
    (memory.writeBlock address (opcodes.flatMap opcodeBytes)).word (address + 2 * place) =
      opcodes[place] := by
  induction opcodes generalizing memory address with
  | nil => exact place.elim0
  | cons opcode rest ih =>
      obtain ⟨high, low, bytes, value⟩ := toNat_opcodeBytes (small opcode List.mem_cons_self)
      have smaller : ∀ opcode ∈ rest, opcode ≤ 0xFFFF :=
        fun opcode inside => small opcode (List.mem_cons_of_mem _ inside)
      rw [List.length_cons] at fits
      rw [List.flatMap_cons, bytes]
      -- The rest of the block is written last, and it must not come around to the first word.
      cases place using Fin.cases with
      | zero =>
          have short : (rest.flatMap opcodeBytes).length + 2 ≤ memorySize := by
            rw [length_flatMap_opcodeBytes]
            omega
          have kept := ((memory.write address high).write (address + 1) low).word_writeBlock_behind
            address (rest.flatMap opcodeBytes) short
          exact kept.trans ((memory.word_write_write address high low).trans value)
      | succ place =>
          have later := ih ((memory.write address high).write (address + 1) low) (address + 2)
            smaller (by omega) place
          have next : address + 2 * (place.succ : Nat) = address + 2 + 2 * place := by
            rw [Fin.val_succ]
            omega
          rw [next]
          exact later

end Memory

/-- Each item has its opcode at the same place. -/
def Encodes (items : List Item) (opcodes : List Nat) : Prop :=
  List.Forall₂ (fun item opcode => item.encode = .ok opcode) items opcodes

variable {items : List Item} {opcodes : List Nat}

theorem exists_encodes (accepted : ∀ item ∈ items, ∃ opcode, item.encode = .ok opcode) :
    ∃ opcodes, Encodes items opcodes := by
  induction items with
  | nil => exact ⟨[], .nil⟩
  | cons item rest ih =>
      obtain ⟨opcode, encoded⟩ := accepted item List.mem_cons_self
      obtain ⟨opcodes, encodes⟩ :=
        ih fun item inside => accepted item (List.mem_cons_of_mem _ inside)
      exact ⟨opcode :: opcodes, .cons encoded encodes⟩

theorem assemble_of_encodes (encodes : Encodes items opcodes) :
    assemble items = .ok (opcodes.flatMap opcodeBytes) := by
  induction encodes with
  | nil => rfl
  | cons encoded _ ih =>
      rw [assemble, encoded, ih]
      rfl

/-- The items behind the first refused one are not looked at. -/
theorem assemble_of_refused {before after : List Item} {item : Item} {error : EncodeError}
    (accepted : ∀ item ∈ before, ∃ opcode, item.encode = .ok opcode)
    (refused : item.encode = .error error) :
    assemble (before ++ item :: after) = .error error := by
  induction before with
  | nil =>
      rw [List.nil_append, assemble, refused]
      rfl
  | cons earlier rest ih =>
      obtain ⟨opcode, encoded⟩ := accepted earlier List.mem_cons_self
      have later := ih fun item inside => accepted item (List.mem_cons_of_mem _ inside)
      rw [List.cons_append, assemble, encoded, later]
      rfl

theorem Item.decode_of_encode {item : Item} {opcode : Nat} (encoded : item.encode = .ok opcode) :
    opcode ≤ 0xFFFF ∧
      ∃ instruction, item = .instruction instruction ∧
        Instruction.decode opcode = .ok instruction := by
  cases item with
  | instruction value =>
      exact ⟨Instruction.le_of_encode encoded, value, rfl, Instruction.decode_of_encode encoded⟩
  | literal value => cases encoded

theorem Encodes.length_eq (encodes : Encodes items opcodes) : items.length = opcodes.length :=
  List.Forall₂.length_eq encodes

theorem Encodes.small (encodes : Encodes items opcodes) : ∀ opcode ∈ opcodes, opcode ≤ 0xFFFF := by
  induction encodes with
  | nil => simp
  | cons encoded _ ih => exact List.forall_mem_cons.mpr ⟨(Item.decode_of_encode encoded).1, ih⟩

namespace Machine

theorem loadProgram_of_fits (machine : Machine) {program : List UInt8}
    (fits : program.length ≤ programCapacity) :
    machine.loadProgram program =
      .ok { machine with memory := machine.memory.writeBlock programStart program } :=
  if_neg (Nat.not_lt.mpr fits)

theorem loadProgram_of_large (machine : Machine) {program : List UInt8}
    (large : programCapacity < program.length) :
    machine.loadProgram program =
      .error (.fault (.programTooLarge program.length programCapacity)) :=
  if_pos large

/-- A program in memory is fetched word by word, also from an address that names the same cell. -/
theorem decode_peek_of_encodes {machine : Machine} (encodes : Encodes items opcodes)
    (fits : 2 * opcodes.length ≤ programCapacity) (place : Fin items.length) {pc : UInt16}
    (near : pc.toNat ≡ programStart + 2 * place [MOD memorySize]) :
    ∃ instruction, items[place] = .instruction instruction ∧
      Instruction.decode
        { machine with
          memory := machine.memory.writeBlock programStart (opcodes.flatMap opcodeBytes)
          pc := pc }.peek = .ok instruction := by
  have inside : place.val < opcodes.length := encodes.length_eq ▸ place.isLt
  have room : 2 * opcodes.length ≤ memorySize := Nat.le_trans fits (Nat.sub_le _ _)
  have stored := machine.memory.word_writeBlock programStart encodes.small room ⟨place.val, inside⟩
  have encoded := encodes.get place.isLt inside
  obtain ⟨_, instruction, same, decoded⟩ := Item.decode_of_encode encoded
  refine ⟨instruction, same, ?_⟩
  rw [peek, Memory.word_congr _ near, stored]
  exact decoded

/-- A program that can be assembled and fits is loaded word by word and nothing else changes. A
program that does not fit is refused, and so is one with an item that cannot be encoded. -/
theorem assembled_program_arrives (machine : Machine) (items : List Item) :
    ((∀ item ∈ items, ∃ opcode, item.encode = .ok opcode) →
      ∃ program, assemble items = .ok program ∧
        (2 * items.length ≤ 3584 →
          ∃ loaded, machine.loadProgram program = .ok loaded ∧
            loaded = { machine with memory := loaded.memory } ∧
            (∀ address < 4096, address < 0x200 ∨ 0x200 + 2 * items.length ≤ address →
              loaded.memory.read address = machine.memory.read address) ∧
            ∀ (place : Fin items.length) (pc : UInt16),
              pc.toNat ≡ 0x200 + 2 * place [MOD 4096] →
                ∃ instruction, items[place] = .instruction instruction ∧
                  Instruction.decode { loaded with pc := pc }.peek = .ok instruction) ∧
        (3584 < 2 * items.length →
          machine.loadProgram program =
            .error (.fault (.programTooLarge (2 * items.length) 3584)))) ∧
    ∀ before item after error, items = before ++ item :: after →
      (∀ earlier ∈ before, ∃ opcode, earlier.encode = .ok opcode) →
        item.encode = .error error → assemble items = .error error := by
  constructor
  · intro accepted
    obtain ⟨opcodes, encodes⟩ := exists_encodes accepted
    have count := encodes.length_eq
    have size := Memory.length_flatMap_opcodeBytes opcodes
    refine ⟨_, assemble_of_encodes encodes, fun fits => ?_, fun large => ?_⟩
    · have short : (opcodes.flatMap opcodeBytes).length ≤ programCapacity := by
        rw [size, ← count]
        exact fits
      refine ⟨_, machine.loadProgram_of_fits short, rfl, ?_, ?_⟩
      · intro address bound outside
        apply Memory.read_writeBlock_of_outside
        intro offset inside
        unfold programStart memorySize
        omega
      · intro place pc near
        exact decode_peek_of_encodes encodes (size ▸ short) place near
    · have long : programCapacity < (opcodes.flatMap opcodeBytes).length := by
        rw [size, ← count]
        exact large
      rw [machine.loadProgram_of_large long, size, ← count]
      rfl
  · rintro before item after error rfl accepted refused
    exact assemble_of_refused accepted refused

/-- This program fills the memory to its last byte. -/
def fullProgram : List Item := List.replicate 1792 (.instruction (.jump 0xFFE))

/-- The last jump of the full program is fetched from the next memory, and an instruction too many
that has no opcode is refused before the size matters. -/
theorem assembled_fullProgram_arrives :
    (∃ program loaded, assemble fullProgram = .ok program ∧
      fresh.loadProgram program = .ok loaded ∧
      Instruction.decode { loaded with pc := 0x1FFE }.peek = .ok (.jump 0xFFE)) ∧
    assemble (fullProgram ++ [.instruction (.jump 0x1000)]) =
      .error (.outOfRange .address 0x1000) := by
  have length : fullProgram.length = 1792 := List.length_replicate
  have accepted : ∀ item ∈ fullProgram, ∃ opcode, item.encode = .ok opcode := by
    intro item inside
    rw [List.eq_of_mem_replicate inside]
    exact ⟨0x1FFE, rfl⟩
  constructor
  · obtain ⟨program, assembled, fitting, _⟩ :=
      (assembled_program_arrives fresh fullProgram).1 accepted
    obtain ⟨loaded, loads, _, _, fetched⟩ := fitting (by omega)
    have near : (0x1FFE : UInt16).toNat ≡ 0x200 + 2 * 1791 [MOD 4096] := by decide
    obtain ⟨instruction, same, decoded⟩ := fetched ⟨1791, by omega⟩ 0x1FFE near
    have last : fullProgram[1791] = .instruction (.jump 0xFFE) := List.getElem_replicate _
    cases same.symm.trans last
    exact ⟨program, loaded, assembled, loads, decoded⟩
  · exact (assembled_program_arrives fresh _).2 fullProgram _ [] _ rfl accepted rfl

end Machine

end Chip8
