import Chip8.Proofs.Assembly
import Chip8.Proofs.Reachable

/-!
This file proves which fields an instruction may change, and which registers and which cells of the
memory.
-/

namespace Chip8

/-- Outside the block each cell stays as it was. -/
theorem Memory.getElem_writeBlock_of_outside (memory : Memory) {address : Nat} (values : List UInt8)
    (cell : Fin memorySize)
    (outside : ∀ offset < values.length, cell.val ≠ (address + offset) % memorySize) :
    (memory.writeBlock address values).cells[cell] = memory.cells[cell] := by
  have own : cellIndex cell.val = cell := Fin.ext (Nat.mod_eq_of_lt cell.isLt)
  have kept : (memory.writeBlock address values).read cell.val = memory.read cell.val := by
    apply read_writeBlock_of_outside
    rwa [Nat.mod_eq_of_lt cell.isLt]
  simpa only [read, own] using kept

namespace Machine

variable {machine next : Machine} {instruction : Instruction}

/-- These instructions leave a frame waiting. -/
def Repaints (machine : Machine) (instruction : Instruction) : Prop :=
  instruction = .clearScreen ∨ instruction = .sys 0x230 ∨
    (∃ x y height, instruction = .draw x y height) ∨ machine.EntersHires instruction

namespace Effect

variable [RandomLibrary]

theorem inputs (effect : machine.Effect instruction next) :
    next.keypad = machine.keypad ∧ next.timers.last = machine.timers.last := by
  cases effect <;> exact ⟨rfl, rfl⟩

theorem key (effect : machine.Effect instruction next)
    (steady : ∀ x mask, instruction ≠ .random x mask) : next.key = machine.key := by
  cases effect with
  | random x mask => exact absurd rfl (steady x mask)
  | _ => rfl

theorem memory_cell (effect : machine.Effect instruction next) (named : instruction.NamesRegisters)
    (cell : Fin memorySize)
    (outside : ∀ offset < instruction.stored,
      cell.val ≠ (machine.index.toNat + offset) % memorySize) :
    next.memory.cells[cell] = machine.memory.cells[cell] := by
  cases effect with
  | memory values count =>
      exact machine.memory.getElem_writeBlock_of_outside values cell (count named ▸ outside)
  | _ => rfl

theorem stack (effect : machine.Effect instruction next)
    (calls : ∀ address, instruction ≠ .call address) (returns : instruction ≠ .returnFromCall) :
    next.stack = machine.stack := by
  cases effect with
  | call address stack pc pushed => exact absurd rfl (calls address)
  | back stack address popped => exact absurd rfl returns
  | _ => rfl

theorem display (effect : machine.Effect instruction next)
    (settled : ¬machine.Repaints instruction) :
    next.display = machine.display ∧ next.redraw = machine.redraw := by
  cases effect with
  | clear clears => exact absurd (clears.imp_right .inl) settled
  | draw x y height => exact absurd (.inr (.inr (.inl ⟨x, y, height, rfl⟩))) settled
  | hires enters => exact absurd (.inr (.inr (.inr enters))) settled
  | _ => exact ⟨rfl, rfl⟩

theorem mode (effect : machine.Effect instruction next) (stays : ¬machine.EntersHires instruction) :
    next.mode = machine.mode := by
  cases effect with
  | hires enters => exact absurd enters stays
  | _ => rfl

theorem delayTimer (effect : machine.Effect instruction next)
    (runs : ∀ x, instruction ≠ .setDelayTimer x) : next.timers.delay = machine.timers.delay := by
  cases effect with
  | delay x delay => exact absurd rfl (runs x)
  | _ => rfl

theorem soundTimer (effect : machine.Effect instruction next)
    (runs : ∀ x, instruction ≠ .setSoundTimer x) : next.timers.sound = machine.timers.sound := by
  cases effect with
  | sound x sound => exact absurd rfl (runs x)
  | _ => rfl

theorem indexRegister (effect : machine.Effect instruction next)
    (stays : instruction.setsIndex = false) : next.index = machine.index := by
  cases effect with
  | index index sets => exact absurd (sets.symm.trans stays) (by decide)
  | _ => rfl

theorem programCounter (effect : machine.Effect instruction next)
    (straight : ¬machine.Branches instruction) : next.pc = machine.pc := by
  cases effect with
  | counter pc branches => exact absurd branches straight
  | call | back => exact absurd trivial straight
  | hires enters =>
      obtain ⟨rfl, _⟩ := enters
      exact absurd trivial straight
  | _ => rfl

theorem register (effect : machine.Effect instruction next) (named : instruction.NamesRegisters)
    {r : Int} (range : 0 ≤ r ∧ r ≤ 0xF) (kept : ¬instruction.Writes r) :
    next.registers.read r = machine.registers.read r := by
  cases effect with
  | registers registers same => exact same named r range kept
  | random x mask =>
      exact machine.registers.read_write_of_ne _ (named.registerIndex_ne rfl range kept)
  | draw x y height =>
      exact machine.registers.read_write_of_ne _ (Instruction.flagIndex_ne rfl range kept)
  | _ => rfl

end Effect

/-- An instruction that repaints the display leaves a frame waiting. -/
theorem redraw_of_apply (applied : machine.apply instruction = .ok next)
    (repaints : machine.Repaints instruction) : next.redraw = true := by
  rcases repaints with rfl | rfl | ⟨x, y, height, rfl⟩ | ⟨rfl, counter⟩
  · cases applied
    rfl
  · cases applied
    rfl
  · cases applied
    rfl
  · have switch : (0x260 : Int) = hiresJumpAddress ∧ machine.pc = hiresTriggerPc := ⟨rfl, counter⟩
    simp only [apply, if_pos switch] at applied
    cases applied
    rfl

/-- Each part of the machine changes under its own instructions only. -/
theorem changes_stay_in_footprint (named : instruction.NamesRegisters)
    (applied : machine.apply instruction = .ok next) :
    (next.keypad = machine.keypad ∧ next.timers.last = machine.timers.last) ∧
      ((∀ x mask, instruction ≠ .random x mask) → next.key = machine.key) ∧
      (∀ cell : Fin memorySize,
        (∀ offset < instruction.stored, cell.val ≠ (machine.index.toNat + offset) % memorySize) →
          next.memory.cells[cell] = machine.memory.cells[cell]) ∧
      ((∀ address, instruction ≠ .call address) → instruction ≠ .returnFromCall →
        next.stack = machine.stack) ∧
      (¬machine.Repaints instruction →
        next.display = machine.display ∧ next.redraw = machine.redraw) ∧
      (machine.Repaints instruction → next.redraw = true) ∧
      (¬machine.EntersHires instruction → next.mode = machine.mode) ∧
      ((∀ x, instruction ≠ .setDelayTimer x) → next.timers.delay = machine.timers.delay) ∧
      ((∀ x, instruction ≠ .setSoundTimer x) → next.timers.sound = machine.timers.sound) ∧
      (instruction.setsIndex = false → next.index = machine.index) ∧
      (¬machine.Branches instruction → next.pc = machine.pc) ∧
      ∀ r, 0 ≤ r ∧ r ≤ 0xF → ¬instruction.Writes r →
        next.registers.read r = machine.registers.read r := by
  have effect := apply_effect applied
  exact ⟨effect.inputs, effect.key, effect.memory_cell named, effect.stack, effect.display,
    redraw_of_apply applied, effect.mode, effect.delayTimer, effect.soundTimer,
    effect.indexRegister, effect.programCounter,
    fun _ range kept => effect.register named range kept⟩

/-- The index stands at the last cell, and a register holds a number. -/
def atLastCell : Machine :=
  fresh.obeyAll [.apply (.instruction (.setIndex 0xFFF)), .apply (.instruction (.setImmediate 1 7))]

/-- Two registers stored from there fill the last cell and the first one, and nothing else. -/
theorem changes_of_storeAround :
    atLastCell.apply (.storeRegisters 1) = .ok (atLastCell.storeRegisters 1) ∧
      (atLastCell.storeRegisters 1).memory.read 0 = 7 ∧
      (∀ cell : Fin memorySize, cell ≠ 0xFFF → cell ≠ 0 →
        (atLastCell.storeRegisters 1).memory.cells[cell] = atLastCell.memory.cells[cell]) ∧
      (atLastCell.storeRegisters 1).pc = atLastCell.pc := by
  have named : (Instruction.storeRegisters 1).NamesRegisters := by decide
  have applied : atLastCell.apply (.storeRegisters 1) = .ok (atLastCell.storeRegisters 1) := rfl
  have around : (atLastCell.storeRegisters 1).memory.read 0 = 7 := by decide +kernel
  have start : atLastCell.index.toNat = 0xFFF := by decide +kernel
  obtain ⟨_, _, memory, _, _, _, _, _, _, _, counter, _⟩ := changes_stay_in_footprint named applied
  refine ⟨applied, around, fun cell last first => memory cell ?_, counter id⟩
  intro offset few
  rw [start]
  have positions : offset = 0 ∨ offset = 1 := by
    have two : (Instruction.storeRegisters 1).stored = 2 := rfl
    omega
  rcases positions with rfl | rfl
  · exact fun same => last (Fin.ext same)
  · exact fun same => first (Fin.ext same)

end Machine
end Chip8
