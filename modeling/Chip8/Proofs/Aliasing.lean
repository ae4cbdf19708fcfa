import Chip8.Proofs.Opcode
import Chip8.Proofs.Reachable
import Mathlib.Data.Nat.ModEq

/-!
This file proves that a program cannot tell apart two addresses that name the same cell.
-/

namespace Chip8

theorem cellIndex_congr {address address' : Nat} (near : address ≡ address' [MOD memorySize]) :
    cellIndex address = cellIndex address' :=
  Fin.ext near

namespace Memory

variable {address address' : Nat}

theorem word_congr (memory : Memory) (near : address ≡ address' [MOD memorySize]) :
    memory.word address = memory.word address' := by
  rw [word, word, memory.read_congr near, memory.read_congr (near.add_right 1)]

theorem write_congr (memory : Memory) (near : address ≡ address' [MOD memorySize])
    (value : UInt8) : memory.write address value = memory.write address' value := by
  simp only [write, cellIndex_congr near]

theorem writeBlock_congr (memory : Memory) (near : address ≡ address' [MOD memorySize])
    (values : List UInt8) :
    memory.writeBlock address values = memory.writeBlock address' values := by
  induction values generalizing memory address address' with
  | nil => rfl
  | cons value rest ih =>
      rw [writeBlock, writeBlock, memory.write_congr near]
      exact ih _ (near.add_right 1)

end Memory

/-- Counters are compared modulo a period, which covers whole memories and fits into a word a whole
number of times. -/
structure Period (modulus : Nat) : Prop where
  memory : memorySize ∣ modulus
  word : modulus ∣ 2 ^ 16

theorem period_memorySize : Period memorySize := ⟨by decide, by decide⟩

theorem period_word : Period (2 ^ 16) := ⟨by decide, by decide⟩

namespace Period

variable {modulus : Nat} {address address' : UInt16}

/-- A sum that leaves the word loses a whole number of periods. -/
theorem add (period : Period modulus) (near : address.toNat ≡ address'.toNat [MOD modulus])
    (offset : UInt16) : (address + offset).toNat ≡ (address' + offset).toNat [MOD modulus] := by
  have wrapped (address : UInt16) :
      (address + offset).toNat ≡ address.toNat + offset.toNat [MOD modulus] := by
    rw [UInt16.toNat_add]
    exact (Nat.mod_modEq _ _).of_dvd period.word
  exact (wrapped address).trans ((near.add_right _).trans (wrapped address').symm)

theorem sub (period : Period modulus) (near : address.toNat ≡ address'.toNat [MOD modulus])
    (offset : UInt16) : (address - offset).toNat ≡ (address' - offset).toNat [MOD modulus] := by
  rw [UInt16.sub_eq_add_neg, UInt16.sub_eq_add_neg]
  exact period.add near (-offset)

/-- The mask of a return address keeps no more than the cell. -/
theorem mask (period : Period modulus) (near : address.toNat ≡ address'.toNat [MOD modulus]) :
    address &&& addressMask = address' &&& addressMask := by
  apply UInt16.toNat_inj.mp
  rw [toNat_and_addressMask, toNat_and_addressMask]
  exact near.of_dvd period.memory

end Period

/-- Two errors are alike when they are the same or blame the stack at addresses a whole number of
periods apart. -/
inductive Error.Alike (modulus : Nat) : Error → Error → Prop where
  | same (error : Error) : Alike modulus error error
  | underflow {pc pc' : UInt16} (near : pc.toNat ≡ pc'.toNat [MOD modulus]) :
      Alike modulus (.fault (.stackUnderflow pc.toNat)) (.fault (.stackUnderflow pc'.toNat))
  | overflow {pc pc' : UInt16} (depth : Int) (near : pc.toNat ≡ pc'.toNat [MOD modulus]) :
      Alike modulus (.fault (.stackOverflow pc.toNat depth))
        (.fault (.stackOverflow pc'.toNat depth))

theorem Error.Alike.eq {error error' : Error} (alike : error.Alike (2 ^ 16) error') :
    error = error' := by
  cases alike with
  | same => rfl
  | underflow near => rw [near.eq_of_lt_of_lt (UInt16.toNat_lt _) (UInt16.toNat_lt _)]
  | overflow depth near => rw [near.eq_of_lt_of_lt (UInt16.toNat_lt _) (UInt16.toNat_lt _)]

namespace Machine

variable {modulus : Nat} {machine other : Machine}

/-- The other machine differs in its counter by whole periods and in its index by whole memories,
and in nothing else. -/
inductive Aliases (modulus : Nat) (machine : Machine) : Machine → Prop where
  | intro (pc index : UInt16) (counter : machine.pc.toNat ≡ pc.toNat [MOD modulus])
      (cell : machine.index.toNat ≡ index.toNat [MOD memorySize]) :
      Aliases modulus machine { machine with pc := pc, index := index }

/-- Both machines go on as aliases, or both stop for the same reason. -/
inductive Agrees (modulus : Nat) : Except Error Machine → Except Error Machine → Prop where
  | ok {machine other : Machine} (aliases : machine.Aliases modulus other) :
      Agrees modulus (.ok machine) (.ok other)
  | error {error error' : Error} (alike : error.Alike modulus error') :
      Agrees modulus (.error error) (.error error')

theorem agrees_error (modulus : Nat) (error : Error) :
    Agrees modulus (.error error) (.error error) :=
  .error (.same error)

theorem Aliases.peek (period : Period modulus) (aliases : machine.Aliases modulus other) :
    other.peek = machine.peek := by
  obtain ⟨pc, index, counter, cell⟩ := aliases
  exact machine.memory.word_congr (counter.of_dvd period.memory).symm

theorem Aliases.ready (period : Period modulus) (aliases : machine.Aliases modulus other)
    (timers : Timers Reading) : (machine.ready timers).Aliases modulus (other.ready timers) := by
  obtain ⟨pc, index, counter, cell⟩ := aliases
  exact .intro (pc + 2) index (period.add counter 2) cell

theorem Aliases.skipIf (period : Period modulus) (aliases : machine.Aliases modulus other)
    (condition : Bool) :
    (machine.skipIf condition).Aliases modulus (other.skipIf condition) := by
  cases condition with
  | false => exact aliases
  | true =>
      obtain ⟨pc, index, counter, cell⟩ := aliases
      exact .intro (pc + 2) index (period.add counter 2) cell

theorem Aliases.compute (aliases : machine.Aliases modulus other) (operation : AluOperation)
    (x y : Int) :
    (machine.compute operation x y).Aliases modulus (other.compute operation x y) := by
  obtain ⟨pc, index, counter, cell⟩ := aliases
  simp only [Machine.compute]
  split
  · exact .intro pc index counter cell
  · exact .intro pc index counter cell

theorem Aliases.waitForKey (period : Period modulus) (aliases : machine.Aliases modulus other)
    (x : Int) : (machine.waitForKey x).Aliases modulus (other.waitForKey x) := by
  obtain ⟨pc, index, counter, cell⟩ := aliases
  simp only [Machine.waitForKey]
  split
  · exact .intro pc index counter cell
  · exact .intro (pc - 2) index (period.sub counter 2) cell

/-- The rows of a sprite come from the same cells. -/
theorem Aliases.spriteAt (aliases : machine.Aliases modulus other) (x y height : Int) :
    other.spriteAt x y height = machine.spriteAt x y height := by
  obtain ⟨pc, index, counter, cell⟩ := aliases
  have rows (r : Nat) :
      machine.memory.read (index.toNat + r) = machine.memory.read (machine.index.toNat + r) :=
    machine.memory.read_congr (cell.symm.add_right r)
  simp only [Machine.spriteAt, rows]

theorem Aliases.draw (aliases : machine.Aliases modulus other) (x y height : Int) :
    (machine.draw x y height).Aliases modulus (other.draw x y height) := by
  have sprite := aliases.spriteAt x y height
  obtain ⟨pc, index, counter, cell⟩ := aliases
  simp only [Machine.draw, sprite]
  exact .intro pc index counter cell

theorem Aliases.storeDecimal (aliases : machine.Aliases modulus other) (x : Int) :
    (machine.storeDecimal x).Aliases modulus (other.storeDecimal x) := by
  obtain ⟨pc, index, counter, cell⟩ := aliases
  simp only [Machine.storeDecimal, machine.memory.writeBlock_congr cell]
  exact .intro pc index counter cell

theorem Aliases.storeRegisters (aliases : machine.Aliases modulus other) (x : Int) :
    (machine.storeRegisters x).Aliases modulus (other.storeRegisters x) := by
  obtain ⟨pc, index, counter, cell⟩ := aliases
  simp only [Machine.storeRegisters, machine.memory.writeBlock_congr cell]
  exact .intro pc index counter cell

theorem Aliases.loadRegisters (aliases : machine.Aliases modulus other) (x : Int) :
    (machine.loadRegisters x).Aliases modulus (other.loadRegisters x) := by
  obtain ⟨pc, index, counter, cell⟩ := aliases
  have values (r : Nat) :
      machine.memory.read (machine.index.toNat + r) = machine.memory.read (index.toNat + r) :=
    machine.memory.read_congr (cell.add_right r)
  simp only [Machine.loadRegisters, values]
  exact .intro pc index counter cell

theorem Aliases.jump (aliases : machine.Aliases modulus other) (address : Int) :
    Agrees modulus (machine.jump address) (other.jump address) := by
  obtain ⟨pc, index, counter, cell⟩ := aliases
  simp only [Machine.jump]
  split
  · exact .ok (.intro _ index rfl cell)
  · exact agrees_error modulus _

/-- The stack never sees more of the counter than the mask lets through. -/
theorem Aliases.call (period : Period modulus) (aliases : machine.Aliases modulus other)
    (address : Int) : Agrees modulus (machine.call address) (other.call address) := by
  obtain ⟨pc, index, counter, cell⟩ := aliases
  simp only [Machine.call, CallStack.push, period.mask counter]
  by_cases free : machine.stack.depth < stackSize
  · rw [if_pos free, if_pos free]
    by_cases fits : fitsLong (machine.stack.depth + stackSize)
    · rw [if_pos fits]
      apply Aliases.jump
      exact .intro pc index counter cell
    · rw [if_neg fits]
      exact agrees_error modulus _
  · rw [if_neg free, if_neg free]
    exact .error (.overflow _ counter)

theorem Aliases.returnFromCall (aliases : machine.Aliases modulus other) :
    Agrees modulus machine.returnFromCall other.returnFromCall := by
  obtain ⟨pc, index, counter, cell⟩ := aliases
  simp only [Machine.returnFromCall, CallStack.pop]
  by_cases empty : machine.stack.depth = 0
  · rw [if_pos empty, if_pos empty]
    exact .error (.underflow counter)
  · rw [if_neg empty, if_neg empty]
    by_cases fits : fitsWord (machine.stack.depth - 1)
    · rw [if_pos fits]
      exact .ok (.intro _ index rfl cell)
    · rw [if_neg fits]
      exact agrees_error modulus _

/-- Every instruction but the guarded jump treats aliases alike. -/
theorem Aliases.apply (period : Period modulus) (aliases : machine.Aliases modulus other)
    {instruction : Instruction}
    (guard : instruction = .jump hiresJumpAddress →
      (machine.pc = hiresTriggerPc ↔ other.pc = hiresTriggerPc)) :
    Agrees modulus (machine.apply instruction) (other.apply instruction) := by
  have registers : other.registers = machine.registers := by
    cases aliases
    rfl
  have keypad : other.keypad = machine.keypad := by
    cases aliases
    rfl
  cases instruction with
  | sys address =>
      obtain ⟨pc, index, counter, cell⟩ := aliases
      simp only [Machine.apply]
      split
      · exact .ok (.intro pc index counter cell)
      · exact .ok (.intro pc index counter cell)
  | returnFromCall => exact aliases.returnFromCall
  | call address => exact aliases.call period address
  | jump address =>
      simp only [Machine.apply]
      by_cases hires : address = hiresJumpAddress
      · subst hires
        have together := guard rfl
        by_cases trigger : machine.pc = hiresTriggerPc
        · rw [if_pos ⟨rfl, trigger⟩, if_pos ⟨rfl, together.mp trigger⟩]
          obtain ⟨pc, index, counter, cell⟩ := aliases
          exact .ok (.intro hiresEntryPoint index rfl cell)
        · rw [if_neg fun both => trigger both.2, if_neg fun both => trigger (together.mpr both.2)]
          exact aliases.jump hiresJumpAddress
      · rw [if_neg fun both => hires both.1, if_neg fun both => hires both.1]
        exact aliases.jump address
  | skipIfEqualImmediate | skipIfNotEqualImmediate | skipIfEqualRegister
  | skipIfNotEqualRegister | skipIfKeyPressed | skipIfKeyNotPressed =>
      simp only [Machine.apply, registers, keypad]
      exact .ok (aliases.skipIf period _)
  | setRegister | or | and | xor | add | subtract | shiftRight | subtractReversed | shiftLeft =>
      exact .ok (aliases.compute _ _ _)
  | setImmediate x value =>
      obtain ⟨pc, index, counter, cell⟩ := aliases
      simp only [Machine.apply]
      split
      · exact .ok (.intro pc index counter cell)
      · exact agrees_error modulus _
  | clearScreen | addImmediate | random | getDelayTimer | setDelayTimer | setSoundTimer =>
      obtain ⟨pc, index, counter, cell⟩ := aliases
      exact .ok (.intro pc index counter cell)
  | setIndex address =>
      obtain ⟨pc, index, counter, cell⟩ := aliases
      simp only [Machine.apply]
      split
      · exact .ok (.intro pc _ counter rfl)
      · exact agrees_error modulus _
  | addToIndex x =>
      obtain ⟨pc, index, counter, cell⟩ := aliases
      exact .ok (.intro pc _ counter (period_memorySize.add cell _))
  | fontCharacter x =>
      obtain ⟨pc, index, counter, cell⟩ := aliases
      exact .ok (.intro pc _ counter rfl)
  | jumpWithOffset address =>
      obtain ⟨pc, index, counter, cell⟩ := aliases
      exact .ok (.intro _ index rfl cell)
  | draw x y height => exact .ok (aliases.draw x y height)
  | waitForKey x => exact .ok (aliases.waitForKey period x)
  | binaryCodedDecimal x => exact .ok (aliases.storeDecimal x)
  | storeRegisters x => exact .ok (aliases.storeRegisters x)
  | loadRegisters x => exact .ok (aliases.loadRegisters x)

/-- Aliases part when only one of them stands at the start of the program, before the jump that
switches the mode there. -/
def Parts (machine other : Machine) : Prop :=
  machine.peek = 0x1260 ∧ (machine.pc = 0x200 ↔ other.pc ≠ 0x200)

theorem not_parts_of_pc_eq (same : machine.pc = other.pc) : ¬machine.Parts other := by
  rintro ⟨_, apart⟩
  rw [same] at apart
  exact iff_not_self apart

theorem ready_pc_eq_hiresTriggerPc_iff (machine : Machine) (timers : Timers Reading) :
    (machine.ready timers).pc = hiresTriggerPc ↔ machine.pc = 0x200 :=
  UInt16.add_left_inj (a := machine.pc) (b := 0x200) 2

/-- Only the word `0x1260` meets the guard. -/
theorem Aliases.step (period : Period modulus) (aliases : machine.Aliases modulus other)
    (together : ¬machine.Parts other) (now : Reading) :
    Agrees modulus (machine.step now) (other.step now) := by
  have same := aliases.peek period
  have clock : other.timers = machine.timers := by
    cases aliases
    rfl
  cases updated : machine.timers.update now with
  | error cause =>
      have refused : other.timers.update now = .error cause := by rw [clock, updated]
      rw [step_of_refusal updated, step_of_refusal refused]
      exact agrees_error modulus _
  | ok timers =>
      have taken : other.timers.update now = .ok timers := by rw [clock, updated]
      rw [step_of_update updated, step_of_update taken, same]
      cases decoded : Instruction.decode? machine.peek with
      | none =>
          rw [execute_of_undecodable decoded, execute_of_undecodable decoded]
          exact agrees_error modulus _
      | some instruction =>
          rw [execute_of_decode decoded, execute_of_decode decoded]
          apply (aliases.ready period timers).apply period
          rintro rfl
          obtain ⟨group, digits⟩ := Instruction.decode?_eq_jump_iff.mp decoded
          have word : machine.peek = 0x1260 := by
            unfold hiresJumpAddress at digits
            omega
          rw [ready_pc_eq_hiresTriggerPc_iff, ready_pc_eq_hiresTriggerPc_iff]
          have apart : ¬(machine.pc = 0x200 ↔ other.pc ≠ 0x200) := fun apart =>
            together ⟨word, apart⟩
          tauto

/-- Two machines stay together on readings when they part at no step that both take. -/
def Together (machine other : Machine) : List Reading → Prop
  | [] => True
  | now :: later =>
      ¬machine.Parts other ∧
        match machine.step now, other.step now with
        | .ok next, .ok next' => next.Together next' later
        | _, _ => True

instance (machine other : Machine) : Decidable (machine.Parts other) :=
  inferInstanceAs (Decidable (_ ∧ (_ ↔ _)))

instance decidableTogether (machine other : Machine) :
    (readings : List Reading) → Decidable (machine.Together other readings)
  | [] => .isTrue trivial
  | now :: later =>
      have : Decidable (match machine.step now, other.step now with
          | .ok next, .ok next' => next.Together next' later
          | _, _ => True) :=
        match machine.step now, other.step now with
        | .ok next, .ok next' => decidableTogether next next' later
        | .error _, _ => .isTrue trivial
        | .ok _, .error _ => .isTrue trivial
      inferInstanceAs (Decidable (_ ∧ _))

theorem Aliases.steps (period : Period modulus) (aliases : machine.Aliases modulus other)
    {readings : List Reading} (together : machine.Together other readings) :
    Agrees modulus (machine.steps readings) (other.steps readings) := by
  induction readings generalizing machine other with
  | nil => exact .ok aliases
  | cons now later ih =>
      obtain ⟨whole, rest⟩ := together
      have agrees := aliases.step period whole now
      simp only [Machine.steps]
      generalize machine.step now = first at agrees rest ⊢
      generalize other.step now = second at agrees rest ⊢
      cases agrees with
      | ok aliases => exact ih aliases rest
      | error alike => exact .error alike

theorem Aliases.pc_eq (aliases : machine.Aliases (2 ^ 16) other) : machine.pc = other.pc := by
  obtain ⟨pc, index, counter, cell⟩ := aliases
  have small : machine.pc.toNat = pc.toNat :=
    counter.eq_of_lt_of_lt machine.pc.toNat_lt pc.toNat_lt
  exact UInt16.toNat_inj.mp small

/-- Machines with the same counter never part. -/
theorem Aliases.together (aliases : machine.Aliases (2 ^ 16) other) (readings : List Reading) :
    machine.Together other readings := by
  induction readings generalizing machine other with
  | nil => trivial
  | cons now later ih =>
      have whole := not_parts_of_pc_eq aliases.pc_eq
      have agrees := aliases.step period_word whole now
      refine ⟨whole, ?_⟩
      generalize machine.step now = first at agrees ⊢
      generalize other.step now = second at agrees ⊢
      cases agrees with
      | ok aliases => exact ih aliases
      | error alike => trivial

/-- Aliases stay aliases as long as they do not part, and aliases with the same counter never do. -/
theorem aliasing_unobservable (aliases : machine.Aliases memorySize other)
    (readings : List Reading) :
    (machine.Together other readings →
      Agrees memorySize (machine.steps readings) (other.steps readings)) ∧
    (machine.pc = other.pc →
      (∀ next, machine.steps readings = .ok next →
        ∃ index, next.index.toNat ≡ index.toNat [MOD memorySize] ∧
          other.steps readings = .ok { next with index := index }) ∧
      ∀ error, machine.steps readings = .error error → other.steps readings = .error error) := by
  constructor
  · exact aliases.steps period_memorySize
  · intro same
    have equal : machine.Aliases (2 ^ 16) other := by
      obtain ⟨pc, index, counter, cell⟩ := aliases
      have counters : machine.pc.toNat = pc.toNat := congrArg UInt16.toNat same
      exact .intro pc index (by rw [counters]) cell
    have agrees := equal.steps period_word (equal.together readings)
    generalize machine.steps readings = first at agrees ⊢
    generalize other.steps readings = second at agrees ⊢
    cases agrees with
    | ok aliases =>
        refine ⟨?_, fun error failed => by cases failed⟩
        rintro next same
        cases same
        have counters := aliases.pc_eq
        obtain ⟨pc, index, counter, cell⟩ := aliases
        cases counters
        exact ⟨index, cell, rfl⟩
    | error alike =>
        refine ⟨fun next stepped => (by cases stepped), ?_⟩
        rintro error same
        cases same
        rw [alike.eq]

/-- This program loads two registers and calls the subroutine behind it. -/
def loadThenCall : Machine := fresh.obeyAll [.load (.bytes [0xF1, 0x65, 0x22, 0x04])]

/-- Both addresses move to the next memory. -/
def nextMemory : List Command :=
  [.apply (.instruction (.jump 0x1200)), .apply (.instruction (.setIndex 0x1000))]

theorem obeyAll_nextMemory (machine : Machine) :
    machine.obeyAll nextMemory = { machine with pc := 0x1200, index := 0x1000 } := rfl

/-- The program runs alike from both memories. -/
theorem aliasing_of_nextMemory :
    loadThenCall.Reachable ∧ (loadThenCall.obeyAll nextMemory).Reachable ∧
      loadThenCall.pc ≠ (loadThenCall.obeyAll nextMemory).pc ∧
      Agrees memorySize (loadThenCall.steps [.zero, .zero])
        ((loadThenCall.obeyAll nextMemory).steps [.zero, .zero]) ∧
      ∃ next index, loadThenCall.steps [.zero, .zero] = .ok next ∧
        { loadThenCall with index := 0x1000 }.steps [.zero, .zero] =
          .ok { next with index := index } := by
  have start : loadThenCall.pc = 0x200 ∧ loadThenCall.index = 0 := by decide +kernel
  have counter : loadThenCall.pc.toNat ≡ (0x1200 : UInt16).toNat [MOD memorySize] := by
    rw [start.1]
    decide
  have cell : loadThenCall.index.toNat ≡ (0x1000 : UInt16).toNat [MOD memorySize] := by
    rw [start.2]
    decide
  have apart : loadThenCall.Together { loadThenCall with pc := 0x1200, index := 0x1000 }
      [.zero, .zero] := by
    decide +kernel
  have aliases : loadThenCall.Aliases memorySize _ := .intro 0x1200 0x1000 counter cell
  have lifted : loadThenCall.Aliases memorySize _ := .intro loadThenCall.pc 0x1000 rfl cell
  have runs : (loadThenCall.steps [.zero, .zero]).toOption.isSome := by decide +kernel
  have reached : loadThenCall.Reachable := reachable_fresh _
  refine ⟨reached, reached.obeyAll nextMemory, ?_⟩
  rw [obeyAll_nextMemory, start.1]
  refine ⟨by decide, ?_, ?_⟩
  · exact (aliasing_unobservable aliases [.zero, .zero]).1 apart
  · cases ran : loadThenCall.steps [.zero, .zero] with
    | ok next =>
        obtain ⟨index, _, same⟩ :=
          ((aliasing_unobservable lifted [.zero, .zero]).2 rfl).1 next ran
        exact ⟨next, index, rfl, same⟩
    | error error =>
        rw [ran] at runs
        cases runs

end Machine

end Chip8
