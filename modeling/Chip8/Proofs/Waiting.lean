import Chip8.Proofs.Course
import Chip8.Proofs.Opcode

/-!
This file proves that a machine that waits for a key does nothing but count the time.
-/

namespace Chip8

namespace Keypad

variable {keypad : Keypad} {key : Fin 16}

theorem firstHeld?_of_released (released : ∀ key : Fin 16, keypad.keys[key] = false) :
    keypad.firstHeld? = none := by
  rw [firstHeld?, Vector.findFinIdx?_eq_none_iff]
  intro state member
  obtain ⟨key, inside, rfl⟩ := Vector.getElem_of_mem member
  rw [id, Bool.not_eq_true]
  exact released ⟨key, inside⟩

theorem held_of_firstHeld? (first : keypad.firstHeld? = some key) :
    keypad.keys[key] = true ∧ ∀ smaller < key, keypad.keys[smaller] = false := by
  rw [firstHeld?, Vector.findFinIdx?, Option.map_eq_some_iff] at first
  obtain ⟨place, found, rfl⟩ := first
  obtain ⟨held, before⟩ := Array.findFinIdx?_eq_some_iff.mp found
  refine ⟨held, fun smaller below => ?_⟩
  exact Bool.eq_false_iff.mpr (before (smaller.cast keypad.keys.size_toArray.symm) below)

/-- Among held keys there is a smallest one. -/
theorem exists_firstHeld? (held : ∃ key : Fin 16, keypad.keys[key] = true) :
    ∃ key, keypad.firstHeld? = some key := by
  obtain ⟨key, held⟩ := held
  cases first : keypad.firstHeld? with
  | some key => exact ⟨key, rfl⟩
  | none =>
      have released := released_of_firstHeld? first key
      rw [held] at released
      contradiction

end Keypad

theorem Instruction.decode?_waitForKey (x : Fin 16) :
    decode? (0xF00A + 0x100 * x.val : Nat) = some (.waitForKey x.val) := by
  revert x
  decide

namespace Machine

variable {machine : Machine} {x : Fin 16} {now : Reading} {timers : Timers Reading}

/-- The next instruction waits for a key, and no key is held. -/
structure Waits (machine : Machine) (x : Fin 16) : Prop where
  word : machine.peek = 0xF00A + 0x100 * x.val
  released : ∀ key : Fin 16, machine.keypad.keys[key] = false

theorem step_waitForKey (word : machine.peek = 0xF00A + 0x100 * x.val)
    (updated : machine.timers.update now = .ok timers) :
    machine.step now = .ok ((machine.ready timers).waitForKey x.val) := by
  rw [step_of_update updated, word, execute_of_decode (Instruction.decode?_waitForKey x)]
  rfl

/-- The counter moves back over the word, even where it has come around. -/
theorem waitForKey_of_released (released : machine.keypad.firstHeld? = none) (x : Int) :
    (machine.ready timers).waitForKey x = { machine with timers := timers } := by
  have back : machine.pc + 2 - 2 = machine.pc := UInt16.add_sub_cancel ..
  simp only [waitForKey, ready, released, back]

theorem step_of_held (word : machine.peek = 0xF00A + 0x100 * x.val) {key : Fin 16}
    (first : machine.keypad.firstHeld? = some key)
    (updated : machine.timers.update now = .ok timers) :
    machine.step now = .ok { machine with
      pc := machine.pc + 2
      registers := machine.registers.write x.val (.ofNat key.val)
      timers := timers } := by
  rw [step_waitForKey word updated]
  simp only [waitForKey, setRegister, ready, first]

namespace Waits

theorem pass (waits : machine.Waits x) (timers : Timers Reading) :
    Waits { machine with timers := timers } x := ⟨waits.word, waits.released⟩

theorem step (waits : machine.Waits x) (now : Reading) :
    machine.step now = machine.updateTimers now := by
  unfold updateTimers
  cases updated : machine.timers.update now with
  | ok timers =>
      have none := Keypad.firstHeld?_of_released waits.released
      rw [step_waitForKey waits.word updated, waitForKey_of_released none]
  | error cause => exact step_of_refusal updated

theorem steps (waits : machine.Waits x) (readings : List Reading) :
    machine.steps readings = readings.foldlM updateTimers machine := by
  -- A refused reading ends both sides, and after an accepted one the machine waits as before.
  induction readings generalizing machine with
  | nil => rfl
  | cons now later ih =>
      rw [Machine.steps, List.foldlM_cons, waits.step now]
      unfold updateTimers
      cases machine.timers.update now with
      | ok timers => exact ih (waits.pass timers)
      | error cause => rfl

theorem exists_steps (waits : machine.Waits x) {readings : List Reading}
    (accepted : machine.AcceptsAll readings) :
    ∃ timers, machine.steps readings = .ok { machine with timers := timers } := by
  induction readings generalizing machine with
  | nil => exact ⟨machine.timers, rfl⟩
  | cons now later ih =>
      obtain ⟨first, rest⟩ := accepted
      obtain ⟨timers, updated⟩ := accepts_iff.mp first
      have stepped : machine.step now = .ok { machine with timers := timers } := by
        rw [waits.step now, updateTimers, updated]
      rw [stepped] at rest
      obtain ⟨last, ended⟩ := ih (waits.pass timers) rest
      refine ⟨last, ?_⟩
      rw [Machine.steps, stepped]
      exact ended

end Waits

/-- While no key is held the steps only update the timers, and the first step that meets held keys
takes the smallest one. -/
theorem waiting_only_passes_time (machine : Machine) (x : Fin 16) (waits : machine.Waits x)
    (readings : List Reading) :
    machine.steps readings = readings.foldlM updateTimers machine ∧
      (machine.AcceptsAll readings →
        ∃ waiting, machine.steps readings = .ok waiting ∧
          waiting = { machine with timers := waiting.timers } ∧
          ∀ (keypad : Keypad) (now : Reading) (ticked : Machine),
            (∃ key : Fin 16, keypad.keys[key] = true) →
              { waiting with keypad := keypad }.updateTimers now = .ok ticked →
                ∃ next, { waiting with keypad := keypad }.step now = .ok next ∧
                  (∃ key : Fin 16, keypad.keys[key] = true ∧
                    (∀ smaller < key, keypad.keys[smaller] = false) ∧
                    (next.registers.read x.val).toNat = key.val) ∧
                  (∀ r : Int, 0 ≤ r ∧ r ≤ 15 → r ≠ x.val →
                    next.registers.read r = machine.registers.read r) ∧
                  next.pc.toNat = (machine.pc.toNat + 2) % 0x10000 ∧
                  next = { ticked with pc := next.pc, registers := next.registers }) := by
  refine ⟨waits.steps readings, fun accepted => ?_⟩
  obtain ⟨passed, ended⟩ := waits.exists_steps accepted
  refine ⟨_, ended, rfl, fun keypad now ticked held updated => ?_⟩
  obtain ⟨key, first⟩ := Keypad.exists_firstHeld? held
  obtain ⟨timers, accepts⟩ := accepts_iff.mp ⟨ticked, updated⟩
  rw [updateTimers, accepts] at updated
  cases updated
  have word : { machine with timers := passed, keypad := keypad }.peek = 0xF00A + 0x100 * x.val :=
    waits.word
  have stepped := step_of_held word first accepts
  have range : 0 ≤ (x.val : Int) ∧ (x.val : Int) ≤ 15 := by omega
  obtain ⟨pressed, lowest⟩ := Keypad.held_of_firstHeld? first
  refine ⟨_, stepped, ⟨key, pressed, lowest, ?_⟩, ?_, UInt16.toNat_add machine.pc 2, rfl⟩
  · rw [Registers.read_write_self, UInt8.toNat_ofNat']
    omega
  · intro r inside other
    exact Registers.read_write_of_ne _ _
      (mt (Instruction.registerIndex_injective range inside) other)

/-- The word of the program counter has its first byte at the end of the memory, and its second
byte at the start. -/
def waitingAcross : Machine :=
  fresh.obeyAll
    [.apply (.instruction (.setImmediate 0 0xF5)), .apply (.instruction (.setImmediate 1 0x0A)),
      .apply (.instruction (.setIndex 0xFFF)), .apply (.instruction (.storeRegisters 1)),
      .apply (.instruction (.setImmediate 5 77)), .apply (.instruction (.setDelayTimer 5)),
      .apply (.instruction (.jump 0xFFFF))]

/-- These are the times of zero, one half and one second. -/
def halfSeconds : List Reading := [.zero, ⟨0x3FE0000000000000⟩, ⟨0x3FF0000000000000⟩]

/-- Keys four and nine are held. -/
def twoKeys : Keypad := ⟨Vector.ofFn fun key => key.val == 4 || key.val == 9⟩

/-- The machine waits for a second at the end of the memory and goes on at the start. -/
theorem waiting_across_passes_time :
    waitingAcross.Waits 5 ∧ waitingAcross.AcceptsAll halfSeconds ∧
      ∃ waiting next, waitingAcross.steps halfSeconds = .ok waiting ∧
        halfSeconds.foldlM updateTimers waitingAcross = .ok waiting ∧
        waiting.pc = 0xFFFF ∧ waiting.timers.delay = 17 ∧
        { waiting with keypad := twoKeys }.step ⟨0x3FF8000000000000⟩ = .ok next ∧
        (next.registers.read 5).toNat = 4 ∧ next.pc.toNat = 1 := by
  have waits : waitingAcross.Waits 5 := ⟨by decide +kernel, by decide +kernel⟩
  have accepted : waitingAcross.AcceptsAll halfSeconds := by decide +kernel
  have counter : waitingAcross.pc = 0xFFFF := by decide +kernel
  have timers : (waitingAcross.steps halfSeconds).toOption.map (·.timers) =
      some ⟨17, 0, ⟨0x3FF0000000000000⟩⟩ := by decide +kernel
  have accepts : { fresh with timers := ⟨17, 0, ⟨0x3FF0000000000000⟩⟩ }.Accepts
      ⟨0x3FF8000000000000⟩ := by decide +kernel
  have smallest : ∀ key : Fin 16, twoKeys.keys[key] = true →
      (∀ smaller < key, twoKeys.keys[smaller] = false) → key = 4 := by decide +kernel
  obtain ⟨same, onwards⟩ := waiting_only_passes_time waitingAcross 5 waits halfSeconds
  obtain ⟨waiting, ended, kept, goesOn⟩ := onwards accepted
  rw [ended, Except.toOption, Option.map_some, Option.some_inj] at timers
  obtain ⟨ticked, updated⟩ : { waiting with keypad := twoKeys }.Accepts ⟨0x3FF8000000000000⟩ := by
    rw [accepts_iff, timers]
    exact accepts_iff.mp accepts
  obtain ⟨next, stepped, ⟨key, held, lowest, value⟩, _, moved, _⟩ :=
    goesOn twoKeys _ _ ⟨4, by decide +kernel⟩ updated
  refine ⟨waits, accepted, waiting, next, ended, same ▸ ended, ?_, ?_, stepped, ?_, ?_⟩
  · rw [kept, counter]
  · rw [timers]
  · rw [smallest key held lowest] at value
    exact value
  · rw [moved, counter]
    rfl

end Machine

end Chip8
