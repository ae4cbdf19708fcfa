import Chip8.Machine.Step

/-!
This file takes a step apart into the reading of the clock and the instruction, and iterates it.
-/

namespace Chip8.Machine

variable {machine next : Machine} {now : Reading} {timers : Timers Reading}

/-- The timers accept a reading when it lies a number of ticks from the last one. -/
def Accepts (machine : Machine) (now : Reading) : Prop :=
  ∃ ticked, machine.updateTimers now = .ok ticked

/-- The instruction meets the machine with its counter behind the word and with new timers. -/
def ready (machine : Machine) (timers : Timers Reading) : Machine :=
  { machine with pc := machine.pc + 2, timers := timers }

theorem accepts_iff : machine.Accepts now ↔ ∃ timers, machine.timers.update now = .ok timers := by
  unfold Accepts updateTimers
  cases machine.timers.update now with
  | ok timers => simp
  | error cause => simp

instance (machine : Machine) (now : Reading) : Decidable (machine.Accepts now) :=
  match updated : machine.timers.update now with
  | .ok timers => .isTrue (accepts_iff.mpr ⟨timers, updated⟩)
  | .error _ => .isFalse fun accepted => by
      obtain ⟨timers, same⟩ := accepts_iff.mp accepted
      rw [updated] at same
      contradiction

variable [RandomLibrary]

theorem step_of_update (updated : machine.timers.update now = .ok timers) :
    machine.step now = (machine.ready timers).execute machine.peek := by
  simp only [step, updateTimers, advance, updated]
  rfl

theorem step_of_refusal {cause : ClockError} (refused : machine.timers.update now = .error cause) :
    machine.step now = .error (.clock cause) := by
  simp only [step, updateTimers, advance, refused]
  rfl

theorem execute_of_decode {opcode : Int} {instruction : Instruction}
    (decoded : Instruction.decode? opcode = some instruction) :
    machine.execute opcode = machine.apply instruction := by
  simp only [execute, Instruction.decode, decoded]

theorem execute_of_undecodable {opcode : Int} (undecodable : Instruction.decode? opcode = none) :
    machine.execute opcode = .error (.fault (.invalidOpcode opcode)) := by
  simp only [execute, Instruction.decode, undecodable]

theorem execute_eq_ok_iff {opcode : Int} :
    machine.execute opcode = .ok next ↔
      ∃ instruction, Instruction.decode? opcode = some instruction ∧
        machine.apply instruction = .ok next := by
  cases decoded : Instruction.decode? opcode with
  | some instruction => simp [execute_of_decode decoded]
  | none => simp [execute_of_undecodable decoded]

/-- A step succeeds when the clock, the decoder and the instruction all do. -/
theorem step_eq_ok_iff :
    machine.step now = .ok next ↔
      ∃ timers instruction, machine.timers.update now = .ok timers ∧
        Instruction.decode? machine.peek = some instruction ∧
          (machine.ready timers).apply instruction = .ok next := by
  cases updated : machine.timers.update now with
  | ok timers => simp [step_of_update updated, execute_eq_ok_iff]
  | error cause => simp [step_of_refusal updated]

/-- The steps take one reading each and end at the first error. -/
def steps (machine : Machine) : List Reading → Except Error Machine
  | [] => .ok machine
  | now :: later =>
      match machine.step now with
      | .ok next => next.steps later
      | .error error => .error error

/-- A run keeps what each of its steps keeps. -/
theorem steps_preserve {Holds : Machine → Prop} {readings : List Reading}
    (kept : ∀ {machine next now}, Holds machine → machine.step now = .ok next → Holds next)
    (holds : Holds machine) (ended : machine.steps readings = .ok next) : Holds next := by
  induction readings generalizing machine with
  | nil =>
      cases ended
      exact holds
  | cons now later ih =>
      rw [steps] at ended
      cases stepped : machine.step now with
      | ok middle =>
          rw [stepped] at ended
          exact ih (kept holds stepped) ended
      | error error =>
          rw [stepped] at ended
          cases ended

theorem steps_append (machine : Machine) (earlier later : List Reading) :
    machine.steps (earlier ++ later) = (machine.steps earlier).bind (·.steps later) := by
  induction earlier generalizing machine with
  | nil => rfl
  | cons now rest ih =>
      rw [List.cons_append, steps, steps]
      cases machine.step now with
      | ok next => exact ih next
      | error error => rfl

end Chip8.Machine
