import Chip8.Proofs.Cycle
import Chip8.Proofs.Opcode
import Mathlib.Tactic.ByContra

/-!
This file proves which machines cannot take a step, and that they never take one later.
-/

namespace Chip8

namespace Machine

variable {machine next : Machine} {fault : Fault}

/-- A machine is stuck before a word without meaning, before a return with an empty stack and
before a call with a full one. The faults name the place behind the word. -/
inductive Stuck (machine : Machine) : Fault → Prop where
  | undefined (undefined : ¬IsOpcode machine.peek) : Stuck machine (.invalidOpcode machine.peek)
  | underflow (word : machine.peek = 0x00EE) (empty : machine.stack.depth = 0) :
      Stuck machine (.stackUnderflow ↑((machine.pc.toNat + 2) % 0x10000))
  | overflow (group : machine.peek / 0x1000 = 2) (full : machine.stack.depth = 16) :
      Stuck machine (.stackOverflow ↑((machine.pc.toNat + 2) % 0x10000) 16)

theorem toNat_ready_pc (machine : Machine) (timers : Timers Reading) :
    (machine.ready timers).pc.toNat = (machine.pc.toNat + 2) % 0x10000 :=
  UInt16.toNat_add machine.pc 2

/-- The new timers have no part in the fault. -/
theorem Stuck.execute (stuck : machine.Stuck fault) (timers : Timers Reading) :
    (machine.ready timers).execute machine.peek = .error (.fault fault) := by
  cases stuck with
  | undefined undefined =>
      apply execute_of_undecodable
      rw [← Option.not_isSome_iff_eq_none, Instruction.isSome_decode?_iff]
      exact undefined
  | underflow word empty =>
      rw [execute_of_decode (Instruction.decode?_eq_return_iff.mpr word)]
      have popped (pc : Int) :
          (machine.ready timers).stack.pop pc = .error (.fault (.stackUnderflow pc)) :=
        CallStack.pop_of_empty empty pc
      simp only [apply, returnFromCall, toNat_ready_pc, popped]
  | overflow group full =>
      rw [execute_of_decode (Instruction.decode?_eq_call_iff.mpr ⟨group, rfl⟩)]
      have pushed : (machine.ready timers).stack.push (machine.ready timers).pc =
          .error (.fault (.stackOverflow (machine.ready timers).pc.toNat stackSize)) :=
        CallStack.push_of_full full (machine.ready timers).pc
      rw [toNat_ready_pc] at pushed
      simp only [apply, call, pushed]
      rfl

/-- Only the stack can refuse an instruction whose operands fit an opcode. -/
theorem apply_of_inRange {instruction : Instruction} (formed : machine.stack.WellFormed)
    (range : instruction.InRange)
    (free : ∀ address, instruction = .call address → machine.stack.depth < 16)
    (used : instruction = .returnFromCall → 0 < machine.stack.depth) :
    ∃ next, machine.apply instruction = .ok next := by
  have fits (value : Int) (kind : OperandKind) (inside : 0 ≤ value ∧ value ≤ kind.limit) :
      fitsWord value := by
    have small : kind.limit ≤ 0xFFF := by cases kind <;> decide
    unfold fitsWord
    omega
  cases instruction with
  | returnFromCall =>
      have popped := CallStack.pop_of_used formed (used rfl) machine.pc.toNat
      simp only [apply, returnFromCall, popped]
      exact ⟨_, rfl⟩
  | call address =>
      have pushed := CallStack.push_of_free formed (free address rfl) machine.pc
      have word := fits address .address (range _ (List.mem_singleton.mpr rfl))
      simp only [apply, call, pushed, jump, if_pos word]
      exact ⟨_, rfl⟩
  | jump address =>
      have word := fits address .address (range _ (List.mem_singleton.mpr rfl))
      simp only [apply, jump, if_pos word]
      split
      · exact ⟨_, rfl⟩
      · exact ⟨_, rfl⟩
  | setImmediate x value =>
      have word := fits value .byte (range ⟨"value", .byte, value⟩ (by simp [Instruction.operands]))
      simp only [apply, if_pos word]
      exact ⟨_, rfl⟩
  | setIndex address =>
      have word := fits address .address (range _ (List.mem_singleton.mpr rfl))
      simp only [apply, if_pos word]
      exact ⟨_, rfl⟩
  | _ => exact ⟨_, rfl⟩

/-- A machine that is not stuck takes its step. -/
theorem execute_of_not_stuck (formed : machine.stack.WellFormed)
    (free : ∀ fault, ¬machine.Stuck fault) (timers : Timers Reading) :
    ∃ next, (machine.ready timers).execute machine.peek = .ok next := by
  cases decoded : Instruction.decode? machine.peek with
  | none =>
      have undefined : ¬IsOpcode machine.peek := by
        rw [← Instruction.isSome_decode?_iff, decoded]
        simp
      exact absurd (.undefined undefined) (free _)
  | some instruction =>
      rw [execute_of_decode decoded]
      have range := Instruction.inRange_of_decodeWord?
        ((Instruction.decode?_natCast machine.peek).symm.trans decoded)
      have lower : 0 ≤ machine.stack.depth := formed.1
      have upper : machine.stack.depth ≤ 16 := formed.2.1
      have formed : (machine.ready timers).stack.WellFormed := formed
      apply apply_of_inRange formed range
      · rintro address rfl
        have group := (Instruction.decode?_eq_call_iff.mp decoded).1
        have room : machine.stack.depth ≠ 16 := fun full => free _ (.overflow group full)
        show machine.stack.depth < 16
        omega
      · rintro rfl
        have word := Instruction.decode?_eq_return_iff.mp decoded
        have used : machine.stack.depth ≠ 0 := fun empty => free _ (.underflow word empty)
        show 0 < machine.stack.depth
        omega

theorem accepts_of_step_fault {now : Reading}
    (failed : machine.step now = .error (.fault fault)) : machine.Accepts now := by
  cases updated : machine.timers.update now with
  | ok timers => exact accepts_iff.mpr ⟨timers, updated⟩
  | error cause =>
      rw [step_of_refusal updated] at failed
      cases failed

theorem Stuck.step {now : Reading} (stuck : machine.Stuck fault) (accepted : machine.Accepts now) :
    machine.step now = .error (.fault fault) := by
  obtain ⟨timers, updated⟩ := accepts_iff.mp accepted
  rw [step_of_update updated]
  exact stuck.execute timers

theorem step_of_not_stuck {now : Reading} (formed : machine.stack.WellFormed)
    (free : ∀ fault, ¬machine.Stuck fault) (accepted : machine.Accepts now) :
    ∃ next, machine.step now = .ok next := by
  obtain ⟨timers, updated⟩ := accepts_iff.mp accepted
  rw [step_of_update updated]
  exact execute_of_not_stuck formed free timers

/-- With an accepted reading the errors of a step are the faults of a stuck machine. -/
theorem step_eq_error_iff {now : Reading} (formed : machine.stack.WellFormed)
    (accepted : machine.Accepts now) (error : Error) :
    machine.step now = .error error ↔ ∃ fault, machine.Stuck fault ∧ error = .fault fault := by
  constructor
  · intro failed
    by_contra free
    have never (fault : Fault) : ¬machine.Stuck fault := by
      intro stuck
      have same := (stuck.step accepted).symm.trans failed
      cases same
      exact free ⟨fault, stuck, rfl⟩
    obtain ⟨next, stepped⟩ := step_of_not_stuck formed never accepted
    rw [stepped] at failed
    contradiction
  · rintro ⟨fault, stuck, rfl⟩
    exact stuck.step accepted

theorem step_succeeds_iff {now : Reading} (formed : machine.stack.WellFormed)
    (accepted : machine.Accepts now) :
    (∃ next, machine.step now = .ok next) ↔ ∀ fault, ¬machine.Stuck fault := by
  constructor
  · rintro ⟨next, stepped⟩ fault stuck
    rw [stuck.step accepted] at stepped
    contradiction
  · intro free
    exact step_of_not_stuck formed free accepted

end Machine

namespace Session

variable {session : Session} {fault : Fault}

/-- The cycles go on after a failure. -/
def afterCycles (session : Session) : Nat → Session
  | 0 => session
  | count + 1 => (session.afterCycles count).cycle.2

/-- The machine and the fault of a stuck session stay through all cycles. -/
theorem afterCycles_of_stuck (stuck : session.machine.Stuck fault)
    (kept : session.fault? = some fault) (count : Nat) :
    (session.afterCycles count).machine = session.machine ∧
      (session.afterCycles count).fault? = some fault := by
  induction count with
  | zero => exact ⟨rfl, kept⟩
  | succ count ih =>
      obtain ⟨same, keeps⟩ := ih
      have still : (session.afterCycles count).machine.Stuck fault := by
        rw [same]
        exact stuck
      by_cases accepted : (session.afterCycles count).machine.Accepts
          (session.afterCycles count).clock.read.1
      · obtain ⟨_, machine, last⟩ := halts_of_fault (still.step accepted)
        exact ⟨machine.trans same, last⟩
      · obtain ⟨machine, last⟩ := cycle_of_refusal accepted
        exact ⟨machine.trans same, last.trans keeps⟩

/-- A step fails exactly on a stuck machine, and a session that halts there stays halted. -/
theorem halting_exact_and_final (reached : session.machine.Reachable) :
    (∀ now, session.machine.Accepts now →
      (∀ error, session.machine.step now = .error error ↔
        ∃ fault, session.machine.Stuck fault ∧ error = .fault fault) ∧
      ((∃ next, session.machine.step now = .ok next) ↔
        ∀ fault, ¬session.machine.Stuck fault)) ∧
    ∀ halted, session.cycle = (.halted, halted) →
      ∃ fault, session.machine.Stuck fault ∧ ∀ count,
        let later := halted.afterCycles count
        later.machine = session.machine ∧ later.fault? = some fault ∧
          (session.machine.Accepts later.clock.read.1 →
            later.cycle.1 = .halted ∧ later.cycle.2.machine = session.machine ∧
              later.cycle.2.fault? = some fault) := by
  have formed := reached.coherent.stack
  constructor
  · intro now accepted
    exact ⟨Machine.step_eq_error_iff formed accepted, Machine.step_succeeds_iff formed accepted⟩
  · intro halted stopped
    obtain ⟨fault, failed⟩ := step_of_cycle_halted stopped
    have accepted := Machine.accepts_of_step_fault failed
    obtain ⟨_, stuck, same⟩ := (Machine.step_eq_error_iff formed accepted _).mp failed
    cases same
    obtain ⟨_, machine, kept⟩ := halts_of_fault failed
    rw [stopped] at machine kept
    have still : halted.machine.Stuck fault := by
      rw [machine]
      exact stuck
    refine ⟨fault, stuck, fun count => ?_⟩
    obtain ⟨same, keeps⟩ := afterCycles_of_stuck still kept count
    have alike := same.trans machine
    refine ⟨alike, keeps, fun taken => ?_⟩
    rw [← alike] at stuck taken ⊢
    exact halts_of_fault (stuck.step taken)

/-- This program calls a subroutine at its third word, which returns, and then returns again. -/
def strayReturn : Session :=
  .start (Machine.fresh.obeyAll
    [.load (.bytes [0x22, 0x04, 0x00, 0xEE, 0x00, 0xEE]), .step .zero, .step .zero])
    ⟨[]⟩ (.create {} ⟨[]⟩)

/-- The second return halts the program for good. -/
theorem halting_of_strayReturn :
    strayReturn.machine.Reachable ∧ strayReturn.cycle.1 = .halted ∧
      (∀ now, strayReturn.machine.Accepts now →
        ¬∃ next, strayReturn.machine.step now = .ok next) ∧
      ∀ count, (strayReturn.cycle.2.afterCycles count).machine = strayReturn.machine ∧
        (strayReturn.cycle.2.afterCycles count).fault? = some (.stackUnderflow 0x204) := by
  have reached : strayReturn.machine.Reachable := by
    simp only [strayReturn, start]
    exact Machine.reachable_fresh _
  have stopped : strayReturn.cycle.1 = .halted := by decide +kernel
  have whole : strayReturn.cycle = (.halted, strayReturn.cycle.2) := by rw [← stopped]
  have reported : (strayReturn.cycle.2.afterCycles 0).fault? = some (.stackUnderflow 0x204) := by
    decide +kernel
  obtain ⟨everywhere, forever⟩ := halting_exact_and_final reached
  obtain ⟨fault, stuck, stays⟩ := forever strayReturn.cycle.2 whole
  have same : fault = .stackUnderflow 0x204 :=
    Option.some.inj ((stays 0).2.1.symm.trans reported)
  rw [same] at stays
  refine ⟨reached, stopped, fun now accepted goes => ?_, fun count => ?_⟩
  · exact (everywhere now accepted).2.mp goes fault stuck
  · exact ⟨(stays count).1, (stays count).2.1⟩

end Session

end Chip8
