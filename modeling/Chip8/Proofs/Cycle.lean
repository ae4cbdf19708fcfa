import Chip8.Proofs.Reachable
import Chip8.Session

/-!
This file takes a cycle apart into the step of the machine and the report on it.
-/

namespace Chip8

namespace Logger

/-- Only instructions count. -/
theorem count_log (logger : Logger) (level : LogLevel) (message : String) :
    (logger.log level message).count = logger.count := by
  unfold log
  split
  · split
    · rfl
    · rfl
  · rfl

theorem count_logInstruction (logger : Logger) (pc opcode : Int) :
    (logger.logInstruction pc opcode).count = logger.count + 1 :=
  count_log _ _ _

theorem count_logSummary (logger : Logger) (elapsed : Float) :
    (logger.logSummary elapsed).count = logger.count :=
  count_log _ _ _

end Logger

/-- A cycle ends as its step does. -/
def Progress.after : Except Error Machine → Progress
  | .ok _ => .running
  | .error (.fault _) => .halted
  | .error error => .crashed error

theorem Progress.after_eq_halted_iff {stepped : Except Error Machine} :
    Progress.after stepped = .halted ↔ ∃ fault, stepped = .error (.fault fault) := by
  constructor
  · intro halts
    unfold Progress.after at halts
    split at halts
    · cases halts
    · exact ⟨_, rfl⟩
    · cases halts
  · rintro ⟨fault, rfl⟩
    rfl

namespace Session

variable {session : Session} {next : Machine} {fault : Fault}

/-- A fault of the program takes the place of the last one. -/
def faultAfter (fault? : Option Fault) : Except Error Machine → Option Fault
  | .error (.fault fault) => some fault
  | _ => fault?

/-- A cycle takes its step, and counts it in the log. -/
theorem cycle_eq (session : Session) :
    let stepped := session.machine.step session.clock.read.1
    ∃ logger, logger.count = session.logger.count + 1 ∧
      session.cycle = (.after stepped,
        ⟨session.machine.obey (.step session.clock.read.1), session.clock.read.2, logger,
          faultAfter session.fault? stepped⟩) := by
  rcases reading : session.clock.read with ⟨now, clock⟩
  have counted := session.logger.count_logInstruction session.machine.pc.toNat session.machine.peek
  cases stepped : session.machine.step now with
  | ok next =>
      refine ⟨_, counted, ?_⟩
      simp only [cycle, Machine.obey, Machine.perform, reading, stepped]
      rfl
  | error error =>
      cases error with
      | fault fault =>
          refine ⟨session.cycle.2.logger, ?_, ?_⟩
          · simp only [cycle, reading, stepped, halt, Logger.logMachine, Logger.logHalt,
              Logger.logError, Logger.count_log, counted]
          · simp only [cycle, Machine.obey, Machine.perform, reading, stepped, halt]
            rfl
      | _ =>
          refine ⟨_, counted, ?_⟩
          simp only [cycle, Machine.obey, Machine.perform, reading, stepped]
          rfl

theorem cycle_of_ok (stepped : session.machine.step session.clock.read.1 = .ok next) :
    ∃ logger, logger.count = session.logger.count + 1 ∧
      session.cycle = (.running, ⟨next, session.clock.read.2, logger, session.fault?⟩) := by
  obtain ⟨logger, counted, cycled⟩ := session.cycle_eq
  rw [stepped, Machine.obey_step_of_ok stepped] at cycled
  exact ⟨logger, counted, cycled⟩

theorem cycle_of_fault
    (failed : session.machine.step session.clock.read.1 = .error (.fault fault)) :
    ∃ logger, logger.count = session.logger.count + 1 ∧
      session.cycle = (.halted, ⟨session.machine, session.clock.read.2, logger, some fault⟩) := by
  obtain ⟨logger, counted, cycled⟩ := session.cycle_eq
  rw [failed, Machine.obey_step_of_error failed] at cycled
  exact ⟨logger, counted, cycled⟩

theorem halts_of_fault
    (failed : session.machine.step session.clock.read.1 = .error (.fault fault)) :
    session.cycle.1 = .halted ∧ session.cycle.2.machine = session.machine ∧
      session.cycle.2.fault? = some fault := by
  obtain ⟨_, _, cycled⟩ := cycle_of_fault failed
  rw [cycled]
  exact ⟨rfl, rfl, rfl⟩

/-- A reading that the timers refuse leaves the session with its machine and its last fault. -/
theorem cycle_of_refusal (refused : ¬session.machine.Accepts session.clock.read.1) :
    session.cycle.2.machine = session.machine ∧ session.cycle.2.fault? = session.fault? := by
  obtain ⟨logger, _, cycled⟩ := session.cycle_eq
  cases updated : session.machine.timers.update session.clock.read.1 with
  | ok timers => exact absurd (Machine.accepts_iff.mpr ⟨timers, updated⟩) refused
  | error cause =>
      have failed := Machine.step_of_refusal updated
      rw [failed, Machine.obey_step_of_error failed] at cycled
      rw [cycled]
      exact ⟨rfl, rfl⟩

theorem step_of_cycle_halted {halted : Session} (stopped : session.cycle = (.halted, halted)) :
    ∃ fault, session.machine.step session.clock.read.1 = .error (.fault fault) := by
  obtain ⟨_, _, cycled⟩ := session.cycle_eq
  exact Progress.after_eq_halted_iff.mp (Prod.mk.inj (cycled.symm.trans stopped)).1

end Session

end Chip8
