import Chip8.Proofs.Course

/-!
This file proves that a program learns the time from its delay timer only.
-/

namespace Chip8.Machine

variable {machine other next : Machine} {first second readings : List Reading}

/-- A run meets one instruction at each step, and the last one may fail. -/
def instructions (machine : Machine) : List Reading → List Instruction
  | [] => []
  | now :: later =>
      (Instruction.decode? machine.peek).toList ++
        match machine.step now with
        | .ok next => next.instructions later
        | .error _ => []

theorem instructions_of_ok {now : Reading} (stepped : machine.step now = .ok next)
    (later : List Reading) :
    machine.instructions (now :: later) =
      (Instruction.decode? machine.peek).toList ++ next.instructions later := by
  simp only [instructions, stepped]

theorem instructions_of_error {now : Reading} {error : Error}
    (failed : machine.step now = .error error) (later : List Reading) :
    machine.instructions (now :: later) = (Instruction.decode? machine.peek).toList := by
  simp only [instructions, failed, List.append_nil]

theorem AcceptsAll.take (accepted : machine.AcceptsAll readings) (count : Nat) :
    machine.AcceptsAll (readings.take count) := by
  induction readings generalizing machine count with
  | nil =>
      rw [List.take_nil]
      trivial
  | cons now later ih =>
      cases count with
      | zero => trivial
      | succ count =>
          obtain ⟨acceptable, rest⟩ := accepted
          refine ⟨acceptable, ?_⟩
          cases stepped : machine.step now with
          | ok next =>
              rw [stepped] at rest
              exact ih rest count
          | error error => trivial

/-- The timers are all that the clocks of two machines can set apart. -/
theorem step_congr_time {now now' : Reading} (same : machine.under .time = other.under .time)
    (accepted : machine.Accepts now) (accepted' : other.Accepts now')
    (blind : ∀ x, Instruction.decode? machine.peek ≠ some (.getDelayTimer x)) :
    (machine.step now).map (under · .time) = (other.step now').map (under · .time) := by
  obtain ⟨timers, updated⟩ := accepts_iff.mp accepted
  obtain ⟨timers', updated'⟩ := accepts_iff.mp accepted'
  refine step_congr_under same updated updated' (.inl rfl) ?_
  rintro instruction decoded _ x rfl
  exact blind x decoded

/-- Runs whose machines differ in the timers only meet the same instructions until one of them
reads the delay timer. -/
theorem steps_congr_time (same : machine.under .time = other.under .time)
    (length : first.length = second.length) (accepted : machine.AcceptsAll first)
    (accepted' : other.AcceptsAll second)
    (blind : ∀ x, .getDelayTimer x ∉ machine.instructions first) :
    machine.instructions first = other.instructions second ∧
      (machine.steps first).map (under · .time) = (other.steps second).map (under · .time) := by
  induction first generalizing machine other second with
  | nil =>
      cases List.length_eq_zero_iff.mp length.symm
      exact ⟨rfl, congrArg Except.ok same⟩
  | cons now later ih =>
      cases second with
      | nil => cases length
      | cons now' later' =>
          obtain ⟨acceptable, rest⟩ := accepted
          obtain ⟨acceptable', rest'⟩ := accepted'
          have here (x : Int) : Instruction.decode? machine.peek ≠ some (.getDelayTimer x) := by
            intro decoded
            apply blind x
            rw [instructions, decoded]
            exact List.mem_cons_self
          have alike := step_congr_time same acceptable acceptable' here
          cases stepped : machine.step now with
          | ok next =>
              obtain ⟨next', stepped', same'⟩ := ok_of_map_eq alike stepped
              rw [instructions_of_ok stepped] at blind ⊢
              rw [instructions_of_ok stepped', steps, steps, stepped, stepped', peek_congr same]
              rw [stepped] at rest
              rw [stepped'] at rest'
              have unread (x : Int) : .getDelayTimer x ∉ next.instructions later :=
                fun inside => blind x (List.mem_append_right _ inside)
              obtain ⟨met, ends⟩ := ih same' (Nat.succ.inj length) rest rest' unread
              exact ⟨congrArg _ met, ends⟩
          | error error =>
              have failed := error_of_map_eq alike stepped
              rw [instructions_of_error stepped, instructions_of_error failed, steps, steps,
                stepped, failed, peek_congr same]
              exact ⟨rfl, rfl⟩

/-- Behind the veil there is nothing but the timers. -/
theorem eq_of_under_time (same : machine.under .time = other.under .time) :
    other = { machine with timers := other.timers } := by
  have restored (machine : Machine) (timers : Timers Reading) :
      { machine with timers := timers } = { machine.under .time with timers := timers } := rfl
  rw [restored machine, same]
  rfl

/-- As long as a run does not read its delay timer, a run from the same machine under another clock
meets the same instructions and the same error, and only the timers tell their machines apart. -/
theorem time_enters_through_delay_timer (length : first.length = second.length)
    (accepted : machine.AcceptsAll first) (accepted' : machine.AcceptsAll second) (count : Nat)
    (blind : ∀ x, .getDelayTimer x ∉ machine.instructions (first.take count)) :
    machine.instructions (first.take count) = machine.instructions (second.take count) ∧
      (∀ next, machine.steps (first.take count) = .ok next →
        ∃ timers, machine.steps (second.take count) = .ok { next with timers := timers }) ∧
      ∀ error, machine.steps (first.take count) = .error error →
        machine.steps (second.take count) = .error error := by
  have shorter : (first.take count).length = (second.take count).length := by
    rw [List.length_take, List.length_take, length]
  obtain ⟨met, alike⟩ :=
    steps_congr_time rfl shorter (accepted.take count) (accepted'.take count) blind
  refine ⟨met, fun next ran => ?_, fun error failed => error_of_map_eq alike failed⟩
  obtain ⟨next', ran', same⟩ := ok_of_map_eq alike ran
  refine ⟨next'.timers, ?_⟩
  rw [ran', ← eq_of_under_time same]

/-- This program starts both timers, draws a digit and returns from nowhere. -/
def startTimers : Machine :=
  fresh.obeyAll [.load (.bytes [0x60, 0x05, 0xF0, 0x15, 0xF0, 0x18, 0xD0, 0x05, 0x00, 0xEE])]

/-- The clock stands still. -/
def stillClock : List Reading := List.replicate 5 .zero

/-- The clock goes on by a second at each step. -/
def goingClock : List Reading :=
  [.zero, ⟨0x3FF0000000000000⟩, ⟨0x4000000000000000⟩, ⟨0x4008000000000000⟩, ⟨0x4010000000000000⟩]

/-- After four steps only the timers differ, and the fifth step fails alike. -/
theorem time_of_startTimers :
    startTimers.AcceptsAll stillClock ∧ startTimers.AcceptsAll goingClock ∧
      (∃ next timers, startTimers.steps (stillClock.take 4) = .ok next ∧
        startTimers.steps (goingClock.take 4) = .ok { next with timers := timers } ∧
          next.timers.delay = 5 ∧ timers.delay = 0) ∧
      ∃ error, startTimers.steps (stillClock.take 5) = .error error ∧
        startTimers.steps (goingClock.take 5) = .error error := by
  have accepted : startTimers.AcceptsAll stillClock ∧ startTimers.AcceptsAll goingClock := by
    decide +kernel
  have length : stillClock.length = goingClock.length := rfl
  have met (count : Nat) (few : count = 4 ∨ count = 5) (x : Int) :
      .getDelayTimer x ∉ startTimers.instructions (stillClock.take count) := by
    have whole : startTimers.instructions (stillClock.take 4) =
          [.setImmediate 0 5, .setDelayTimer 0, .setSoundTimer 0, .draw 0 0 5] ∧
        startTimers.instructions (stillClock.take 5) =
          [.setImmediate 0 5, .setDelayTimer 0, .setSoundTimer 0, .draw 0 0 5,
            .returnFromCall] := by
      decide +kernel
    rcases few with rfl | rfl
    · simp [whole.1]
    · simp [whole.2]
  have delays : (startTimers.steps (stillClock.take 4)).toOption.map (·.timers.delay) = some 5 ∧
      (startTimers.steps (goingClock.take 4)).toOption.map (·.timers.delay) = some 0 := by
    decide +kernel
  have fails : (startTimers.steps (stillClock.take 5)).toOption.isNone := by decide +kernel
  obtain ⟨_, goes, _⟩ :=
    time_enters_through_delay_timer length accepted.1 accepted.2 4 (met 4 (.inl rfl))
  obtain ⟨_, _, stops⟩ :=
    time_enters_through_delay_timer length accepted.1 accepted.2 5 (met 5 (.inr rfl))
  refine ⟨accepted.1, accepted.2, ?_, ?_⟩
  · cases ran : startTimers.steps (stillClock.take 4) with
    | ok next =>
        obtain ⟨timers, ran'⟩ := goes next ran
        rw [ran, ran'] at delays
        exact ⟨next, timers, rfl, ran', Option.some.inj delays.1, Option.some.inj delays.2⟩
    | error error =>
        rw [ran] at delays
        cases delays.1
  · cases ran : startTimers.steps (stillClock.take 5) with
    | ok next =>
        rw [ran] at fails
        cases fails
    | error error => exact ⟨error, rfl, stops error ran⟩

end Chip8.Machine
