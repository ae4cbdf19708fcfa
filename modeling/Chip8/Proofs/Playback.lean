import Chip8.Frontend.Headless
import Chip8.Frontend.Terminal
import Chip8.Proofs.Course

/-!
This file proves that the terminal and the headless frontend run the plain machine.
-/

namespace Chip8

/-- Only a fault of the program ends the course before the readings are used up. -/
def Course.StopsByFault (course : Course) : Prop :=
  ∀ error, course.error? = some error → ∃ fault, error = .fault fault

/-- The failing step takes a cycle, too. -/
def Course.cycles (course : Course) : Nat :=
  course.machines.length + if course.error?.isSome then 1 else 0

theorem Course.cycles_push (course : Course) (machine : Machine) :
    (course.push machine).cycles = course.cycles + 1 :=
  Nat.add_right_comm _ _ _

/-- A playback shows the frames of a course, ends as it ends and counts its cycles. -/
structure Playback.Follows (playback : Playback) (course : Course) (start : Machine)
    (shown : List Display) (count : Nat) : Prop where
  frames : playback.frames = shown.reverse ++ course.frames
  ending : playback.ending = if course.error?.isSome then .halted else .running
  machine : playback.session.machine = course.last start
  fault : course.error? = playback.session.fault?.map .fault
  count : playback.session.logger.count = count + course.cycles

namespace Playback

variable {playback : Playback} {course : Course} {start next : Machine} {shown : List Display}
  {count : Nat}

theorem Follows.push (follows : playback.Follows course next.seen
    (next.consumeFrame.1.toList ++ shown) (count + 1)) :
    playback.Follows (course.push next) start shown count where
  frames := by
    rw [follows.frames, Course.frames_push, List.reverse_append, List.append_assoc]
    cases next.consumeFrame.1 with
    | none => rfl
    | some frame => rfl
  ending := follows.ending
  machine := follows.machine.trans (course.last_push next start).symm
  fault := follows.fault
  count := by
    rw [follows.count, Course.cycles_push]
    omega

/-- More lines in the log change nothing. -/
theorem Follows.relog (follows : playback.Follows course start shown count) {logger : Logger}
    (same : logger.count = playback.session.logger.count) :
    Follows { playback with session := { playback.session with logger := logger } }
      course start shown count :=
  ⟨follows.frames, follows.ending, follows.machine, follows.fault, same.trans follows.count⟩

end Playback

namespace Session

variable {session : Session} {next : Machine} {fault : Fault}

theorem turn_of_ok (stepped : session.machine.step session.clock.read.1 = .ok next) :
    ∃ logger, logger.count = session.logger.count + 1 ∧
      session.turn = (.running, next.consumeFrame.1,
        ⟨next.seen, session.clock.read.2, logger, session.fault?⟩) := by
  obtain ⟨logger, counted, cycled⟩ := cycle_of_ok stepped
  refine ⟨logger, counted, ?_⟩
  simp only [turn, cycled, ← next.consumeFrame_snd]

theorem turn_of_fault
    (failed : session.machine.step session.clock.read.1 = .error (.fault fault)) :
    ∃ logger, logger.count = session.logger.count + 1 ∧
      session.turn = (.halted, none,
        ⟨session.machine, session.clock.read.2, logger, some fault⟩) := by
  obtain ⟨logger, counted, cycled⟩ := cycle_of_fault failed
  refine ⟨logger, counted, ?_⟩
  simp only [turn, cycled]

/-- The turns of a session follow the course of its machine. -/
theorem turns_follow (session : Session) (quiet : session.fault? = none) (shown : List Display)
    (budget : Nat)
    (faults : (session.machine.course (session.clock.take budget)).StopsByFault) :
    (session.turns shown budget).Follows (session.machine.course (session.clock.take budget))
      session.machine shown session.logger.count := by
  -- Each turn uses up one reading of the clock, so the budget and the readings shrink together.
  induction budget generalizing session shown with
  | zero =>
      refine ⟨(List.append_nil _).symm, rfl, rfl, ?_, rfl⟩
      exact congrArg (Option.map Error.fault) quiet.symm
  | succ budget ih =>
      rw [Clock.take] at faults ⊢
      cases stepped : session.machine.step session.clock.read.1 with
      | ok next =>
          obtain ⟨logger, counted, turned⟩ := turn_of_ok stepped
          rw [Machine.course_of_ok stepped] at faults ⊢
          have later := ih ⟨next.seen, session.clock.read.2, logger, session.fault?⟩ quiet
            (next.consumeFrame.1.toList ++ shown) faults
          simp only [counted] at later
          simp only [turns, turned]
          exact later.push
      | error error =>
          rw [Machine.course_of_error stepped] at faults ⊢
          obtain ⟨fault, rfl⟩ := faults error rfl
          obtain ⟨logger, counted, turned⟩ := turn_of_fault stepped
          simp only [turns, turned]
          exact ⟨(List.append_nil _).symm, rfl, rfl, rfl, counted⟩

theorem play_follows (session : Session) (quiet : session.fault? = none) (budget : Nat)
    (faults : (session.machine.course (session.clock.take budget)).StopsByFault) :
    (session.play budget).Follows (session.machine.course (session.clock.take budget))
      session.machine [] session.logger.count := by
  have follows := turns_follow session.readWall.2 quiet [] budget faults
  simp only [play, timed]
  split
  · exact follows
  · exact follows.relog (Logger.count_logSummary _ _)

/-- The turns are the loop in a world that lists the frames. -/
theorem turns_eq_turnsIn (session : Session) (shown : List Display) (budget : Nat) :
    session.turns shown budget =
      let result := Id.run ((session.turnsIn (m := StateM (List Display))
        (fun session => pure session.turn) (fun frame => modify (frame :: ·)) budget).run shown)
      ⟨result.2.reverse, result.1.1, result.1.2⟩ := by
  induction budget generalizing session shown with
  | zero => rfl
  | succ budget ih =>
      rcases turned : session.turn with ⟨progress, frame?, next⟩
      cases progress with
      | running =>
          cases frame? with
          | none => simp [turns, turnsIn, turned, ih]
          | some frame => simp [turns, turnsIn, turned, ih]
      | halted | crashed error => simp [turns, turnsIn, turned]

end Session

namespace Terminal

/-- So many cycles are left to a loop that has counted some. -/
def left (limit? : Option Int) (steps : Int) (patience : Nat) : Nat :=
  match limit? with
  | some limit => min patience (limit - steps).toNat
  | none => patience

/-- The loop makes the turns that are left to it. -/
theorem loop_eq_turns (limit? : Option Int) (session : Session) (steps : Int)
    (shown : List Display) (patience : Nat) :
    loop limit? session steps shown patience =
      session.turns shown (left limit? steps patience) := by
  induction patience generalizing session steps shown with
  | zero =>
      have none_left : left limit? steps 0 = 0 := by
        cases limit? with
        | none => rfl
        | some limit => exact Nat.zero_min _
      rw [none_left]
      rfl
  | succ patience ih =>
      by_cases goes : limit?.all (fun limit => decide (steps < limit)) = true
      · have more : left limit? steps (patience + 1) = left limit? (steps + 1) patience + 1 := by
          cases limit? with
          | none => rfl
          | some limit =>
              simp only [Option.all_some, decide_eq_true_eq] at goes
              simp only [left]
              omega
        rw [loop, if_pos goes, more, Session.turns]
        rcases session.turn with ⟨progress, frame?, next⟩
        cases progress with
        | running => exact ih next (steps + 1) _
        | halted | crashed error => rfl
      · have done : left limit? steps (patience + 1) = 0 := by
          cases limit? with
          | none => exact absurd rfl goes
          | some limit =>
              simp only [Option.all_some, decide_eq_true_eq] at goes
              simp only [left]
              omega
        rw [loop, if_neg goes, done]
        rfl

/-- A run without a limit ends when the patience is used up. -/
def budget (limit? : Option Int) (patience : Nat) : Nat :=
  match limit? with
  | some limit => limit.toNat
  | none => patience

/-- The terminal plays the session, and a limit is its budget. -/
theorem run_eq_play (session : Session) (limit? : Option Int) (patience : Nat) :
    run session limit? patience = session.play (budget limit? patience) := by
  have all : left limit? 0 (max patience (limit?.getD 0).toNat) = budget limit? patience := by
    cases limit? with
    | none => exact Nat.max_zero patience
    | some limit =>
        simp only [left, budget, Option.getD_some, Int.sub_zero]
        exact Nat.min_eq_right (Nat.le_max_right _ _)
  simp only [run, Session.play, loop_eq_turns, all]

end Terminal

theorem Headless.report_follows {playback : Playback} {course : Course} {start : Machine}
    {shown : List Display} {count : Nat} (follows : playback.Follows course start shown count) :
    (report playback).Follows course start shown count := by
  unfold report
  split
  · exact follows
  · exact follows.relog (Logger.count_log _ _ _)

/-- Both frontends stop where the plain steps stop, with the same fault and the same count, and
show the display after each step that has changed it. -/
theorem frontends_run_machine {machine : Machine} {clock : Clock} {count : Nat}
    (reached : machine.Reachable) (accepted : machine.AcceptsAll (clock.take count))
    (style style' : LogStyle) (wall wall' : Clock) (patience : Nat) :
    let terminal := Terminal.run (.start machine clock (.create style wall)) (some count) patience
    let headless := Headless.run (.start machine clock (.create style' wall')) count
    let course := machine.course (clock.take count)
    let taken := course.machines.length
    ∃ final fault?, machine.StopsAfter (clock.take count) taken final fault? ∧
      (fault? = none ↔ taken = count) ∧
      (∀ playback ∈ [terminal, headless],
        playback.session.machine = (if taken = 0 then machine else final.seen) ∧
          playback.session.fault? = fault? ∧
          playback.session.logger.count = taken + (if fault?.isSome then 1 else 0) ∧
          playback.ending = if fault?.isSome then .halted else .running) ∧
      terminal.frames = (course.machines.filter (·.redraw)).map (·.display) ∧
      Terminal.output terminal = String.join (terminal.frames.map fun display =>
        "\x1b[1;1H" ++ display.text "*" " " ++ "\n") ∧
      headless.frames.length = terminal.frames.length ∧
      ∀ frame, terminal.frames.getLast? = some frame → frame = final.display := by
  intro terminal headless course taken
  obtain ⟨final, fault?, stops, outcome, last⟩ := Machine.course_stops reached accepted
  have faults : course.StopsByFault := by
    intro error failed
    obtain ⟨fault, _, same⟩ := Option.map_eq_some_iff.mp (outcome.symm.trans failed)
    exact ⟨fault, same.symm⟩
  have first : terminal.Follows course machine [] 0 := by
    have played : terminal = _ := Terminal.run_eq_play _ _ _
    rw [played]
    exact Session.play_follows (.start machine clock (.create style wall)) rfl count faults
  have second : headless.Follows course machine [] 0 :=
    Headless.report_follows
      (Session.play_follows (.start machine clock (.create style' wall')) rfl count faults)
  have report {playback : Playback} (follows : playback.Follows course machine [] 0) :
      playback.session.machine = (if taken = 0 then machine else final.seen) ∧
        playback.session.fault? = fault? ∧
        playback.session.logger.count = taken + (if fault?.isSome then 1 else 0) ∧
        playback.ending = if fault?.isSome then .halted else .running := by
    have fault : playback.session.fault? = fault? :=
      (Option.map_inj_right fun _ _ => Error.fault.inj).mp (follows.fault.symm.trans outcome)
    have failed : course.error?.isSome = fault?.isSome := by rw [outcome, Option.isSome_map]
    refine ⟨follows.machine.trans last, fault, ?_, ?_⟩
    · rw [follows.count, Course.cycles, failed, Nat.zero_add]
    · rw [follows.ending, failed]
  have frames : terminal.frames = course.frames := first.frames
  refine ⟨final, fault?, stops, ?_, ?_, frames, rfl, ?_, fun frame shown => ?_⟩
  · rw [stops.complete, Clock.length_take]
  · exact List.forall_mem_cons.mpr ⟨report first, List.forall_mem_singleton.mpr (report second)⟩
  · exact congrArg List.length (second.frames.trans first.frames.symm)
  · rw [frames] at shown
    rw [Machine.display_of_course shown, last]
    split
    · rename_i still
      have ends := stops.steps
      rw [still] at ends
      cases ends
      rfl
    · rfl

/-- This program draws a digit, jumps onwards and meets a word without meaning. -/
def drawAndFail : Machine :=
  Machine.fresh.obeyAll [.load (.bytes [0xD0, 0x05, 0x12, 0x04, 0xFF, 0xFF])]

/-- Both frontends show one frame and count three cycles, and the last one fails. -/
theorem frontends_run_drawAndFail :
    drawAndFail.Reachable ∧ drawAndFail.AcceptsAll (Clock.take ⟨[]⟩ 5) ∧
      let terminal :=
        Terminal.run (.start drawAndFail ⟨[]⟩ (.create {} ⟨[]⟩)) (some (5 : Nat)) 0
      let headless := Headless.run (.start drawAndFail ⟨[]⟩ (.create {} ⟨[]⟩)) (5 : Nat)
      (∀ playback ∈ [terminal, headless],
        playback.session.fault? = some (.invalidOpcode 0xFFFF) ∧
          playback.session.logger.count = 3) ∧
      terminal.frames.length = 1 ∧ headless.frames.length = 1 := by
  have reached : drawAndFail.Reachable := Machine.reachable_fresh _
  have accepted : drawAndFail.AcceptsAll (Clock.take ⟨[]⟩ 5) := by decide +kernel
  have two : (drawAndFail.course (Clock.take ⟨[]⟩ 5)).machines.length = 2 := by decide +kernel
  have one : (drawAndFail.course (Clock.take ⟨[]⟩ 5)).frames.length = 1 := by decide +kernel
  have failed : (drawAndFail.course (Clock.take ⟨[]⟩ 5)).error? =
      some (.fault (.invalidOpcode 0xFFFF)) := by decide +kernel
  have same : drawAndFail.seen = drawAndFail.seen := rfl
  have ends := (Machine.steps_of_course_error same failed).2
  obtain ⟨final, fault?, stops, complete, reports, frames, _, alike, _⟩ :=
    frontends_run_machine reached accepted {} {} ⟨[]⟩ ⟨[]⟩ 0
  have shown := (congrArg List.length frames).trans one
  refine ⟨reached, accepted, fun playback inside => ?_, shown, alike.trans shown⟩
  obtain ⟨_, fault, counted, _⟩ := reports playback inside
  rw [two] at complete counted
  cases fault? with
  | none => exact absurd (complete.mp rfl) (by decide)
  | some met =>
      have same := Except.error.inj ((stops.fails met rfl).symm.trans ends)
      rw [Error.fault.inj same] at fault
      exact ⟨fault, counted⟩

end Chip8
