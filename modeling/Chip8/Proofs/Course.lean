import Chip8.Proofs.Frames
import Chip8.Proofs.Halting
import Chip8.Proofs.Veil

/-!
This file proves that looking at the display between the steps does not change where they lead.
-/

namespace Chip8

/-- These are the coming readings of a clock. -/
def Clock.take (clock : Clock) : Nat → List Reading
  | 0 => []
  | count + 1 => clock.read.1 :: clock.read.2.take count

theorem Clock.length_take (clock : Clock) (count : Nat) : (clock.take count).length = count := by
  induction count generalizing clock with
  | zero => rfl
  | succ count ih => exact congrArg Nat.succ (ih clock.read.2)

/-- The clock has given a number of readings. -/
def Clock.drop (clock : Clock) : Nat → Clock
  | 0 => clock
  | count + 1 => clock.read.2.drop count

theorem Clock.take_add (clock : Clock) (first second : Nat) :
    clock.take (first + second) = clock.take first ++ (clock.drop first).take second := by
  induction first generalizing clock with
  | zero =>
      rw [Nat.zero_add]
      rfl
  | succ first ih =>
      rw [Nat.succ_add]
      exact congrArg (clock.read.1 :: ·) (ih clock.read.2)

namespace Machine

variable {machine other next : Machine} {now : Reading} {readings : List Reading} {error : Error}
  {shown : Display}

/-- The display has been looked at. -/
def seen (machine : Machine) : Machine := { machine with redraw := false }

theorem consumeFrame_snd (machine : Machine) : machine.consumeFrame.2 = machine.seen := by
  unfold consumeFrame
  split
  · rfl
  · rename_i lowered
    have flag : machine.redraw = false := Bool.eq_false_iff.mpr lowered
    rw [seen, ← flag]

theorem isSome_consumeFrame (machine : Machine) :
    machine.consumeFrame.1.isSome = machine.redraw := by
  unfold consumeFrame
  split
  · rename_i raised
    exact raised.symm
  · rename_i lowered
    exact (Bool.eq_false_iff.mpr lowered).symm

/-- Whether a frame waits makes no difference to the steps. -/
theorem step_congr (same : machine.seen = other.seen) (now : Reading) :
    (machine.step now).map seen = (other.step now).map seen := by
  have clocks : other.timers.update now = machine.timers.update now := by
    show other.seen.timers.update now = machine.seen.timers.update now
    rw [same]
  have hidden : machine.under .frame = other.under .frame := same
  cases updated : machine.timers.update now with
  | ok timers => exact step_congr_under hidden updated (clocks.trans updated) (.inr rfl) nofun
  | error cause => rw [step_of_refusal updated, step_of_refusal (clocks.trans updated)]

theorem step_ok_congr (same : machine.seen = other.seen) (stepped : machine.step now = .ok next) :
    ∃ next', other.step now = .ok next' ∧ next.seen = next'.seen :=
  ok_of_map_eq (step_congr same now) stepped

theorem step_error_congr (same : machine.seen = other.seen)
    (failed : machine.step now = .error error) : other.step now = .error error :=
  error_of_map_eq (step_congr same now) failed

/-- The timers accept each reading in turn, up to the first error. -/
def AcceptsAll (machine : Machine) : List Reading → Prop
  | [] => True
  | now :: later =>
      machine.Accepts now ∧
        match machine.step now with
        | .ok next => next.AcceptsAll later
        | .error _ => True

instance decidableAcceptsAll (machine : Machine) :
    (readings : List Reading) → Decidable (machine.AcceptsAll readings)
  | [] => .isTrue trivial
  | now :: later =>
      have : Decidable (match machine.step now with
          | .ok next => next.AcceptsAll later
          | .error _ => True) :=
        match machine.step now with
        | .ok next => decidableAcceptsAll next later
        | .error _ => .isTrue trivial
      inferInstanceAs (Decidable (_ ∧ _))

/-- With accepted readings only a fault of the program ends the steps. -/
theorem steps_error (reached : machine.Reachable) (accepted : machine.AcceptsAll readings)
    {count : Nat} (failed : machine.steps (readings.take count) = .error error) :
    ∃ fault, error = .fault fault := by
  induction readings generalizing machine count with
  | nil =>
      rw [List.take_nil] at failed
      cases failed
  | cons now later ih =>
      cases count with
      | zero => cases failed
      | succ count =>
          obtain ⟨first, rest⟩ := accepted
          rw [List.take_succ_cons, steps] at failed
          cases stepped : machine.step now with
          | ok next =>
              rw [stepped] at failed rest
              exact ih (reached.step stepped) rest failed
          | error cause =>
              rw [stepped] at failed
              cases failed
              obtain ⟨fault, _, same⟩ :=
                (step_eq_error_iff reached.coherent.stack first _).mp stepped
              exact ⟨fault, same⟩

end Machine

/-- A course lists the machine after each successful step, before the display is looked at. -/
structure Course where
  machines : List Machine
  error? : Option Error

namespace Course

def push (course : Course) (machine : Machine) : Course :=
  ⟨machine :: course.machines, course.error?⟩

/-- A frame is shown after each step that has changed the display. -/
def frames (course : Course) : List Display :=
  (course.machines.filter (·.redraw)).map (·.display)

/-- Without a step the machine stays as it was. -/
def last (course : Course) (start : Machine) : Machine :=
  (course.machines.map Machine.seen).getLastD start

theorem frames_push (course : Course) (machine : Machine) :
    (course.push machine).frames = machine.consumeFrame.1.toList ++ course.frames := by
  cases raised : machine.redraw with
  | true => simp [frames, push, Machine.consumeFrame, raised]
  | false => simp [frames, push, Machine.consumeFrame, raised]

theorem last_push (course : Course) (machine start : Machine) :
    (course.push machine).last start = course.last machine.seen :=
  List.getLastD_cons

theorem last_of_nil {course : Course} (still : course.machines = []) (start : Machine) :
    course.last start = start := by
  rw [last, still]
  rfl

/-- After a step the last look has lowered the flag. -/
theorem last_of_ne_nil {course : Course} (moved : course.machines ≠ []) (start : Machine) :
    (course.last start).seen = course.last start := by
  obtain still | ⟨earlier, final, same⟩ := course.machines.eq_nil_or_concat
  · exact absurd still moved
  · rw [last, same, List.concat_eq_append, List.map_append, List.map_singleton,
      List.getLastD_concat]
    rfl

end Course

namespace Machine

variable {machine other next : Machine} {now : Reading} {readings : List Reading} {error : Error}
  {shown : Display}

/-- The display is looked at after each step, and the first error ends the course. -/
def course (machine : Machine) : List Reading → Course
  | [] => ⟨[], none⟩
  | now :: later =>
      match machine.step now with
      | .ok next => (next.seen.course later).push next
      | .error error => ⟨[], some error⟩

theorem course_of_ok (stepped : machine.step now = .ok next) (later : List Reading) :
    machine.course (now :: later) = (next.seen.course later).push next := by
  simp only [course, stepped]

theorem course_of_error (failed : machine.step now = .error error) (later : List Reading) :
    machine.course (now :: later) = ⟨[], some error⟩ := by
  simp only [course, failed]

/-- The plain steps lead where the course leads. -/
theorem steps_of_course (same : machine.seen = other.seen) (readings : List Reading) :
    ∃ final, other.steps (readings.take (machine.course readings).machines.length) = .ok final ∧
      ((machine.course readings).last machine).seen = final.seen := by
  -- The two machines differ in the flag only, and after each look they differ in it again.
  induction readings generalizing machine other with
  | nil => exact ⟨other, rfl, same⟩
  | cons now later ih =>
      cases stepped : machine.step now with
      | ok next =>
          obtain ⟨next', taken, alike⟩ := step_ok_congr same stepped
          have seen : next.seen.seen = next'.seen := alike
          obtain ⟨final, reached, agrees⟩ := ih seen
          rw [course_of_ok stepped, Course.last_push]
          refine ⟨final, ?_, agrees⟩
          simp only [Course.push, List.length_cons, List.take_succ_cons, steps, taken]
          exact reached
      | error error =>
          rw [course_of_error stepped]
          exact ⟨other, rfl, same⟩

/-- The plain steps meet the error that ends the course. -/
theorem steps_of_course_error (same : machine.seen = other.seen)
    (failed : (machine.course readings).error? = some error) :
    (machine.course readings).machines.length < readings.length ∧
      other.steps (readings.take ((machine.course readings).machines.length + 1)) =
        .error error := by
  induction readings generalizing machine other with
  | nil => cases failed
  | cons now later ih =>
      cases stepped : machine.step now with
      | ok next =>
          obtain ⟨next', taken, alike⟩ := step_ok_congr same stepped
          have seen : next.seen.seen = next'.seen := alike
          rw [course_of_ok stepped] at failed ⊢
          obtain ⟨shorter, fails⟩ := ih seen failed
          refine ⟨Nat.succ_lt_succ shorter, ?_⟩
          simp only [Course.push, List.length_cons, List.take_succ_cons, steps, taken]
          exact fails
      | error cause =>
          rw [course_of_error stepped] at failed ⊢
          cases failed
          refine ⟨Nat.succ_pos _, ?_⟩
          simp only [List.length_nil, List.take_succ_cons, steps, step_error_congr same stepped]

/-- A course without an error uses up all readings. -/
theorem length_course (finished : (machine.course readings).error? = none) :
    (machine.course readings).machines.length = readings.length := by
  induction readings generalizing machine with
  | nil => rfl
  | cons now later ih =>
      cases stepped : machine.step now with
      | ok next =>
          rw [course_of_ok stepped] at finished ⊢
          exact congrArg Nat.succ (ih finished)
      | error error =>
          rw [course_of_error stepped] at finished
          cases finished

/-- The plain steps use up the readings, or stop before a step that meets a fault. -/
structure StopsAfter (machine : Machine) (readings : List Reading) (taken : Nat)
    (final : Machine) (fault? : Option Fault) : Prop where
  within : taken ≤ readings.length
  steps : machine.steps (readings.take taken) = .ok final
  complete : fault? = none ↔ taken = readings.length
  fails : ∀ fault, fault? = some fault →
    machine.steps (readings.take (taken + 1)) = .error (.fault fault)

/-- A course stops where the plain steps stop, and the last look has lowered the flag. -/
theorem course_stops (reached : machine.Reachable) (accepted : machine.AcceptsAll readings) :
    let course := machine.course readings
    let taken := course.machines.length
    ∃ final fault?, machine.StopsAfter readings taken final fault? ∧
      course.error? = fault?.map .fault ∧
      course.last machine = if taken = 0 then machine else final.seen := by
  intro course taken
  have same : machine.seen = machine.seen := rfl
  obtain ⟨final, ends, agrees⟩ := steps_of_course same readings
  have last : course.last machine = if taken = 0 then machine else final.seen := by
    by_cases still : course.machines = []
    · rw [Course.last_of_nil still, if_pos (List.length_eq_zero_iff.mpr still)]
    · rw [← Course.last_of_ne_nil still, if_neg (mt List.length_eq_zero_iff.mp still)]
      exact agrees
  cases outcome : course.error? with
  | none =>
      have all : taken = readings.length := length_course outcome
      have stops : machine.StopsAfter readings taken final none :=
        ⟨Nat.le_of_eq all, ends, ⟨fun _ => all, fun _ => rfl⟩, fun _ absent => nomatch absent⟩
      exact ⟨final, none, stops, rfl, last⟩
  | some error =>
      obtain ⟨shorter, fails⟩ := steps_of_course_error same outcome
      obtain ⟨fault, rfl⟩ := steps_error reached accepted fails
      have stops : machine.StopsAfter readings taken final (some fault) := by
        refine ⟨Nat.le_of_lt shorter, ends, ⟨nofun, fun all => ?_⟩, fun other met => ?_⟩
        · exact absurd all (Nat.ne_of_lt shorter)
        · cases met
          exact fails
      exact ⟨final, some fault, stops, rfl, last⟩

namespace StopsAfter

variable {later : List Reading} {taken : Nat} {final : Machine} {fault? : Option Fault}

theorem nil_iff :
    machine.StopsAfter [] taken final fault? ↔ taken = 0 ∧ final = machine ∧ fault? = none := by
  constructor
  · rintro ⟨within, ended, complete, _⟩
    obtain rfl : taken = 0 := Nat.le_zero.mp within
    exact ⟨rfl, (Except.ok.inj ended).symm, complete.mpr rfl⟩
  · rintro ⟨rfl, rfl, rfl⟩
    exact ⟨Nat.le_refl _, rfl, ⟨fun _ => rfl, fun _ => rfl⟩, nofun⟩

theorem cons_iff_of_ok (stepped : machine.step now = .ok next) :
    machine.StopsAfter (now :: later) taken final fault? ↔
      ∃ rest, taken = rest + 1 ∧ next.StopsAfter later rest final fault? := by
  have onwards (count : Nat) :
      machine.steps ((now :: later).take (count + 1)) = next.steps (later.take count) := by
    simp only [List.take_succ_cons, Machine.steps, stepped]
  constructor
  · rintro ⟨within, ended, complete, fails⟩
    cases taken with
    | zero =>
        -- Without a step there would be a fault, and it would be a fault of the first step.
        have stopped : fault? ≠ none := mt complete.mp (Nat.succ_ne_zero _).symm
        obtain ⟨fault, met⟩ := Option.ne_none_iff_exists'.mp stopped
        have failed := (onwards 0).symm.trans (fails fault met)
        cases failed
    | succ rest =>
        refine ⟨rest, rfl, Nat.le_of_succ_le_succ within, (onwards rest).symm.trans ended,
          complete.trans Nat.succ_inj, fun fault met => ?_⟩
        exact (onwards (rest + 1)).symm.trans (fails fault met)
  · rintro ⟨rest, rfl, within, ended, complete, fails⟩
    exact ⟨Nat.succ_le_succ within, (onwards rest).trans ended, complete.trans Nat.succ_inj.symm,
      fun fault met => (onwards (rest + 1)).trans (fails fault met)⟩

theorem cons_iff_of_error (failed : machine.step now = .error error) :
    machine.StopsAfter (now :: later) taken final fault? ↔
      taken = 0 ∧ final = machine ∧ ∃ fault, fault? = some fault ∧ error = .fault fault := by
  have fails (count : Nat) : machine.steps ((now :: later).take (count + 1)) = .error error := by
    simp only [List.take_succ_cons, Machine.steps, failed]
  constructor
  · rintro ⟨_, ended, complete, stops⟩
    cases taken with
    | zero =>
        have stopped : fault? ≠ none := mt complete.mp (Nat.succ_ne_zero _).symm
        obtain ⟨fault, met⟩ := Option.ne_none_iff_exists'.mp stopped
        exact ⟨rfl, (Except.ok.inj ended).symm, fault, met,
          Except.error.inj ((fails 0).symm.trans (stops fault met))⟩
    | succ rest =>
        have succeeded := (fails rest).symm.trans ended
        cases succeeded
  · rintro ⟨rfl, rfl, fault, rfl, rfl⟩
    have early : some fault = none ↔ 0 = (now :: later).length :=
      iff_of_false (Option.some_ne_none fault) (Nat.succ_ne_zero _).symm
    refine ⟨Nat.zero_le _, rfl, early, fun other met => ?_⟩
    rw [fails, Option.some.inj met]

/-- Steps over two lists of readings stop within the first, or run through it into the second. -/
theorem append (stops : machine.StopsAfter (readings ++ later) taken final fault?) :
    (∃ fault, fault? = some fault ∧ machine.StopsAfter readings taken final fault?) ∨
      ∃ middle rest, machine.StopsAfter readings readings.length middle none ∧
        middle.StopsAfter later rest final fault? ∧ taken = readings.length + rest := by
  induction readings generalizing machine taken with
  | nil => exact .inr ⟨machine, taken, nil_iff.mpr ⟨rfl, rfl, rfl⟩, stops, (Nat.zero_add _).symm⟩
  | cons now earlier ih =>
      rw [List.cons_append] at stops
      cases stepped : machine.step now with
      | ok next =>
          obtain ⟨count, rfl, onwards⟩ := (cons_iff_of_ok stepped).mp stops
          rcases ih onwards with ⟨fault, met, within⟩ | ⟨middle, rest, through, further, rfl⟩
          · exact .inl ⟨fault, met, (cons_iff_of_ok stepped).mpr ⟨count, rfl, within⟩⟩
          · exact .inr ⟨middle, rest, (cons_iff_of_ok stepped).mpr ⟨_, rfl, through⟩, further,
              Nat.add_right_comm _ _ _⟩
      | error error =>
          obtain ⟨none, same, fault, met, cause⟩ := (cons_iff_of_error stepped).mp stops
          exact .inl ⟨fault, met, (cons_iff_of_error stepped).mpr ⟨none, same, fault, met, cause⟩⟩

/-- The steps stop at one place only. -/
theorem unique {taken' : Nat} {final' : Machine} {fault?' : Option Fault}
    (stops : machine.StopsAfter readings taken final fault?)
    (stops' : machine.StopsAfter readings taken' final' fault?') :
    taken = taken' ∧ final = final' ∧ fault? = fault?' := by
  induction readings generalizing machine taken taken' with
  | nil =>
      obtain ⟨rfl, rfl, rfl⟩ := nil_iff.mp stops
      obtain ⟨rfl, rfl, rfl⟩ := nil_iff.mp stops'
      exact ⟨rfl, rfl, rfl⟩
  | cons now later ih =>
      cases stepped : machine.step now with
      | ok next =>
          obtain ⟨rest, rfl, onwards⟩ := (cons_iff_of_ok stepped).mp stops
          obtain ⟨rest', rfl, onwards'⟩ := (cons_iff_of_ok stepped).mp stops'
          obtain ⟨rfl, same⟩ := ih onwards onwards'
          exact ⟨rfl, same⟩
      | error error =>
          obtain ⟨rfl, rfl, fault, rfl, rfl⟩ := (cons_iff_of_error stepped).mp stops
          obtain ⟨rfl, rfl, fault', rfl, same⟩ := (cons_iff_of_error stepped).mp stops'
          exact ⟨rfl, rfl, congrArg some (Error.fault.inj same)⟩

end StopsAfter

/-- A step that touches the display asks for a new frame. -/
theorem display_of_step (stepped : machine.step now = .ok next) :
    next.redraw = true ∨ next.redraw = machine.redraw ∧ next.display = machine.display := by
  obtain ⟨timers, instruction, _, _, applied⟩ := step_eq_ok_iff.mp stepped
  exact (apply_change applied).display

/-- No step lowers the flag. -/
theorem redraw_of_step (raised : machine.redraw = true) (stepped : machine.step now = .ok next) :
    next.redraw = true :=
  (display_of_step stepped).elim id fun kept => kept.1.trans raised

/-- A flag that is raised on the way is still raised at the end. -/
theorem StopsAfter.redraw {taken earlier : Nat} {final : Machine} {fault? : Option Fault}
    (stops : machine.StopsAfter readings taken final fault?) (before : earlier ≤ taken)
    (passed : machine.steps (readings.take earlier) = .ok next) (raised : next.redraw = true) :
    final.redraw = true := by
  have ended := stops.steps
  rw [← List.take_append_drop earlier (readings.take taken), List.take_take,
    Nat.min_eq_left before, steps_append, passed] at ended
  exact steps_preserve redraw_of_step raised ended

theorem UpToDate.step (current : machine.UpToDate shown) (stepped : machine.step now = .ok next) :
    next.UpToDate shown := by
  obtain ⟨timers, instruction, _, _, applied⟩ := step_eq_ok_iff.mp stepped
  have ready : (machine.ready timers).UpToDate shown := current
  exact ready.change (apply_change applied)

/-- The last frame of a course shows the display at its end. -/
theorem UpToDate.course (current : machine.UpToDate shown) (readings : List Reading) :
    ((machine.course readings).last machine).UpToDate
      ((machine.course readings).frames.getLastD shown) := by
  induction readings generalizing machine shown with
  | nil => exact current
  | cons now later ih =>
      cases stepped : machine.step now with
      | ok next =>
          have looked := consumeFrame_upToDate (current.step stepped)
          rw [consumeFrame_snd] at looked
          rw [course_of_ok stepped, Course.last_push, Course.frames_push, getLastD_frame]
          exact ih looked
      | error error =>
          rw [course_of_error stepped]
          exact current

theorem display_of_course {frame : Display}
    (last : (machine.course readings).frames.getLast? = some frame) :
    frame = ((machine.course readings).last machine).display := by
  have moved : (machine.course readings).machines ≠ [] := by
    intro still
    simp only [Course.frames, still] at last
    cases last
  have settled : ((machine.course readings).last machine).redraw = false := by
    rw [← Course.last_of_ne_nil moved]
    rfl
  have current : machine.UpToDate machine.display := fun _ => rfl
  rw [current.course readings settled, List.getLastD_eq_getLast?, last, Option.getD_some]

end Machine

end Chip8
