import Chip8.Program
import Chip8.Proofs.Playback

/-!
This file proves that the log of a run has no influence on the run.
-/

namespace Chip8

namespace Logger

variable {logger : Logger} {level : LogLevel}

/-- The mark of a line stands between its timestamp and its message. -/
def mark (logger : Logger) (level : LogLevel) : String :=
  tag logger.style level ++ "[" ++ logger.style.name ++ "] "

theorem written_write (logger : Logger) (stamp : String) (level : LogLevel) (message : String) :
    (logger.write stamp level message).written =
      logger.written ++ (stamp ++ logger.mark level ++ message ++ "\n") := by
  simp only [write, mark, String.append_assoc]

/-- A line that is written has the whole message. -/
theorem written_log (writes : logger.enabled level = true) (message : String) :
    ∃ stamp, (logger.log level message).written =
      logger.written ++ (stamp ++ logger.mark level ++ message ++ "\n") := by
  simp only [log, writes, if_true]
  split
  · exact ⟨_, logger.readWall.2.written_write _ level message⟩
  · exact ⟨_, logger.written_write "" level message⟩

end Logger

/-- Two results are alike when they have one progress and agree in the rest. -/
def Progress.Alike {State : Type} (agree : State → State → Prop) (first second : Progress × State) :
    Prop :=
  ∃ progress next next', first = (progress, next) ∧ second = (progress, next') ∧ agree next next'

namespace Session

variable {session other : Session}

/-- Two sessions stand at the same place of the same run. -/
structure Agrees (session other : Session) : Prop where
  machine : session.machine = other.machine
  clock : session.clock = other.clock
  fault : session.fault? = other.fault?
  count : session.logger.count = other.logger.count

theorem Agrees.symm (agrees : session.Agrees other) : other.Agrees session :=
  ⟨agrees.machine.symm, agrees.clock.symm, agrees.fault.symm, agrees.count.symm⟩

theorem Agrees.trans {third : Session} (agrees : session.Agrees other)
    (further : other.Agrees third) : session.Agrees third :=
  ⟨agrees.machine.trans further.machine, agrees.clock.trans further.clock,
    agrees.fault.trans further.fault, agrees.count.trans further.count⟩

/-- Lines of the log are not counted. -/
theorem agrees_relog (session : Session) {logger : Logger}
    (same : logger.count = session.logger.count) :
    Agrees { session with logger := logger } session :=
  ⟨rfl, rfl, rfl, same⟩

theorem agrees_start (machine : Machine) (clock : Clock) (style style' : LogStyle)
    (wall wall' : Clock) :
    (start machine clock (.create style wall)).Agrees
      (start machine clock (.create style' wall')) :=
  ⟨rfl, rfl, rfl, rfl⟩

theorem Agrees.readWall (agrees : session.Agrees other) :
    session.readWall.2.Agrees other.readWall.2 :=
  ⟨agrees.machine, agrees.clock, agrees.fault, agrees.count⟩

theorem agrees_summarize (session : Session) (start : Float) :
    (session.summarize start).Agrees session :=
  session.agrees_relog (Logger.count_logSummary _ _)

theorem Agrees.summarize (agrees : session.Agrees other) (start start' : Float) :
    (session.summarize start).Agrees (other.summarize start') :=
  (session.agrees_summarize start).trans (agrees.trans (other.agrees_summarize start').symm)

theorem Agrees.cycle (agrees : session.Agrees other) :
    Progress.Alike Agrees session.cycle other.cycle := by
  obtain ⟨logger, counted, cycled⟩ := session.cycle_eq
  obtain ⟨logger', counted', cycled'⟩ := other.cycle_eq
  rw [agrees.machine, agrees.clock, agrees.fault] at cycled
  have count : logger.count = logger'.count := by rw [counted, counted', agrees.count]
  exact ⟨_, _, _, cycled, cycled', rfl, rfl, rfl, count⟩

theorem Agrees.afterCycles (agrees : session.Agrees other) (count : Nat) :
    (session.afterCycles count).Agrees (other.afterCycles count) := by
  induction count with
  | zero => exact agrees
  | succ count ih =>
      obtain ⟨progress, next, next', cycled, cycled', alike⟩ := ih.cycle
      rw [Session.afterCycles, Session.afterCycles, cycled, cycled']
      exact alike

theorem Agrees.turn (agrees : session.Agrees other) :
    ∃ progress frame? next next', session.turn = (progress, frame?, next) ∧
      other.turn = (progress, frame?, next') ∧ next.Agrees next' := by
  obtain ⟨progress, next, next', cycled, cycled', alike⟩ := agrees.cycle
  simp only [Session.turn, cycled, cycled']
  cases progress with
  | running =>
      dsimp only
      rw [alike.machine]
      exact ⟨_, _, _, _, rfl, rfl, rfl, alike.clock, alike.fault, alike.count⟩
  | halted | crashed error => exact ⟨_, _, _, _, rfl, rfl, alike⟩

end Session

/-- Two playbacks show the same frames and end alike. -/
structure Playback.Agrees (playback other : Playback) : Prop where
  frames : playback.frames = other.frames
  ending : playback.ending = other.ending
  session : playback.session.Agrees other.session

theorem Session.Agrees.turns {session other : Session} (agrees : session.Agrees other)
    (shown : List Display) (budget : Nat) :
    (session.turns shown budget).Agrees (other.turns shown budget) := by
  -- The induction follows the budget, and what a turn keeps is that the sessions agree.
  induction budget generalizing session other shown with
  | zero => exact ⟨rfl, rfl, agrees⟩
  | succ budget ih =>
      obtain ⟨progress, frame?, next, next', turned, turned', alike⟩ := agrees.turn
      simp only [Session.turns, turned, turned']
      cases progress with
      | running => exact ih alike _
      | halted | crashed error => exact ⟨rfl, rfl, alike⟩

theorem Session.Agrees.play {session other : Session} (agrees : session.Agrees other)
    (budget : Nat) : (session.play budget).Agrees (other.play budget) := by
  obtain ⟨frames, ending, alike⟩ := agrees.readWall.turns [] budget
  simp only [Session.play, Session.timed]
  rw [ending]
  split
  · exact ⟨frames, ending, alike⟩
  · exact ⟨frames, rfl, alike.summarize _ _⟩

theorem Session.Agrees.terminal {session other : Session} (agrees : session.Agrees other)
    (limit? : Option Int) (patience : Nat) :
    (Terminal.run session limit? patience).Agrees (Terminal.run other limit? patience) := by
  rw [Terminal.run_eq_play, Terminal.run_eq_play]
  exact agrees.play _

theorem Playback.Agrees.report {playback other : Playback} (agrees : playback.Agrees other) :
    (Headless.report playback).Agrees (Headless.report other) := by
  have relogged (playback : Playback) : (Headless.report playback).Agrees playback := by
    unfold Headless.report
    split
    · exact ⟨rfl, rfl, rfl, rfl, rfl, rfl⟩
    · exact ⟨rfl, rfl, playback.session.agrees_relog (Logger.count_log _ _ _)⟩
  have first := relogged playback
  have second := relogged other
  exact ⟨first.frames.trans (agrees.frames.trans second.frames.symm),
    first.ending.trans (agrees.ending.trans second.ending.symm),
    first.session.trans (agrees.session.trans second.session.symm)⟩

namespace Window

variable {window other : Window}

/-- Two windows show the same acts on the same surface and hold the same switches. -/
structure Agrees (window other : Window) : Prop where
  session : window.session.Agrees other.session
  arrays : window.arrays = other.arrays
  style : window.style = other.style
  surface : window.surface = other.surface
  overlaid : window.overlaid = other.overlaid
  paused : window.paused = other.paused
  acts : window.acts = other.acts

/-- A muted window keeps the count of its log and nothing else of it, so windows agree when they
are the same once they are muted. -/
def muted (window : Window) : Window :=
  let logger : Logger := ⟨{}, 0, ⟨[]⟩, window.session.logger.count, ""⟩
  { window with session := { window.session with logger := logger } }

theorem agrees_iff : window.Agrees other ↔ window.muted = other.muted := by
  constructor
  · rintro ⟨⟨machine, clock, fault, count⟩, arrays, style, surface, overlaid, paused, acts⟩
    simp only [muted, machine, clock, fault, count, arrays, style, surface, overlaid, paused, acts]
  · intro same
    obtain ⟨session, arrays, style, surface, overlaid, paused, acts⟩ := Window.mk.inj same
    obtain ⟨machine, clock, logger, fault⟩ := Session.mk.inj session
    obtain ⟨_, _, _, count, _⟩ := Logger.mk.inj logger
    exact ⟨⟨machine, clock, fault, count⟩, arrays, style, surface, overlaid, paused, acts⟩

/-- What a muted window does the window itself does. -/
def Mutable (change : Window → Progress × Window) : Prop :=
  ∀ window : Window, change window.muted = Prod.map id muted (change window)

theorem Agrees.of_mutable {change : Window → Progress × Window} (mutable : Mutable change)
    (agrees : window.Agrees other) : Progress.Alike Agrees (change window) (change other) := by
  have same : Prod.map id muted (change window) = Prod.map id muted (change other) := by
    rw [← mutable window, agrees_iff.mp agrees, mutable other]
  obtain ⟨ends, alike⟩ := Prod.mk.inj same
  exact ⟨_, _, (change other).2, rfl, Prod.ext ends.symm rfl, agrees_iff.mpr alike⟩

@[simp]
theorem muted_machine (window : Window) :
    window.muted.session.machine = window.session.machine := rfl

@[simp]
theorem muted_arrays (window : Window) : window.muted.arrays = window.arrays := rfl

@[simp]
theorem muted_style (window : Window) : window.muted.style = window.style := rfl

@[simp]
theorem muted_surface (window : Window) : window.muted.surface = window.surface := rfl

@[simp]
theorem muted_overlaid (window : Window) : window.muted.overlaid = window.overlaid := rfl

@[simp]
theorem muted_size (window : Window) (scale : Int) :
    window.muted.size scale = window.size scale := rfl

theorem mutable_fit : Mutable fit := by
  intro window
  simp only [fit, muted_style, muted_size]
  cases window.style.scale with
  | none => rfl
  | some scale =>
      dsimp only
      split
      · rfl
      · rfl

theorem mutable_drawScaled (scale : Int) : Mutable (drawScaled · scale) := by
  intro window
  simp only [drawScaled, muted_machine, muted_arrays, muted_style, muted_surface, muted_overlaid]
  cases window.session.machine.display.image? window.arrays scale window.style.scheme.palette with
  | error error => rfl
  | ok image =>
      by_cases filled : window.surface = some (↑image.width, ↑image.height)
      · simp only [filled, if_true]
        rfl
      · simp only [filled, if_false]
        rfl

theorem mutable_draw : Mutable draw := by
  intro window
  simp only [draw, muted_style]
  cases window.style.scale with
  | none => rfl
  | some scale => exact mutable_drawScaled scale window

theorem mutable_refresh : Mutable refresh := by
  intro window
  -- Both windows ask for a picture on one condition, which only its spelling hides.
  let seen : Window :=
    { window with
      session := { window.session with machine := window.session.machine.consumeFrame.2 } }
  have plain : window.refresh =
      if window.session.machine.consumeFrame.1.isSome || window.overlaid then seen.draw
      else (.running, seen) := rfl
  have muted : window.muted.refresh =
      if window.session.machine.consumeFrame.1.isSome || window.overlaid then seen.muted.draw
      else (.running, seen.muted) := rfl
  rw [plain, muted]
  split
  · exact mutable_draw seen
  · rfl

theorem mutable_present (mode : Mode) : Mutable (present · mode) := by
  intro window
  simp only [present, muted_machine, mutable_fit window]
  split
  · exact mutable_refresh window
  · rcases window.fit with ⟨_ | _ | error, fitted⟩
    · exact mutable_refresh fitted
    · exact mutable_refresh fitted
    · rfl

theorem muted_setKey (window : Window) (key : PhysicalKey) (state : Bool) :
    window.muted.setKey key state = (window.setKey key state).muted := by
  unfold setKey
  split
  · rfl
  · rfl

theorem muted_handle (window : Window) (event : WindowEvent) :
    window.muted.handle event = (window.handle event).map muted := by
  unfold handle
  split
  · rfl
  · rfl
  · rfl
  · rfl
  · exact congrArg some (window.muted_setKey _ true)
  · exact congrArg some (window.muted_setKey _ false)
  · rfl

theorem muted_handleAll (window : Window) (events : List WindowEvent) :
    window.muted.handleAll events = Prod.map id muted (window.handleAll events) := by
  induction events generalizing window with
  | nil => rfl
  | cons event rest ih =>
      rw [handleAll, handleAll, muted_handle]
      cases window.handle event with
      | none => rfl
      | some next => exact ih next

theorem cycles_alike {session other : Session} (agrees : session.Agrees other) (count : Nat) :
    Progress.Alike Session.Agrees (cycles session count) (cycles other count) := by
  induction count generalizing session other with
  | zero => exact ⟨_, _, _, rfl, rfl, agrees⟩
  | succ count ih =>
      obtain ⟨progress, next, next', cycled, cycled', alike⟩ := agrees.cycle
      simp only [cycles, cycled, cycled']
      cases progress with
      | running => exact ih alike
      | halted | crashed error => exact ⟨_, _, _, rfl, rfl, alike⟩

theorem Agrees.frameCycles (agrees : window.Agrees other) :
    Progress.Alike Session.Agrees window.frameCycles other.frameCycles := by
  unfold Window.frameCycles
  rw [agrees.style]
  cases other.style.cyclesPerFrame with
  | none => exact ⟨_, _, _, rfl, rfl, agrees.session⟩
  | some count => exact cycles_alike agrees.session count.toNat

theorem Agrees.animate (agrees : window.Agrees other) :
    Progress.Alike Agrees window.animate other.animate := by
  obtain ⟨progress, session, session', cycled, cycled', alike⟩ := agrees.frameCycles
  have next : Agrees { window with session := session } { other with session := session' } :=
    ⟨alike, agrees.arrays, agrees.style, agrees.surface, agrees.overlaid, agrees.paused,
      agrees.acts⟩
  obtain ⟨ending, shown, shown', presented, presented', alike⟩ :=
    next.of_mutable (mutable_present other.session.machine.mode)
  simp only [Window.animate, agrees.session.machine, cycled, cycled', presented, presented']
  cases progress with
  | crashed error => exact ⟨_, _, _, rfl, rfl, next⟩
  | running | halted =>
      cases ending with
      | crashed error => exact ⟨_, _, _, rfl, rfl, alike⟩
      | running | halted => exact ⟨_, _, _, rfl, rfl, alike⟩

theorem Agrees.handleAll (agrees : window.Agrees other) (events : List WindowEvent) :
    (window.handleAll events).1 = (other.handleAll events).1 ∧
      (window.handleAll events).2.Agrees (other.handleAll events).2 := by
  have same : Prod.map id muted (window.handleAll events) =
      Prod.map id muted (other.handleAll events) := by
    rw [← muted_handleAll, agrees_iff.mp agrees, muted_handleAll]
  obtain ⟨isOpen, alike⟩ := Prod.mk.inj same
  exact ⟨isOpen, agrees_iff.mpr alike⟩

theorem Agrees.frame (agrees : window.Agrees other) (events : List WindowEvent) :
    Progress.Alike Agrees (window.frame events) (other.frame events) := by
  have ticked : (window.act (.tick window.style.rate)).Agrees
      (other.act (.tick other.style.rate)) :=
    ⟨agrees.session, agrees.arrays, agrees.style, agrees.surface, agrees.overlaid, agrees.paused,
      by rw [act, act, agrees.style, agrees.acts]⟩
  obtain ⟨isOpen, alike⟩ := ticked.handleAll events
  simp only [Window.frame, isOpen, alike.paused]
  split
  · exact ⟨_, _, _, rfl, rfl, alike⟩
  · split
    · exact ⟨_, _, _, rfl, rfl, alike⟩
    · exact alike.animate

theorem Agrees.frames (agrees : window.Agrees other) (batches : List (List WindowEvent)) :
    Progress.Alike Agrees (window.frames batches) (other.frames batches) := by
  induction batches generalizing window other with
  | nil => exact agrees.frame [.quit]
  | cons events rest ih =>
      obtain ⟨progress, next, next', framed, framed', alike⟩ := agrees.frame events
      simp only [Window.frames, framed, framed']
      cases progress with
      | running => exact ih alike
      | halted | crashed error => exact ⟨_, _, _, rfl, rfl, alike⟩

theorem Agrees.animateAll (agrees : window.Agrees other) (batches : List (List WindowEvent)) :
    Progress.Alike Agrees (window.animateAll batches) (other.animateAll batches) := by
  have read : Agrees { window with session := window.session.readWall.2 }
      { other with session := other.session.readWall.2 } :=
    ⟨agrees.session.readWall, agrees.arrays, agrees.style, agrees.surface, agrees.overlaid,
      agrees.paused, agrees.acts⟩
  obtain ⟨progress, final, final', framed, framed', alike⟩ := read.frames batches
  simp only [Window.animateAll, framed, framed']
  exact ⟨_, _, _, rfl, rfl, alike.session.summarize _ _, alike.arrays, alike.style, alike.surface,
    alike.overlaid, alike.paused, alike.acts⟩

theorem Agrees.run (agrees : window.Agrees other) (batches : List (List WindowEvent)) :
    Progress.Alike Agrees (window.run batches) (other.run batches) := by
  obtain ⟨progress, fitted, fitted', fits, fits', alike⟩ := agrees.of_mutable mutable_fit
  simp only [Window.run, fits, fits']
  cases progress with
  | crashed error => exact ⟨_, _, _, rfl, rfl, alike⟩
  | running | halted => exact alike.animateAll batches

end Window

theorem Playback.Agrees.output {playback other : Playback} (agrees : playback.Agrees other) :
    Terminal.output playback = Terminal.output other := by
  rw [Terminal.output, Terminal.output, agrees.frames]

/-- The log is the only part of a report that sessions which agree may differ in. -/
theorem Session.Agrees.runScreen {session other : Session} (agrees : session.Agrees other)
    (screen : Screen) (surroundings : Surroundings) :
    let report := Program.runScreen screen session surroundings
    let report' := Program.runScreen screen other surroundings
    report.exit = report'.exit ∧ report.output = report'.output ∧ report.acts = report'.acts := by
  intro report report'
  have exits {first second : Session} (alike : first.Agrees second) (progress : Progress) :
      Program.exitOf progress first = Program.exitOf progress second := by
    simp only [Program.exitOf, alike.fault]
  have reports {playback playback' : Playback} (alike : playback.Agrees playback') :
      Program.exitOf playback.ending playback.session =
        Program.exitOf playback'.ending playback'.session := by
    rw [alike.ending, exits alike.session]
  cases screen with
  | window style =>
      have opened : (Window.create session surroundings.arrays style).Agrees
          (.create other surroundings.arrays style) := ⟨agrees, rfl, rfl, rfl, rfl, rfl, rfl⟩
      obtain ⟨progress, final, final', ran, ran', alike⟩ := opened.run surroundings.events
      simp only [report, report', Program.runScreen, ran, ran', true_and]
      exact ⟨exits alike.session progress, congrArg List.reverse alike.acts⟩
  | terminal limit? =>
      have played := agrees.terminal limit? surroundings.patience
      exact ⟨reports played, played.output, rfl⟩
  | headless count => exact ⟨reports (agrees.play count.toNat).report, rfl, rfl⟩

/-- Whatever two loggers write and whatever their clocks show, each frontend leads the same machine
to the same end, over the same frames and with the same count. A cycle breaks off only where its
step does, and at the lowest level each instruction and each machine gives its line. -/
theorem log_never_influences_run (machine : Machine) (clock : Clock) (style style' : LogStyle)
    (wall wall' : Clock) :
    let session := Session.start machine clock (.create style wall)
    let other := Session.start machine clock (.create style' wall')
    (∀ limit? patience, (Terminal.run session limit? patience).Agrees
      (Terminal.run other limit? patience)) ∧
    (∀ count, (Headless.run session count).Agrees (Headless.run other count)) ∧
    (∀ count, (session.afterCycles count).Agrees (other.afterCycles count) ∧
      Progress.Alike Session.Agrees (session.afterCycles count).cycle
        (other.afterCycles count).cycle) ∧
    (∀ arrays style batches, Progress.Alike Window.Agrees
      ((Window.create session arrays style).run batches)
      ((Window.create other arrays style).run batches)) ∧
    (∀ screen surroundings,
      let report := Program.runScreen screen session surroundings
      let report' := Program.runScreen screen other surroundings
      report.exit = report'.exit ∧ report.output = report'.output ∧ report.acts = report'.acts) ∧
    (∀ session : Session,
      session.cycle.1 = .after (session.machine.step session.clock.read.1)) ∧
    ∀ (logger : Logger) (pc opcode : Int) (machine : Machine), logger.enabled .debug = true →
      (∃ stamp, (logger.logInstruction pc opcode).written = logger.written ++
        (stamp ++ logger.mark .debug ++
          (Hex.padded 3 pc ++ ": " ++ Instruction.disassemble opcode) ++ "\n")) ∧
      ∃ stamp, (logger.logMachine machine).written = logger.written ++
        (stamp ++ logger.mark .debug ++ Logger.describeMachine machine ++ "\n") := by
  intro session other
  have agrees : session.Agrees other := Session.agrees_start machine clock style style' wall wall'
  refine ⟨agrees.terminal, fun count => (agrees.play count.toNat).report,
    fun count => ⟨agrees.afterCycles count, (agrees.afterCycles count).cycle⟩, ?_,
    agrees.runScreen, ?_, ?_⟩
  · intro arrays style batches
    have opened : (Window.create session arrays style).Agrees (.create other arrays style) :=
      ⟨agrees, rfl, rfl, rfl, rfl, rfl, rfl⟩
    exact opened.run batches
  · intro session
    obtain ⟨_, _, cycled⟩ := session.cycle_eq
    rw [cycled]
  · intro logger pc opcode machine writes
    have counted : Logger.enabled { logger with count := logger.count + 1 } .debug = true := writes
    exact ⟨Logger.written_log counted _, Logger.written_log writes _⟩

/-- The third cycle halts alike over a trace and over an empty log. -/
theorem log_never_influences_drawAndFail :
    let session := Session.start drawAndFail ⟨[]⟩
      (.create { threshold := .debug, timed := false } ⟨[]⟩)
    let other := Session.start drawAndFail ⟨[]⟩ (.create { threshold := .critical } ⟨[]⟩)
    (session.afterCycles 2).cycle.2.fault? = some (.invalidOpcode 0xFFFF) ∧
      Progress.Alike Session.Agrees (session.afterCycles 2).cycle (other.afterCycles 2).cycle ∧
      (session.afterCycles 1).logger.written =
        "[   DEBUG][chip8vm] 200: D005  Draw(x=0, y=0, height=5)\n" ∧
      (other.afterCycles 3).logger.written = "" := by
  intro session other
  have failed : (session.afterCycles 2).cycle.2.fault? = some (.invalidOpcode 0xFFFF) := by
    decide +kernel
  have traced : (session.afterCycles 1).logger.written =
      "[   DEBUG][chip8vm] 200: D005  Draw(x=0, y=0, height=5)\n" := by
    decide +kernel
  have silent : (other.afterCycles 3).logger.written = "" := by decide +kernel
  obtain ⟨_, _, cycles, _⟩ := log_never_influences_run drawAndFail ⟨[]⟩
    { threshold := .debug, timed := false } { threshold := .critical } ⟨[]⟩ ⟨[]⟩
  exact ⟨failed, (cycles 2).2, traced, silent⟩

end Chip8
