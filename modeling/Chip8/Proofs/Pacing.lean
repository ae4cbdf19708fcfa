import Chip8.Proofs.Playback
import Chip8.Proofs.Showing

/-!
This file proves that the number of cycles in a frame makes no difference to a run in a window.
-/

namespace Chip8

namespace Machine

variable {polled plain next : Machine} {now : Reading} {Shown Shown' : Display → Prop}

/-- The machine of a window keeps up with the plain machine. They differ in the flag at most, and
where only the window has lowered it, the display is shown. -/
structure KeepsUp (polled plain : Machine) (Shown : Display → Prop) : Prop where
  alike : polled.seen = plain.seen
  untouched : plain.redraw = false → polled = plain
  shown : plain.redraw = true → polled.redraw = true ∨ Shown polled.display

theorem KeepsUp.start (machine : Machine) (Shown : Display → Prop) :
    machine.KeepsUp machine Shown :=
  ⟨rfl, fun _ => rfl, .inl⟩

theorem KeepsUp.step (keeps : polled.KeepsUp plain Shown) (stepped : plain.step now = .ok next) :
    ∃ next', polled.step now = .ok next' ∧ next'.KeepsUp next Shown := by
  obtain ⟨next', taken, alike⟩ := step_ok_congr keeps.alike.symm stepped
  -- Over a lowered flag both machines are the same, and they stay the same.
  have follows (lowered : plain.redraw = false) : next' = next := by
    rw [keeps.untouched lowered, stepped] at taken
    exact (Except.ok.inj taken).symm
  refine ⟨next', taken, alike.symm, fun lowered => ?_, fun raised => ?_⟩
  · cases before : plain.redraw with
    | false => exact follows before
    | true => exact absurd (redraw_of_step before stepped) (Bool.eq_false_iff.mp lowered)
  · cases before : plain.redraw with
    | false => exact .inl (follows before ▸ raised)
    | true =>
        rcases display_of_step taken with asked | ⟨flag, same⟩
        · exact .inl asked
        · rw [flag, same]
          exact keeps.shown before

/-- A look at the display shows a frame that waits. -/
theorem KeepsUp.look (keeps : polled.KeepsUp plain Shown)
    (drawn : polled.redraw = true → Shown' polled.display)
    (kept : polled.redraw = false → Shown polled.display → Shown' polled.display) :
    polled.seen.KeepsUp plain Shown' where
  alike := keeps.alike
  untouched lowered := by
    rw [keeps.untouched lowered, seen, ← lowered]
  shown raised := by
    cases waits : polled.redraw with
    | true => exact .inr (drawn waits)
    | false =>
        have before := (keeps.shown raised).resolve_left (Bool.eq_false_iff.mp waits)
        exact .inr (kept waits before)

end Machine

namespace Window

variable {window : Window} {session : Session} {style : WindowStyle} {scale : Int}
  {plain final : Machine} {Shown : Display → Prop} {pace taken number : Nat} {fault? : Option Fault}

/-- The cycles of a frame stop where the plain steps stop. -/
theorem cycles_of_stops (count : Nat) (keeps : session.machine.KeepsUp plain Shown)
    (stops : plain.StopsAfter (session.clock.take count) taken final fault?) :
    ∃ machine clock logger,
      cycles session count = (if fault?.isSome then .halted else .running,
        ⟨machine, clock, logger, fault?.or session.fault?⟩) ∧
      machine.KeepsUp final Shown ∧
      logger.count = session.logger.count + taken + (if fault?.isSome then 1 else 0) ∧
      (fault? = none → clock = session.clock.drop count) := by
  -- Each cycle takes one reading, so the cycles and the plain steps go on together.
  induction count generalizing session plain taken with
  | zero =>
      obtain ⟨rfl, rfl, rfl⟩ := Machine.StopsAfter.nil_iff.mp stops
      exact ⟨_, _, _, rfl, keeps, rfl, fun _ => rfl⟩
  | succ count ih =>
      rw [Clock.take] at stops
      cases stepped : plain.step session.clock.read.1 with
      | ok next =>
          obtain ⟨rest, rfl, onwards⟩ := (Machine.StopsAfter.cons_iff_of_ok stepped).mp stops
          obtain ⟨next', taken, follows⟩ := keeps.step stepped
          obtain ⟨logger, counted, cycled⟩ := Session.cycle_of_ok taken
          let later : Session := ⟨next', session.clock.read.2, logger, session.fault?⟩
          have follows : later.machine.KeepsUp next Shown := follows
          obtain ⟨machine, clock, written, ended, keeps, total, dropped⟩ := ih follows onwards
          refine ⟨machine, clock, written, ?_, keeps, ?_, dropped⟩
          · rw [cycles, cycled]
            exact ended
          · have counted : later.logger.count = session.logger.count + 1 := counted
            omega
      | error error =>
          obtain ⟨rfl, rfl, fault, rfl, rfl⟩ :=
            (Machine.StopsAfter.cons_iff_of_error stepped).mp stops
          have failed := Machine.step_error_congr keeps.alike.symm stepped
          obtain ⟨logger, counted, cycled⟩ := Session.cycle_of_fault failed
          refine ⟨_, session.clock.read.2, logger, ?_, keeps, counted, fun absent => ?_⟩
          · rw [cycles, cycled]
            rfl
          · cases absent

/-- The display is seen in the window. -/
def Displays (window : Window) (scale : Int) (display : Display) : Prop :=
  window.drawing? = some (.picture (display.image scale window.style.scheme.palette))

/-- A window without switches follows the plain machine. It has counted the cycles and met the fault
of the plain steps. -/
structure Follows (window : Window) (style : WindowStyle) (scale : Int) (plain : Machine)
    (number : Nat) (fault? : Option Fault) : Prop where
  keeps : window.session.machine.KeepsUp plain (window.Displays scale)
  count : window.session.logger.count = number
  fault : window.session.fault? = fault?
  room : window.arrays.HasRoom (pictureBytes scale)
  style : window.style = style
  overlaid : window.overlaid = false
  paused : window.paused = false

theorem Follows.visible (follows : window.Follows style scale plain number fault?)
    (scaled : style.scale = some scale) (shown : plain.ShownAt scale) : window.Visible scale := by
  refine ⟨follows.style ▸ scaled, follows.room, Machine.ShownAt.seen_iff.mp ?_⟩
  rw [follows.keeps.alike]
  exact Machine.ShownAt.seen_iff.mpr shown

theorem displays_act {step : WindowAct} (unseen : step.isDrawing = false) :
    (window.act step).Displays scale = window.Displays scale := by
  funext display
  simp only [Displays, drawing?_act, unseen, Bool.false_eq_true, if_false]
  rfl

theorem Follows.act (follows : window.Follows style scale plain number fault?) {step : WindowAct}
    (unseen : step.isDrawing = false) : (window.act step).Follows style scale plain number fault? :=
  { follows with keeps := (displays_act unseen).symm ▸ follows.keeps }

theorem Follows.fitted (follows : window.Follows style scale plain number fault?) :
    (window.fitted scale).Follows style scale plain number fault? := by
  have asked : (window.act (.resize (window.size scale).1 (window.size scale).2)).Follows style
    scale plain number fault? := follows.act rfl
  exact ⟨asked.keeps, asked.count, asked.fault, asked.room, asked.style, asked.overlaid,
    asked.paused⟩

theorem Follows.resized (follows : window.Follows style scale plain number fault?) (mode : Mode) :
    (window.resized mode scale).Follows style scale plain number fault? := by
  unfold Window.resized
  split
  · exact follows
  · exact follows.fitted

/-- A look at the end of a frame shows the display if it has changed. -/
theorem Follows.refreshed (follows : window.Follows style scale plain number fault?) :
    (window.refreshed scale).Follows style scale plain number fault? := by
  have drawing := window.drawing?_refreshed scale
  rw [follows.overlaid, Bool.or_false] at drawing
  obtain ⟨acts, same⟩ := window.exists_acts_refreshed scale
  rw [same] at drawing ⊢
  refine ⟨follows.keeps.look (fun waits => ?_) fun waits shown => ?_, follows.count, follows.fault,
    follows.room, follows.style, follows.overlaid, follows.paused⟩
  · rw [Displays, drawing, waits, if_pos rfl, view, follows.overlaid]
    rfl
  · rw [Displays, drawing, waits]
    exact shown

theorem frameCycles_of_pace (paced : window.style.cyclesPerFrame = some (pace : Int)) :
    window.frameCycles = cycles window.session pace := by
  simp only [frameCycles, paced, Int.toNat_natCast]

/-- A frame that does not break off is presented, and ends as its cycles do. -/
theorem animate_of_present {progress : Progress} {shown : Window}
    (cycled : window.frameCycles = (progress, session))
    (presented : { window with session := session }.present window.session.machine.mode =
      (.running, shown))
    (whole : ∀ error, progress ≠ .crashed error) : window.animate = (progress, shown) := by
  simp only [animate, cycled, presented]

/-- Without events a frame goes on to its cycles. -/
theorem frame_nil (running : window.paused = false) :
    window.frame [] = (window.act (.tick window.style.rate)).animate := by
  have framed : window.frame [] =
      if window.paused then (.running, window.act (.tick window.style.rate))
      else (window.act (.tick window.style.rate)).animate := rfl
  rw [framed, running, if_neg Bool.false_ne_true]

section Paced

variable (scaled : style.scale = some scale) (paced : style.cyclesPerFrame = some (pace : Int))
include scaled paced

/-- A frame leads to the place where the plain steps stop. -/
theorem frame_of_stops (follows : window.Follows style scale plain number none)
    (covered : window.HasSurface window.session.machine.mode scale) (shown : plain.ShownAt scale)
    (stops : plain.StopsAfter (window.session.clock.take pace) taken final fault?) :
    ∃ next, window.frame [] = (if fault?.isSome then .halted else .running, next) ∧
      next.Follows style scale final (number + taken + if fault?.isSome then 1 else 0) fault? ∧
      next.HasSurface next.session.machine.mode scale ∧ next.session.machine.redraw = false ∧
      (fault? = none → next.session.clock = window.session.clock.drop pace) := by
  let ticked := window.act (.tick window.style.rate)
  have ticking : ticked.Follows style scale plain number none := follows.act rfl
  obtain ⟨machine, clock, logger, cycled, keeps, counted, dropped⟩ :=
    cycles_of_stops pace ticking.keeps stops
  rw [← frameCycles_of_pace (ticking.style ▸ paced), ticking.fault, Option.or_none] at cycled
  let moved : Window := { ticked with session := ⟨machine, clock, logger, fault?⟩ }
  have moving : moved.Follows style scale final
      (number + taken + if fault?.isSome then 1 else 0) fault? :=
    ⟨keeps, counted.trans (by rw [ticking.count]), rfl, ticking.room, ticking.style,
      ticking.overlaid, ticking.paused⟩
  have covers : moved.HasSurface window.session.machine.mode scale := covered
  have ends : final.ShownAt scale := Machine.steps_preserve Machine.ShownAt.step shown stops.steps
  let resized := moved.resized window.session.machine.mode scale
  have animated := animate_of_present cycled
    (present_of_visible (moving.visible scaled ends) covers)
    (by cases fault? <;> nofun)
  obtain ⟨acts, refreshed⟩ := resized.exists_acts_refreshed scale
  refine ⟨resized.refreshed scale, (frame_nil follows.paused).trans animated,
    (moving.resized _).refreshed, ?_, ?_, fun through => ?_⟩
  · have kept : (resized.refreshed scale).session.machine.mode = machine.mode := by
      rw [refreshed]
      exact congrArg (Machine.mode ∘ Session.machine) (moved.session_resized _ _)
    rw [kept]
    exact covers.resized.refreshed
  · rw [refreshed]
    rfl
  · rw [refreshed]
    exact (congrArg Session.clock (moved.session_resized _ _)).trans (dropped through)

/-- The frames of a run lead to the place where the plain steps stop, and there the run halts. -/
theorem frames_of_stops (count : Nat) (follows : window.Follows style scale plain number none)
    (covered : window.HasSurface window.session.machine.mode scale) (shown : plain.ShownAt scale)
    (stops : plain.StopsAfter (window.session.clock.take (pace * count)) taken final fault?)
    (settled : count = 0 → window.session.machine.redraw = false) :
    ∃ ended, window.frames (List.replicate count []) = (.halted, ended) ∧
      ended.Follows style scale final (number + taken + if fault?.isSome then 1 else 0) fault? ∧
      ended.session.machine.redraw = false := by
  induction count generalizing window plain number taken with
  | zero =>
      obtain ⟨rfl, rfl, rfl⟩ := Machine.StopsAfter.nil_iff.mp stops
      exact ⟨window.act (.tick window.style.rate), rfl, follows.act rfl, settled rfl⟩
  | succ count ih =>
      rw [Nat.mul_succ, Nat.add_comm, Clock.take_add] at stops
      rw [List.replicate_succ, frames]
      rcases stops.append with ⟨fault, rfl, within⟩ | ⟨middle, rest, through, further, rfl⟩
      · obtain ⟨next, framed, following, _, looked, _⟩ :=
          frame_of_stops scaled paced follows covered shown within
        exact ⟨next, by rw [framed]; rfl, following, looked⟩
      · obtain ⟨next, framed, following, covering, looked, dropped⟩ :=
          frame_of_stops scaled paced follows covered shown through
        have onwards := Machine.steps_preserve Machine.ShownAt.step shown through.steps
        rw [← dropped rfl] at further
        obtain ⟨ended, later, follows, quiet⟩ :=
          ih following covering onwards further fun _ => looked
        refine ⟨ended, by rw [framed]; exact later, ?_, quiet⟩
        have total : number + (Clock.take window.session.clock pace).length + 0 + rest =
            number + ((Clock.take window.session.clock pace).length + rest) := by omega
        rw [← total]
        exact follows

/-- A run without events leads to the place where the plain steps stop. -/
theorem run_of_stops {count : Nat} (follows : window.Follows style scale plain number none)
    (shown : plain.ShownAt scale)
    (stops : plain.StopsAfter (window.session.clock.take (pace * count)) taken final fault?)
    (positive : 0 < count) :
    ∃ ended, window.run (List.replicate count []) = (.halted, ended) ∧
      ended.Follows style scale final (number + taken + if fault?.isSome then 1 else 0) fault? ∧
      ended.session.machine.redraw = false := by
  let opened := window.fitted scale
  let started : Window := { opened with session := opened.session.readWall.2 }
  have fitted := fit_of_visible (follows.visible scaled shown)
  have opening : opened.Follows style scale plain number none := follows.fitted
  have starting : started.Follows style scale plain number none :=
    ⟨opening.keeps, opening.count, opening.fault, opening.room, opening.style, opening.overlaid,
      opening.paused⟩
  have covered : started.HasSurface started.session.machine.mode scale :=
    window.hasSurface_fitted scale
  obtain ⟨ended, framed, ⟨keeps, counted, fault, room, style, overlaid, paused⟩, quiet⟩ :=
    frames_of_stops scaled paced count starting covered shown stops fun none =>
      absurd none (Nat.pos_iff_ne_zero.mp positive)
  refine ⟨{ ended with session := ended.session.summarize opened.session.readWall.1 }, ?_,
    ⟨keeps, ?_, fault, room, style, overlaid, paused⟩, quiet⟩
  · simp only [run, fitted]
    have animated : opened.animateAll (List.replicate count []) =
        ((started.frames (List.replicate count [])).1,
          { (started.frames (List.replicate count [])).2 with
            session := (started.frames (List.replicate count [])).2.session.summarize
              opened.session.readWall.1 }) := rfl
    rw [animated, framed]
  · exact (Logger.count_logSummary _ _).trans counted

end Paced

/-- At the end of a run the flag is lowered, and a display that has changed is seen. -/
theorem Follows.ended (follows : window.Follows style scale plain number fault?)
    (quiet : window.session.machine.redraw = false) :
    window.session.machine = plain.seen ∧
      (plain.redraw = true → window.Displays scale plain.display) := by
  have same : window.session.machine = plain.seen := by
    rw [← follows.keeps.alike, Machine.seen, ← quiet]
  refine ⟨same, fun raised => ?_⟩
  have seen := (follows.keeps.shown raised).resolve_left (Bool.eq_false_iff.mp quiet)
  rw [same] at seen
  exact seen

/-- A run in a window ends like the plain steps: it halts with their machine, whose display has been
looked at, with their fault and their count. If a display has waited on the way, the last drawing
shows the final one. -/
structure EndsLike (result : Progress × Window) (start : Machine) (readings : List Reading)
    (taken : Nat) (final : Machine) (fault? : Option Fault) (scale : Int) (palette : Palette) :
    Prop where
  halted : result.1 = .halted
  machine : result.2.session.machine = { final with redraw := false }
  fault : result.2.session.fault? = fault?
  count : result.2.session.logger.count = taken + if fault?.isSome then 1 else 0
  drawing : ∀ earlier ≤ taken, ∀ passed, start.steps (readings.take earlier) = .ok passed →
    passed.redraw = true →
      result.2.drawing? = some (.picture (final.display.image scale palette))

/-- A run with a fixed number of cycles in each frame ends like the plain steps. -/
theorem run_endsLike {machine : Machine} {clock : Clock} {arrays : ArrayLibrary} {count : Nat}
    (shown : machine.ShownAt scale) (room : arrays.HasRoom (pictureBytes scale))
    (scaled : style.scale = some scale) (positive : 0 < count)
    (stops : machine.StopsAfter (clock.take (pace * count)) taken final fault?)
    (logStyle : LogStyle) (wall : Clock) :
    EndsLike ((create (.start machine clock (.create logStyle wall)) arrays
        { style with cyclesPerFrame := some (pace : Int) }).run (List.replicate count []))
      machine (clock.take (pace * count)) taken final fault? scale style.scheme.palette := by
  let paced : WindowStyle := { style with cyclesPerFrame := some (pace : Int) }
  have starts : (create (.start machine clock (.create logStyle wall)) arrays paced).Follows paced
      scale machine 0 none := ⟨.start machine _, rfl, rfl, room, rfl, rfl, rfl⟩
  have sized : paced.scale = some scale := scaled
  obtain ⟨ended, ran, follows, quiet⟩ := run_of_stops sized rfl starts shown stops positive
  obtain ⟨same, drawn⟩ := follows.ended quiet
  rw [ran]
  refine ⟨rfl, same, follows.fault, ?_, fun earlier before passed stepped raised => ?_⟩
  · rw [follows.count, Nat.zero_add]
  · have seen := drawn (stops.redraw before stepped raised)
    rw [Displays, follows.style] at seen
    exact seen

end Window

/-- However a run is cut into frames, the window ends where the plain steps stop. -/
theorem pacing_makes_no_difference {machine : Machine} {clock : Clock} {arrays : ArrayLibrary}
    {style : WindowStyle} {scale : Int} {pace count pace' count' : Nat}
    (reached : machine.Reachable)
    (positive : 0 < count) (positive' : 0 < count') (same : pace * count = pace' * count')
    (accepted : machine.AcceptsAll (clock.take (pace * count)))
    (scaled : style.scale = some scale) (shows : Window.Shows machine.mode scale)
    (room : arrays.HasRoom (Window.pictureBytes scale))
    (logStyle logStyle' : LogStyle) (wall wall' : Clock) :
    let first := (Window.create (.start machine clock (.create logStyle wall)) arrays
      { style with cyclesPerFrame := some (pace : Int) }).run (List.replicate count [])
    let second := (Window.create (.start machine clock (.create logStyle' wall')) arrays
      { style with cyclesPerFrame := some (pace' : Int) }).run (List.replicate count' [])
    let readings := clock.take (pace * count)
    ∃ taken final fault?, machine.StopsAfter readings taken final fault? ∧
      Window.EndsLike first machine readings taken final fault? scale style.scheme.palette ∧
      Window.EndsLike second machine readings taken final fault? scale style.scheme.palette := by
  intro first second readings
  obtain ⟨final, fault?, stops, _⟩ := Machine.course_stops reached accepted
  have shown : machine.ShownAt scale := ⟨reached.coherent, shows⟩
  refine ⟨_, final, fault?, stops,
    Window.run_endsLike shown room scaled positive stops logStyle wall, ?_⟩
  generalize (machine.course (clock.take (pace * count))).machines.length = taken at stops ⊢
  subst readings
  rw [same] at stops ⊢
  exact Window.run_endsLike shown room scaled positive' stops logStyle' wall'

/-- Frames of two cycles and frames of three show the digit and meet the word without meaning. -/
theorem pacing_of_drawAndFail :
    let window (pace : Nat) : Window := .create (.start drawAndFail ⟨[]⟩ (.create {} ⟨[]⟩)) .roomy
      { cyclesPerFrame := some (pace : Int) }
    drawAndFail.Reachable ∧ drawAndFail.AcceptsAll (Clock.take ⟨[]⟩ (2 * 3)) ∧
      Window.Shows drawAndFail.mode 10 ∧ ArrayLibrary.roomy.HasRoom (Window.pictureBytes 10) ∧
      2 * 3 = 3 * 2 ∧
      ∀ result ∈ [(window 2).run (List.replicate 3 []), (window 3).run (List.replicate 2 [])],
        result.2.session.fault? = some (.invalidOpcode 0xFFFF) ∧
          result.2.session.logger.count = 3 ∧ result.2.drawing?.isSome := by
  intro window
  have reached : drawAndFail.Reachable := Machine.reachable_fresh _
  have accepted : drawAndFail.AcceptsAll (Clock.take ⟨[]⟩ (2 * 3)) := by decide +kernel
  have mode : drawAndFail.mode = .basic64x32 := by decide +kernel
  have shows : Window.Shows drawAndFail.mode 10 := by
    rw [mode]
    exact Window.shows_of_le (by decide) (by decide)
  have room : ArrayLibrary.roomy.HasRoom (Window.pictureBytes 10) :=
    ArrayLibrary.hasRoom_roomy (by decide)
  have two : (drawAndFail.course (Clock.take ⟨[]⟩ (2 * 3))).machines.length = 2 := by decide +kernel
  have failed : (drawAndFail.course (Clock.take ⟨[]⟩ (2 * 3))).error? =
      some (.fault (.invalidOpcode 0xFFFF)) := by decide +kernel
  have raised : (drawAndFail.steps ((Clock.take ⟨[]⟩ (2 * 3)).take 2)).toOption.map (·.redraw) =
      some true := by decide +kernel
  obtain ⟨final, fault?, stops, outcome, _⟩ := Machine.course_stops reached accepted
  rw [two] at stops
  rw [failed] at outcome
  obtain ⟨fault, rfl, same⟩ := Option.map_eq_some_iff.mp outcome.symm
  cases same
  rw [stops.steps] at raised
  obtain ⟨taken, final', fault?', stops', first, second⟩ :=
    @pacing_makes_no_difference drawAndFail ⟨[]⟩ .roomy {} 10 2 3 3 2 reached
      (by decide) (by decide) rfl accepted rfl shows room {} {} ⟨[]⟩ ⟨[]⟩
  obtain ⟨rfl, rfl, rfl⟩ := stops.unique stops'
  have report {result : Progress × Window}
      (ends : Window.EndsLike result drawAndFail (Clock.take ⟨[]⟩ (2 * 3)) 2 final
        (some (.invalidOpcode 0xFFFF)) 10 Scheme.classic.palette) :
      result.2.session.fault? = some (.invalidOpcode 0xFFFF) ∧
        result.2.session.logger.count = 3 ∧ result.2.drawing?.isSome := by
    refine ⟨ends.fault, ends.count, ?_⟩
    rw [ends.drawing 2 (Nat.le_refl 2) final stops.steps (Option.some.inj raised)]
    rfl
  exact ⟨reached, accepted, shows, room, rfl,
    List.forall_mem_cons.mpr ⟨report first, List.forall_mem_singleton.mpr (report second)⟩⟩

end Chip8
