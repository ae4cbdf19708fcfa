import Chip8.Proofs.Reel
import Chip8.Proofs.Showing

/-!
This file proves what a frame adds to the acts of a window: a tick, a new size if the mode switches,
and one drawing of the display at most.
-/

namespace Chip8

namespace Machine

variable {start machine next : Machine} {now : Reading}

/-- The machine has come from another one by steps: it keeps its mode, or it has switched to the
square one and asks for a frame. -/
structure Onward (start machine : Machine) : Prop where
  coherent : machine.Coherent
  mode : machine.mode = start.mode ∨ machine.mode = .eti64x64 ∧ machine.redraw = true

/-- An instruction that switches the mode asks for a frame. -/
theorem Change.switch (change : machine.Change next) :
    next.mode = machine.mode ∨ next.mode = .eti64x64 ∧ next.redraw = true := by
  cases change with
  | work | call | back | picture => exact .inl rfl
  | hires => exact .inr ⟨rfl, rfl⟩

theorem Onward.step (onward : start.Onward machine) (stepped : machine.step now = .ok next) :
    start.Onward next := by
  have outcome : machine.Outcome (.step now) next := outcome_step stepped
  obtain ⟨timers, instruction, _, _, applied⟩ := step_eq_ok_iff.mp stepped
  refine ⟨onward.coherent.outcome outcome, ?_⟩
  rcases (apply_change applied).switch with same | switched
  · have same : next.mode = machine.mode := same
    rw [same]
    exact onward.mode.imp_right fun ⟨square, raised⟩ => ⟨square, redraw_of_step raised stepped⟩
  · exact .inr switched

/-- A coherent machine breaks off at a reading that the timers refuse, and nowhere else. -/
theorem step_error_cases {error : Error} (coherent : machine.Coherent)
    (failed : machine.step now = .error error) :
    (∃ fault, error = .fault fault) ∨ ∃ cause, error = .clock cause := by
  cases updated : machine.timers.update now with
  | ok timers =>
      have accepted : machine.Accepts now := accepts_iff.mpr ⟨timers, updated⟩
      obtain ⟨fault, _, same⟩ := (step_eq_error_iff coherent.stack accepted error).mp failed
      exact .inl ⟨fault, same⟩
  | error cause =>
      rw [step_of_refusal updated] at failed
      cases failed
      exact .inr ⟨cause, rfl⟩

/-- Whether a frame waits does not matter to the size of the display. -/
theorem Coherent.of_seen {other : Machine} (coherent : machine.Coherent)
    (same : other.seen = machine.seen) : other.Coherent := by
  have looked : other.seen.Coherent :=
    same ▸ ⟨coherent.stack, coherent.width, coherent.height⟩
  exact ⟨looked.stack, looked.width, looked.height⟩

theorem mode_of_seen {other : Machine} (same : other.seen = machine.seen) :
    other.mode = machine.mode := by
  change other.seen.mode = machine.seen.mode
  rw [same]

end Machine

namespace Window

variable {window next : Window} {session : Session} {start : Machine} {scale : Int}

/-- The size that is asked for follows the mode. -/
theorem size_congr {other : Window}
    (same : window.session.machine.mode = other.session.machine.mode) (scale : Int) :
    window.size scale = other.size scale := by
  simp only [size, Machine.resolution, same]

/-- A frame that switches the mode resizes the window. -/
def Frame.resizing (frame : Frame) (scale : Int) : List WindowAct :=
  if frame.switches then
    [.resize (frame.after.size scale).1 (frame.after.size scale).2]
  else []

/-- Behind its earlier acts a frame resizes the window if it switches the mode, and draws the
display once at most. A switch is drawn unless the frame breaks off, and leaves a surface for the
new mode. A window that is ready breaks off only at a reading or without a number of cycles. -/
structure Frame.Continues (frame : Frame) (scale : Int) (earlier : List WindowAct) : Prop where
  arrays : frame.after.arrays = frame.before.arrays
  style : frame.after.style = frame.before.style
  coherent : frame.after.session.machine.Coherent
  forward : frame.Forward
  surface : frame.Whole → frame.before.HasSurface frame.before.session.machine.mode scale →
    frame.after.HasSurface frame.after.session.machine.mode scale
  acts : ∃ drawings, frame.after.acts = drawings ++ (frame.resizing scale ++ earlier) ∧
    (drawings = [] ∨ frame.refused = false ∧ drawings = [frame.after.view scale]) ∧
    (frame.Whole ∨ frame.before.Ready scale → frame.switches = true →
      drawings = [frame.after.view scale])
  crashes : frame.before.Ready scale → ∀ error,
    frame.progress = .crashed error → (∃ cause, error = .clock cause) ∨ error = .window .noCycles

/-- A frame without a switch need not draw anything. -/
theorem Frame.continues_of_still {frame : Frame} {earlier : List WindowAct}
    (still : frame.switches = false) (acts : frame.after.acts = earlier)
    (arrays : frame.after.arrays = frame.before.arrays)
    (style : frame.after.style = frame.before.style)
    (surface : frame.after.surface = frame.before.surface)
    (coherent : frame.after.session.machine.Coherent) (forward : frame.Forward)
    (crashes : ∀ error, frame.progress = .crashed error →
      (∃ cause, error = .clock cause) ∨ error = .window .noCycles) :
    frame.Continues scale earlier where
  arrays := arrays
  style := style
  coherent := coherent
  forward := forward
  surface whole covered := by
    have kept : frame.before.session.machine.mode = frame.after.session.machine.mode :=
      not_not.mp (mt (switches_iff whole.calm).mpr (Bool.eq_false_iff.mp still))
    rw [HasSurface, surface, ← kept]
    exact covered
  acts := by
    refine ⟨[], ?_, .inl rfl, fun _ switched => ?_⟩
    · rw [resizing, still]
      exact acts
    · rw [still] at switched
      cases switched
  crashes _ := crashes

/-- The window gets these keys and switches. -/
def keyed (window : Window) (keypad : Keypad) (overlaid paused : Bool) : Window :=
  { window with
    session := { window.session with machine := { window.session.machine with keypad := keypad } }
    overlaid := overlaid
    paused := paused }

/-- An event changes the keys and the switches at most. -/
theorem handle_keyed {event : WindowEvent} (handled : window.handle event = some next) :
    ∃ keypad overlaid paused, next = window.keyed keypad overlaid paused := by
  have set (key : PhysicalKey) (state : Bool) :
      ∃ keypad overlaid paused, window.setKey key state = window.keyed keypad overlaid paused := by
    unfold setKey
    split
    · exact ⟨_, _, _, rfl⟩
    · exact ⟨window.session.machine.keypad, _, _, rfl⟩
  unfold handle at handled
  split at handled <;> cases handled
  · exact ⟨window.session.machine.keypad, _, _, rfl⟩
  · exact ⟨window.session.machine.keypad, _, _, rfl⟩
  · exact set _ true
  · exact set _ false
  · exact ⟨window.session.machine.keypad, _, _, rfl⟩

theorem handleAll_keyed (window : Window) (events : List WindowEvent) :
    ∃ keypad overlaid paused,
      (window.handleAll events).2 = window.keyed keypad overlaid paused := by
  induction events generalizing window with
  | nil => exact ⟨window.session.machine.keypad, _, _, rfl⟩
  | cons event rest ih =>
      rw [handleAll]
      cases handled : window.handle event with
      | none => exact ⟨window.session.machine.keypad, _, _, rfl⟩
      | some next =>
          obtain ⟨keypad, overlaid, paused, rfl⟩ := handle_keyed handled
          obtain ⟨keypad', overlaid', paused', same⟩ :=
            ih (window.keyed keypad overlaid paused)
          exact ⟨keypad', overlaid', paused', same⟩

/-- The cycles of a frame keep what each step keeps. -/
theorem cycles_onward (onward : start.Onward session.machine) (count : Nat) :
    start.Onward (cycles session count).2.machine ∧
      ∀ error, (cycles session count).1 = .crashed error → ∃ cause, error = .clock cause := by
  induction count generalizing session with
  | zero => exact ⟨onward, nofun⟩
  | succ count ih =>
      obtain ⟨logger, _, cycled⟩ := session.cycle_eq
      cases stepped : session.machine.step session.clock.read.1 with
      | ok machine =>
          rw [stepped, Machine.obey_step_of_ok stepped] at cycled
          rw [cycles, cycled]
          exact ih (onward.step stepped)
      | error error =>
          rw [stepped, Machine.obey_step_of_error stepped] at cycled
          rw [cycles, cycled]
          rcases Machine.step_error_cases onward.coherent stepped with ⟨fault, rfl⟩ | ⟨cause, rfl⟩
          · exact ⟨onward, nofun⟩
          · refine ⟨onward, fun error crashed => ?_⟩
            cases crashed
            exact ⟨cause, rfl⟩

/-- A frame without its cycles breaks off at once. -/
theorem frameCycles_onward (coherent : window.session.machine.Coherent) :
    window.session.machine.Onward window.frameCycles.2.machine ∧
      ∀ error, window.frameCycles.1 = .crashed error →
        (∃ cause, error = .clock cause) ∨
          error = .window .noCycles ∧ window.frameCycles.2 = window.session := by
  unfold frameCycles
  split
  · rename_i count paced
    have still : window.session.machine.Onward window.session.machine := ⟨coherent, .inl rfl⟩
    have onward := cycles_onward still count.toNat
    exact ⟨onward.1, fun error crashed => .inl (onward.2 error crashed)⟩
  · refine ⟨⟨coherent, .inl rfl⟩, fun error crashed => ?_⟩
    cases crashed
    exact .inr ⟨rfl, rfl⟩

/-- A window that is presented draws its display once at most, and never looks at the clock. A
drawing that is due is made unless the window breaks off, and a visible window with a surface for
its mode does not break off. -/
structure Presents (window : Window) (scale : Int) (due : Prop) (result : Progress × Window) :
    Prop where
  timeless : ∀ cause, result.1 ≠ .crashed (.clock cause)
  runs : window.Visible scale → window.HasSurface window.session.machine.mode scale →
    result.1 = .running
  arrays : result.2.arrays = window.arrays
  style : result.2.style = window.style
  surface : (∀ error, result.1 ≠ .crashed error) → result.2.surface = window.surface
  seen : result.2.session.machine.seen = window.session.machine.seen
  acts : ∃ drawings, result.2.acts = drawings ++ window.acts ∧
    (drawings = [] ∨ drawings = [result.2.view scale]) ∧
    ((∀ error, result.1 ≠ .crashed error) → due → drawings = [result.2.view scale])

/-- A window either draws its display or breaks off with an error that is no matter of the clock. -/
theorem draw_cases (scaled : window.style.scale = some scale) :
    (∃ error, window.draw = (.crashed error, window) ∧ ∀ cause, error ≠ .clock cause) ∨
      window.draw = (.running, window.act (window.view scale)) := by
  simp only [draw, scaled, drawScaled]
  cases made : window.session.machine.display.image? window.arrays scale
      window.style.scheme.palette with
  | error error =>
      refine .inl ⟨_, rfl, fun cause same => ?_⟩
      cases same
  | ok image =>
      obtain ⟨_, rfl⟩ := Display.image?_eq_ok_iff.mp made
      dsimp only
      split
      · exact .inr rfl
      · refine .inl ⟨_, rfl, fun cause same => ?_⟩
        cases same

theorem presents_draw (scaled : window.style.scale = some scale) :
    window.Presents scale True window.draw := by
  rcases draw_cases scaled with ⟨error, drawn, timeless⟩ | drawn
  · have broken (visible : window.Visible scale)
        (covered : window.HasSurface window.session.machine.mode scale) : False := by
      have shown := drawn.symm.trans (draw_of_visible visible covered)
      cases shown
    rw [drawn]
    refine ⟨fun cause crashed => ?_, fun visible covered => absurd covered (broken visible), rfl,
      rfl, fun _ => rfl, rfl, [], rfl, .inl rfl, fun whole => absurd rfl (whole error)⟩
    cases crashed
    exact timeless cause rfl
  · rw [drawn]
    exact ⟨nofun, fun _ _ => rfl, rfl, rfl, fun _ => rfl, rfl, [window.view scale], rfl, .inr rfl,
      fun _ _ => rfl⟩

theorem presents_refresh (window : Window) (scaled : window.style.scale = some scale) :
    window.Presents scale (window.session.machine.redraw = true) window.refresh := by
  rw [refresh_eq]
  split
  · have drawn : window.looked.Presents scale True window.looked.draw := presents_draw scaled
    obtain ⟨drawings, acts, once, due⟩ := drawn.acts
    exact ⟨drawn.timeless, fun visible covered => drawn.runs visible.looked covered, drawn.arrays,
      drawn.style, drawn.surface, drawn.seen, drawings, acts, once,
      fun whole _ => due whole trivial⟩
  · rename_i idle
    refine ⟨nofun, fun _ _ => rfl, rfl, rfl, fun _ => rfl, rfl, [], rfl, .inl rfl,
      fun _ raised => ?_⟩
    exact absurd (by rw [raised]; rfl) idle

/-- The window system grants a new size or refuses it. -/
theorem fit_cases (scaled : window.style.scale = some scale) :
    (∃ error, window.fit = (.crashed (.window error),
      window.act (.resize (window.size scale).1 (window.size scale).2))) ∨
      window.fit = (.running, window.fitted scale) := by
  simp only [fit, scaled]
  split
  · exact .inl ⟨_, rfl⟩
  · exact .inr rfl

theorem presents_present (window : Window) (scaled : window.style.scale = some scale)
    (mode : Mode) :
    (window.resized mode scale).Presents scale (window.session.machine.redraw = true)
      (window.present mode) := by
  unfold present resized
  split
  · exact presents_refresh window scaled
  · rcases fit_cases scaled with ⟨error, refused⟩ | granted
    · have hidden (visible : (window.fitted scale).Visible scale) : False := by
        have shown := refused.symm.trans
          (fit_of_visible ⟨visible.scaled, visible.room, visible.shown⟩)
        cases shown
      rw [refused]
      refine ⟨nofun, fun visible => absurd visible hidden, rfl, rfl,
        fun whole => absurd rfl (whole _), rfl, [], rfl, .inl rfl,
          fun whole => absurd rfl (whole _)⟩
    · rw [granted]
      exact presents_refresh _ scaled

/-- A new size changes nothing about what a window can show. -/
theorem Visible.resized (visible : window.Visible scale) (mode : Mode) :
    (window.resized mode scale).Visible scale := by
  unfold Window.resized
  split
  · exact visible
  · exact visible.fitted

/-- After its cycles a frame is presented in the window of the new mode, and it breaks off if the
presentation does. -/
theorem Presents.continues {shown : Window} {ending result : Progress}
    (onward : window.session.machine.Onward session.machine)
    (presents : (resized { window with session := session } window.session.machine.mode
      scale).Presents scale (session.machine.redraw = true) (ending, shown))
    (scaled : window.style.scale = some scale)
    (ends : ∀ error, result = .crashed error ↔ ending = .crashed error) :
    Frame.Continues ⟨window, result, shown⟩ scale window.acts := by
  let next : Window := { window with session := session }
  let frame : Frame := ⟨window, result, shown⟩
  obtain ⟨_, _, _, resizedEq⟩ := next.exists_resized window.session.machine.mode scale
  have same : (next.resized window.session.machine.mode scale).session = session :=
    session_resized _ _ _
  have arrays : (next.resized window.session.machine.mode scale).arrays = window.arrays := by
    rw [resizedEq]
  have style : (next.resized window.session.machine.mode scale).style = window.style := by
    rw [resizedEq]
  have seen : shown.session.machine.seen = session.machine.seen :=
    presents.seen.trans (congrArg (Machine.seen ∘ Session.machine) same)
  have kept : shown.session.machine.mode = session.machine.mode := Machine.mode_of_seen seen
  have calm : frame.refused = false :=
    Frame.refused_eq_false_iff.mpr fun cause refused =>
      presents.timeless cause ((ends _).mp refused)
  have switches : frame.switches = true ↔
      window.session.machine.mode ≠ session.machine.mode := by
    rw [Frame.switches_iff calm, ← kept]
  have sized : shown.size scale = next.size scale := size_congr kept scale
  have resizes : (next.resized window.session.machine.mode scale).acts =
      frame.resizing scale ++ window.acts := by
    by_cases switched : frame.switches = true
    · rw [Frame.resizing, if_pos switched, sized, resized,
        if_neg (switches.mp switched).symm]
      rfl
    · rw [Frame.resizing, if_neg switched, resized,
        if_pos (not_not.mp (mt switches.mpr switched)).symm]
      rfl
  have calmly (whole : frame.Whole) (error : Error) : ending ≠ .crashed error :=
    fun crashed => whole error ((ends error).mpr crashed)
  have runs (ready : window.Ready scale) : ending = .running := by
    have visible : next.Visible scale :=
      ⟨scaled, ready.room, onward.coherent, ready.shows.onward (onward.mode.imp_right And.left)⟩
    have covered : next.HasSurface window.session.machine.mode scale := ready.surface
    exact presents.runs (visible.resized _) (by rw [same]; exact covered.resized)
  have forward : frame.Forward := by
    unfold Frame.Forward
    rw [kept]
    exact onward.mode.imp_right And.left
  obtain ⟨drawings, drawn, once, due⟩ := presents.acts
  refine ⟨presents.arrays.trans arrays, presents.style.trans style, onward.coherent.of_seen seen,
    forward, fun whole covered => ?_, ⟨drawings, by rw [drawn, resizes],
      once.imp_right fun same => ⟨calm, same⟩, fun through switched => ?_⟩,
    fun ready error crashed => ?_⟩
  · have covered : next.HasSurface window.session.machine.mode scale := covered
    rw [HasSurface, presents.surface (calmly whole), kept]
    exact covered.resized
  · -- A machine that has switched asks for a frame, so the drawing is due.
    have raised := onward.mode.resolve_left (switches.mp switched).symm
    refine due (fun error crashed => ?_) raised.2
    rcases through with whole | ready
    · exact calmly whole error crashed
    · have running := (runs ready).symm.trans crashed
      cases running
  · have running := (runs ready).symm.trans ((ends error).mp crashed)
    cases running

/-- A frame that is neither paused nor closed goes through its cycles and is presented. -/
theorem animate_continues (scaled : window.style.scale = some scale)
    (coherent : window.session.machine.Coherent) :
    Frame.Continues ⟨window, window.animate.1, window.animate.2⟩ scale window.acts := by
  obtain ⟨onward, crashes⟩ := frameCycles_onward coherent
  rcases cycled : window.frameCycles with ⟨progress, session⟩
  rw [cycled] at onward crashes
  rcases presented : present { window with session := session } window.session.machine.mode with
    ⟨ending, shown⟩
  have presents := presents_present { window with session := session } scaled
    window.session.machine.mode
  rw [presented] at presents
  simp only [animate, cycled, presented]
  cases progress with
  | crashed error =>
      have still :
          Frame.switches ⟨window, .crashed error, { window with session := session }⟩ = false := by
        rcases crashes error rfl with ⟨cause, rfl⟩ | ⟨_, same⟩
        · exact Frame.switches_of_refused rfl
        · exact Frame.switches_of_kept (congrArg (Machine.mode ∘ Session.machine) same)
      refine Frame.continues_of_still still rfl rfl rfl rfl onward.coherent
        (onward.mode.imp_right And.left) fun error crashed => ?_
      cases crashed
      exact (crashes _ rfl).imp_right And.left
  | running | halted =>
      cases ending with
      | crashed error => exact presents.continues onward scaled fun _ => Iff.rfl
      | running | halted =>
          exact presents.continues onward scaled fun _ => iff_of_false nofun nofun

/-- The acts of a frame begin with a tick. -/
theorem frame_continues (scaled : window.style.scale = some scale)
    (coherent : window.session.machine.Coherent) (events : List WindowEvent) :
    Frame.Continues ⟨window, (window.frame events).1, (window.frame events).2⟩ scale
      (.tick window.style.rate :: window.acts) := by
  obtain ⟨keypad, overlaid, paused, handled⟩ :=
    (window.act (.tick window.style.rate)).handleAll_keyed events
  rcases batch : (window.act (.tick window.style.rate)).handleAll events with ⟨isOpen, next⟩
  rw [batch] at handled
  obtain rfl : next = _ := handled
  let ticked := (window.act (.tick window.style.rate)).keyed keypad overlaid paused
  have coherent' : ticked.session.machine.Coherent :=
    ⟨coherent.stack, coherent.width, coherent.height⟩
  have waits (progress : Progress) (whole : ∀ error, progress ≠ .crashed error) :
      Frame.Continues ⟨window, progress, ticked⟩ scale (.tick window.style.rate :: window.acts) :=
    Frame.continues_of_still (Frame.switches_of_kept rfl) rfl rfl rfl rfl coherent' (.inl rfl)
      fun error crashed => absurd crashed (whole error)
  have rescaled : ticked.style.scale = some scale := scaled
  simp only [frame, batch]
  split
  · exact waits .halted nofun
  · split
    · exact waits .running nofun
    · have readied (ready : window.Ready scale) : ticked.Ready scale :=
        ⟨ready.shows, ready.surface, ready.room⟩
      obtain ⟨arrays, style, coherent, forward, surface, ⟨drawings, drawn, once, due⟩, crashes⟩ :=
        animate_continues rescaled coherent'
      exact ⟨arrays, style, coherent, forward, surface,
        ⟨drawings, drawn, once, fun through => due (through.imp_right readied)⟩,
        fun ready => crashes (readied ready)⟩

end Window

end Chip8
