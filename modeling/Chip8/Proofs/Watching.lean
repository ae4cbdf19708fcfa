import Chip8.Proofs.Coloring
import Chip8.Proofs.Fitting

/-!
This file proves what is seen in a window at the end of a frame: the current display, and the
overlay if it is switched on. An overlay that is switched off may still be seen until the next
drawing.
-/

namespace Chip8

/-- A lit pixel of a scheme never looks like a dark one. -/
theorem Scheme.on_ne_off (scheme : Scheme) : scheme.palette.on ≠ scheme.palette.off := by
  cases scheme <;> decide

/-- An overlay is drawn on top of its image. -/
def WindowAct.isOverlay : WindowAct → Bool
  | .overlay _ _ => true
  | .resize _ _ | .tick _ | .picture _ => false

namespace Window

variable {window : Window} {session : Session} {scale : Int} {frame : Frame} {due : Bool}
  {mode : Mode} {shown : Display}

/-- A frame goes through its cycles when its events neither close nor pause the window. -/
def Frame.Animated (frame : Frame) : Prop :=
  ∃ events ready,
    (frame.before.act (.tick frame.before.style.rate)).handleAll events = (true, ready) ∧
      ready.paused = false ∧ ready.animate = (frame.progress, frame.after)

/-- There is a drawing among the acts of the frame. -/
def Frame.draws (frame : Frame) : Bool := frame.acts.any WindowAct.isDrawing

/-- A frame draws the display at its end if this is due, and else it leaves the display alone. The
overlay makes a drawing due. -/
structure Frame.Redraws (frame : Frame) (scale : Int) (due : Bool) : Prop where
  acts : ∃ quiet, quiet.find? WindowAct.isDrawing = none ∧ frame.after.acts =
    (if due then [frame.after.view scale] else []) ++ (quiet ++ frame.before.acts)
  style : frame.after.style = frame.before.style
  overlaid : frame.after.overlaid = true → due = true
  display : due = false →
    frame.after.session.machine.display = frame.before.session.machine.display
  seen : frame.after.session.machine.redraw = false

theorem Frame.Redraws.drawing?_eq (redraws : frame.Redraws scale due) :
    frame.after.drawing? =
      if due then some (frame.after.view scale) else frame.before.drawing? := by
  obtain ⟨quiet, idle, acts⟩ := redraws.acts
  rw [drawing?, acts]
  cases due with
  | true => rw [if_pos rfl, if_pos rfl, List.singleton_append, List.find?_cons, isDrawing_view]
  | false => simp [drawing?, idle]

theorem Frame.Redraws.draws_eq (redraws : frame.Redraws scale due) : frame.draws = due := by
  obtain ⟨quiet, idle, acts⟩ := redraws.acts
  have own : frame.acts =
      ((if due then [frame.after.view scale] else []) ++ quiet).reverse := by
    rw [Frame.acts, record, record, acts, ← List.append_assoc, List.reverse_append, List.drop_left]
  have silent : quiet.any WindowAct.isDrawing = false := by
    simpa using idle
  rw [draws, own, List.any_reverse, List.any_append, silent, Bool.or_false]
  cases due with
  | true => simp [isDrawing_view]
  | false => rfl

/-- The cycles of a frame ask for a drawing when they change the display. -/
theorem cycles_upToDate (current : session.machine.UpToDate shown) (count : Nat) :
    (cycles session count).2.machine.UpToDate shown := by
  induction count generalizing session with
  | zero => exact current
  | succ count ih =>
      obtain ⟨logger, _, cycled⟩ := session.cycle_eq
      have stepped : (session.machine.obey (.step session.clock.read.1)).UpToDate shown :=
        current.obey nofun
      rw [cycles, cycled]
      split
      · rename_i same
        obtain ⟨_, rfl⟩ := Prod.mk.inj same
        exact ih stepped
      · exact stepped

theorem frameCycles_upToDate (current : window.session.machine.UpToDate shown) :
    window.frameCycles.2.machine.UpToDate shown := by
  unfold frameCycles
  split
  · exact cycles_upToDate current _
  · exact current

/-- A refresh that does not break off draws the display when this is due. -/
theorem refresh_of_whole (scaled : window.style.scale = some scale)
    (whole : ∀ error, window.refresh.1 ≠ .crashed error) :
    window.refresh.2 = window.refreshed scale := by
  rw [refresh_eq] at whole ⊢
  rw [refreshed]
  split
  · rename_i asked
    rw [if_pos asked] at whole
    have rescaled : window.looked.style.scale = some scale := scaled
    rcases draw_cases rescaled with ⟨error, drawn, _⟩ | drawn
    · exact absurd (congrArg Prod.fst drawn) (whole error)
    · rw [drawn]
      rfl
  · rfl

theorem present_of_whole (scaled : window.style.scale = some scale)
    (whole : ∀ error, (window.present mode).1 ≠ .crashed error) :
    (window.present mode).2 = (window.resized mode scale).refreshed scale := by
  unfold present resized at *
  split
  · rename_i same
    rw [if_pos same] at whole
    exact refresh_of_whole scaled whole
  · rename_i other
    rw [if_neg other] at whole
    rcases fit_cases scaled with ⟨error, refused⟩ | granted
    · rw [refused] at whole
      exact absurd rfl (whole _)
    · rw [granted] at whole ⊢
      exact refresh_of_whole scaled whole

/-- A frame that does not break off presents the machine after its cycles. -/
theorem animate_of_whole (scaled : window.style.scale = some scale)
    (whole : ∀ error, window.animate.1 ≠ .crashed error) :
    window.animate.2 = (resized { window with session := window.frameCycles.2 }
      window.session.machine.mode scale).refreshed scale := by
  rcases cycled : window.frameCycles with ⟨progress, session⟩
  let next : Window := { window with session := session }
  rcases presented : next.present window.session.machine.mode with ⟨ending, shown⟩
  have refreshes (calm : ∀ error, ending ≠ .crashed error) :
      shown = (next.resized window.session.machine.mode scale).refreshed scale := by
    have rescaled : next.style.scale = some scale := scaled
    have drawn := present_of_whole rescaled (by rw [presented]; exact calm)
    rwa [presented] at drawn
  simp only [animate, cycled, next, presented] at whole ⊢
  cases progress with
  | crashed error => exact absurd rfl (whole error)
  | running | halted =>
      cases ending with
      | crashed error => exact absurd rfl (whole error)
      | running | halted => exact refreshes fun _ crashed => by cases crashed

/-- A drawing is due when the display has changed or there is an overlay. -/
theorem animate_redraws (scaled : window.style.scale = some scale)
    (whole : ∀ error, window.animate.1 ≠ .crashed error) :
    Frame.Redraws ⟨window, window.animate.1, window.animate.2⟩ scale
      (window.frameCycles.2.machine.redraw || window.overlaid) := by
  have current : window.frameCycles.2.machine.UpToDate window.session.machine.display :=
    frameCycles_upToDate fun _ => rfl
  let next : Window := { window with session := window.frameCycles.2 }
  obtain ⟨surface, sizes, silent, resized⟩ :=
    next.exists_resized window.session.machine.mode scale
  rw [animate_of_whole scaled whole, resized, refreshed]
  split
  · rename_i asked
    exact ⟨⟨sizes, silent, by rw [if_pos asked]; rfl⟩, rfl, fun _ => asked,
      fun idle => absurd asked (Bool.eq_false_iff.mp idle), rfl⟩
  · rename_i idle
    refine ⟨⟨sizes, silent, by rw [if_neg idle]; rfl⟩, rfl, fun overlaid => ?_, fun _ => ?_, rfl⟩
    · exact absurd (by rw [show window.overlaid = true from overlaid, Bool.or_true]) idle
    · exact current (Bool.or_eq_false_iff.mp (Bool.eq_false_iff.mpr idle)).1

theorem Frame.Animated.redraws (animated : frame.Animated) (whole : frame.Whole)
    (scaled : frame.before.style.scale = some scale) : ∃ due, frame.Redraws scale due := by
  obtain ⟨events, ready, handled, _, animates⟩ := animated
  obtain ⟨keypad, overlaid, paused, keyed⟩ :=
    (frame.before.act (.tick frame.before.style.rate)).handleAll_keyed events
  rw [handled] at keyed
  have rescaled : ready.style.scale = some scale := by
    rw [show ready = _ from keyed]
    exact scaled
  have redraws := animate_redraws rescaled (by rw [animates]; exact whole)
  rw [animates, show ready = _ from keyed] at redraws
  obtain ⟨⟨quiet, silent, acts⟩, style, asks, display, seen⟩ := redraws
  refine ⟨_, ⟨quiet ++ [.tick frame.before.style.rate], ?_, ?_⟩, style, asks, display, seen⟩
  · rw [List.find?_append, silent]
    rfl
  · rw [acts, List.append_assoc quiet]
    rfl

/-- The latest drawing of a window shows the current display, and no frame waits. -/
structure Mirrored (window : Window) (style : WindowStyle) (scale : Int) : Prop where
  styled : window.style = style
  coherent : window.session.machine.Coherent
  seen : ∀ act, window.drawing? = some act → window.session.machine.redraw = false ∧
    act.image? = some (window.session.machine.display.image scale style.scheme.palette)

/-- At the end of a frame the latest drawing shows the current display and no other one. An overlay
that is switched on shows the current registers, and without it a frame that draws shows the plain
display. A frame that does not draw leaves the display alone and keeps the latest drawing. -/
structure Frame.Mirrors (frame : Frame) (scale : Int) (palette : Palette) : Prop where
  image : ∀ act, frame.after.drawing? = some act → ∀ display : Display,
    act.image? = some (display.image scale palette) ↔
      display = frame.after.session.machine.display
  overlay : frame.after.overlaid = true → frame.after.drawing? =
    some (.overlay (frame.after.session.machine.display.image scale palette)
      (overlayLines frame.after.session.machine))
  plain : frame.after.overlaid = false → frame.draws = true → frame.after.drawing? =
    some (.picture (frame.after.session.machine.display.image scale palette))
  still : frame.draws = false → frame.after.overlaid = false ∧
    frame.after.session.machine.display = frame.before.session.machine.display ∧
    frame.after.drawing? = frame.before.drawing?

theorem image?_view_eq (window : Window) (scale : Int) : (window.view scale).image? =
    some (window.session.machine.display.image scale window.style.scheme.palette) := by
  unfold view
  split
  · rfl
  · rfl

theorem Frame.Redraws.image (redraws : frame.Redraws scale due) {style : WindowStyle}
    (mirrored : frame.before.Mirrored style scale) {act : WindowAct}
    (drawn : frame.after.drawing? = some act) :
    act.image? = some (frame.after.session.machine.display.image scale style.scheme.palette) := by
  rw [redraws.drawing?_eq] at drawn
  cases due with
  | true =>
      obtain rfl := Option.some.inj drawn
      rw [image?_view_eq, redraws.style, mirrored.styled]
  | false =>
      rw [redraws.display rfl]
      exact (mirrored.seen act drawn).2

theorem Frame.Redraws.mirrors (redraws : frame.Redraws scale due) {style : WindowStyle}
    (mirrored : frame.before.Mirrored style scale) : frame.Mirrors scale style.scheme.palette where
  image act drawn display := by
    rw [redraws.image mirrored drawn, Option.some_inj,
      Display.image_inj style.scheme.on_ne_off, eq_comm]
  overlay overlaid := by
    rw [redraws.drawing?_eq, if_pos (redraws.overlaid overlaid), view, if_pos overlaid,
      redraws.style, mirrored.styled]
  plain overlaid draws := by
    rw [redraws.drawing?_eq, if_pos (redraws.draws_eq.symm.trans draws), view,
      if_neg (Bool.eq_false_iff.mp overlaid), redraws.style, mirrored.styled]
  still draws := by
    have idle : due = false := redraws.draws_eq.symm.trans draws
    refine ⟨Bool.eq_false_iff.mpr (mt redraws.overlaid (Bool.eq_false_iff.mp idle)),
      redraws.display idle, ?_⟩
    rw [redraws.drawing?_eq, if_neg (Bool.eq_false_iff.mp idle)]

/-- Only an overlay that is switched off can be seen against the switch, and no drawing of the frame
has covered it. -/
theorem Frame.Mirrors.stale {palette : Palette} (mirrors : frame.Mirrors scale palette)
    {act : WindowAct} (drawn : frame.after.drawing? = some act)
    (differs : act.isOverlay ≠ frame.after.overlaid) :
    frame.after.overlaid = false ∧ frame.draws = false ∧ frame.before.drawing? = some act := by
  cases overlaid : frame.after.overlaid with
  | true =>
      obtain rfl := Option.some.inj (drawn.symm.trans (mirrors.overlay overlaid))
      exact absurd overlaid.symm differs
  | false =>
      cases draws : frame.draws with
      | true =>
          obtain rfl := Option.some.inj (drawn.symm.trans (mirrors.plain overlaid draws))
          exact absurd overlaid.symm differs
      | false => exact ⟨rfl, rfl, (mirrors.still draws).2.2.symm.trans drawn⟩

/-- This frame handles the events. -/
def frameOn (window : Window) (events : List WindowEvent) : Frame :=
  ⟨window, (window.frame events).1, (window.frame events).2⟩

theorem animated_of_handled {events : List WindowEvent} {ready : Window}
    (handled : (window.act (.tick window.style.rate)).handleAll events = (true, ready))
    (running : ready.paused = false) : (window.frameOn events).Animated := by
  refine ⟨events, ready, handled, running, ?_⟩
  rw [frameOn, Window.frame, handled]
  simp [running]

theorem frameOn_mem_reel (window : Window) (events : List WindowEvent)
    (rest : List (List WindowEvent)) : window.frameOn events ∈ window.reel (events :: rest) := by
  rw [reel, frameOn]
  rcases window.frame events with ⟨progress, next⟩
  cases progress with
  | running | halted | crashed error => exact List.mem_cons_self

theorem mem_reel_cons {events : List WindowEvent} {rest : List (List WindowEvent)}
    (running : (window.frameOn events).progress = .running)
    (inside : frame ∈ (window.frameOn events).after.reel rest) :
    frame ∈ window.reel (events :: rest) := by
  rw [reel]
  unfold frameOn at running inside
  rcases framed : window.frame events with ⟨progress, next⟩
  rw [framed] at running inside
  obtain rfl : progress = .running := running
  exact List.mem_cons_of_mem _ inside

/-- A frame either waits for the next one or the end, or it goes through its cycles. -/
theorem frame_cases (window : Window) (events : List WindowEvent) :
    (window.frameOn events).Animated ∨ ∃ keypad overlaid paused,
      (window.frameOn events).after =
        (window.act (.tick window.style.rate)).keyed keypad overlaid paused := by
  obtain ⟨keypad, overlaid, paused, keyed⟩ :=
    (window.act (.tick window.style.rate)).handleAll_keyed events
  rcases handled : (window.act (.tick window.style.rate)).handleAll events with ⟨isOpen, next⟩
  rw [handled] at keyed
  obtain rfl : next = _ := keyed
  cases isOpen with
  | false =>
      refine .inr ⟨keypad, overlaid, paused, ?_⟩
      simp only [frameOn, Window.frame, handled, Bool.not_false, if_true]
  | true =>
      cases paused with
      | true =>
          refine .inr ⟨keypad, overlaid, true, ?_⟩
          simp only [frameOn, Window.frame, handled, Bool.not_true, Bool.false_eq_true, if_false]
          rfl
      | false => exact .inl (animated_of_handled handled rfl)

/-- A frame after which the run goes on leaves a window that mirrors the machine, and so does each
frame that goes through its cycles. -/
theorem Mirrored.frameOn {style : WindowStyle} (mirrored : window.Mirrored style scale)
    (scaled : style.scale = some scale) (events : List WindowEvent) :
    let frame := window.frameOn events
    (frame.Animated → frame.Whole → frame.Mirrors scale style.scheme.palette) ∧
      (frame.progress = .running → frame.after.Mirrored style scale) := by
  intro frame
  have rescaled : window.style.scale = some scale := by rw [mirrored.styled, scaled]
  have continues := frame_continues rescaled mirrored.coherent events
  refine ⟨fun animated whole => ?_, fun running =>
    ⟨continues.style.trans mirrored.styled, continues.coherent, fun act drawn => ?_⟩⟩
  · obtain ⟨due, redraws⟩ := animated.redraws whole rescaled
    exact redraws.mirrors mirrored
  · rcases window.frame_cases events with animated | ⟨keypad, overlaid, paused, waits⟩
    · have whole := Frame.whole_of_running running
      obtain ⟨due, redraws⟩ := Frame.Animated.redraws animated whole rescaled
      exact ⟨redraws.seen, redraws.image mirrored drawn⟩
    · -- A tick is no drawing, and the keys and the switches are no part of the display.
      rw [show frame.after = _ from waits] at drawn ⊢
      exact mirrored.seen act drawn

theorem reel_mirrors {style : WindowStyle} (scaled : style.scale = some scale)
    (mirrored : window.Mirrored style scale) (batches : List (List WindowEvent)) :
    ∀ frame ∈ window.reel batches, frame.Animated → frame.Whole →
      frame.Mirrors scale style.scheme.palette := by
  have step (next : Window) (events : List WindowEvent) (mirrored : next.Mirrored style scale) :=
    mirrored.frameOn scaled events
  exact reel_forall step batches mirrored

/-- At the end of each frame that is neither closed nor paused, the latest drawing shows the current
display, and it has the overlay if and only if the overlay is switched on. There is one exception:
an overlay that is switched off remains until the next frame that draws. -/
theorem window_mirrors_machine {machine : Machine} {style : WindowStyle}
    (reached : machine.Reachable) (scaled : style.scale = some scale) (clock : Clock)
    (logger : Logger) (arrays : ArrayLibrary) (batches : List (List WindowEvent)) :
    ∀ frame ∈ (create (.start machine clock logger) arrays style).runReel batches,
      frame.Animated → frame.Whole →
        frame.Mirrors scale style.scheme.palette ∧
          ∀ act, frame.after.drawing? = some act → act.isOverlay ≠ frame.after.overlaid →
            frame.after.overlaid = false ∧ frame.draws = false ∧
              frame.before.drawing? = some act := by
  intro frame inside animated whole
  let window := create (.start machine clock logger) arrays style
  have mirrored : (window.opened scale).Mirrored style scale :=
    ⟨rfl, reached.coherent, fun act drawn => nomatch drawn⟩
  have mirrors : frame.Mirrors scale style.scheme.palette := by
    rcases window.runReel_cases scaled batches with ⟨_, _, none⟩ | runs
    · rw [none] at inside
      cases inside
    · rw [runs] at inside
      exact reel_mirrors scaled mirrored batches frame inside animated whole
  exact ⟨mirrors, fun act => mirrors.stale⟩

/-- This program jumps to its start for ever. -/
def jumpInPlace : Machine := Machine.fresh.obeyAll [.load (.bytes [0x12, 0x00])]

/-- The window goes through one cycle in a frame. -/
def jumping : Window :=
  create (.start jumpInPlace ⟨[]⟩ (.create {} ⟨[]⟩)) .roomy { cyclesPerFrame := some 1 }

/-- The overlay key is pressed in two frames. -/
def switchTwice : List (List WindowEvent) := [[.keyDown .f1], [.keyDown .f1]]

theorem runReel_jumping :
    jumping.runReel switchTwice = (jumping.opened 10).reel switchTwice := by
  have granted : jumping.fit.1 = .running := by decide +kernel
  refine (jumping.runReel_cases rfl switchTwice).resolve_left fun ⟨error, crashed, _⟩ => ?_
  rw [granted] at crashed
  cases crashed

theorem animated_of_switch (running : window.paused = false) :
    (window.frameOn [.keyDown .f1]).Animated := by
  let ticked := window.act (.tick window.style.rate)
  have handled : ticked.handleAll [.keyDown .f1] =
    (true, { ticked with overlaid := !window.overlaid }) := rfl
  exact animated_of_handled handled running

/-- The overlay is seen in the frame that switches it on. -/
theorem window_mirrors_jumping :
    jumpInPlace.Reachable ∧ jumping.style.scale = some 10 ∧
      ∃ frame ∈ jumping.runReel switchTwice, frame.Animated ∧ frame.Whole ∧
        frame.after.overlaid = true ∧
        frame.after.drawing? = some (.overlay
          (frame.after.session.machine.display.image 10 Scheme.classic.palette)
          (overlayLines frame.after.session.machine)) := by
  let frame := (jumping.opened 10).frameOn [.keyDown .f1]
  have reached : jumpInPlace.Reachable := Machine.reachable_fresh _
  have inside : frame ∈ jumping.runReel switchTwice := by
    rw [runReel_jumping]
    exact frameOn_mem_reel _ _ _
  have animated : frame.Animated := animated_of_switch (by decide +kernel)
  have whole : frame.Whole := Frame.whole_of_running (by decide +kernel)
  have overlaid : frame.after.overlaid = true := by decide +kernel
  have mirrors : frame.Mirrors 10 Scheme.classic.palette :=
    (window_mirrors_machine reached rfl ⟨[]⟩ (.create {} ⟨[]⟩) .roomy switchTwice frame
      inside animated whole).1
  exact ⟨reached, rfl, frame, inside, animated, whole, overlaid, mirrors.overlay overlaid⟩

/-- The next frame switches the overlay off, but it does not draw, and the overlay is still seen. -/
theorem overlay_outlives_switch :
    jumpInPlace.Reachable ∧ jumping.style.scale = some 10 ∧
      ∃ frame ∈ jumping.runReel switchTwice, frame.Animated ∧ frame.Whole ∧
        frame.after.overlaid = false ∧
        frame.after.drawing?.map WindowAct.isOverlay = some true := by
  let first := (jumping.opened 10).frameOn [.keyDown .f1]
  let second := first.after.frameOn [.keyDown .f1]
  have running : first.progress = .running := by decide +kernel
  have inside : second ∈ jumping.runReel switchTwice := by
    rw [runReel_jumping]
    exact mem_reel_cons running (frameOn_mem_reel _ _ _)
  exact ⟨Machine.reachable_fresh _, rfl, second, inside, animated_of_switch (by decide +kernel),
    Frame.whole_of_running (by decide +kernel), by decide +kernel, by decide +kernel⟩

end Window

end Chip8
