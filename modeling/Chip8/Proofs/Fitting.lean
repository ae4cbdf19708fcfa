import Chip8.Proofs.Presenting

/-!
This file proves that each picture of a run fills the window, which changes its size at most once.
-/

namespace Chip8

/-- The size that the window system is asked for. -/
def WindowAct.size? : WindowAct → Option (Int × Int)
  | .resize width height => some (width, height)
  | .tick _ | .picture _ | .overlay _ _ => none

/-- The image of a drawing. -/
def WindowAct.image? : WindowAct → Option Image
  | .picture image | .overlay image _ => some image
  | .resize _ _ | .tick _ => none

/-- The latest act comes first, and the latest size before a picture is the size of its image. -/
inductive PicturesFit : List WindowAct → Prop where
  | nil : PicturesFit []
  | cons {act : WindowAct} {earlier : List WindowAct}
      (fills : ∀ image, act.image? = some image →
        earlier.findSome? WindowAct.size? = some (↑image.width, ↑image.height))
      (before : PicturesFit earlier) : PicturesFit (act :: earlier)

namespace Window

variable {window : Window} {scale : Int} {frame : Frame}

/-- The window system was asked for this size last, and the surface is expected to have it. -/
def requested? (window : Window) : Option (Int × Int) := window.acts.findSome? WindowAct.size?

/-- The window was asked for the size of its display last. -/
structure Fitted (window : Window) (scale : Int) : Prop where
  scaled : window.style.scale = some scale
  coherent : window.session.machine.Coherent
  requested : window.requested? = some (window.size scale)

/-- An image in the blocks of its scale is as large as the display in this scale. -/
theorem image?_view (positive : 1 ≤ scale) (coherent : window.session.machine.Coherent)
    {image : Image} (shown : (window.view scale).image? = some image) :
    ((image.width : Int), (image.height : Int)) = window.size scale := by
  have same : image =
      window.session.machine.display.image scale window.style.scheme.palette := by
    unfold view at shown
    split at shown
    · exact (Option.some.inj shown).symm
    · exact (Option.some.inj shown).symm
  have wide : image.width = window.session.machine.display.width * Display.blockSide scale := by
    rw [same]
    rfl
  have tall : image.height = window.session.machine.display.height * Display.blockSide scale := by
    rw [same]
    rfl
  rw [wide, tall, coherent.width, coherent.height, Int.natCast_mul, Int.natCast_mul,
    Display.coe_blockSide_of_le positive]
  rfl

theorem size?_view (window : Window) (scale : Int) : (window.view scale).size? = none := by
  unfold view
  split
  · rfl
  · rfl

/-- A frame that does not break off at a reading has asked for the size of its display. -/
theorem Frame.Continues.fitted
    (continues : frame.Continues scale (.tick frame.before.style.rate :: frame.before.acts))
    (fitted : frame.before.Fitted scale) (calm : frame.refused = false) :
    frame.after.Fitted scale := by
  refine ⟨(congrArg WindowStyle.scale continues.style).trans fitted.scaled, continues.coherent, ?_⟩
  obtain ⟨drawings, acts, once, _⟩ := continues.acts
  have unsized : drawings.findSome? WindowAct.size? = none := by
    rcases once with rfl | ⟨_, rfl⟩
    · rfl
    · rw [List.findSome?_singleton, size?_view]
  rw [requested?, acts, List.findSome?_append, unsized, Option.none_or]
  by_cases switched : frame.switches = true
  · rw [resizing, if_pos switched]
    rfl
  · rw [resizing, if_neg switched]
    have kept : frame.before.session.machine.mode = frame.after.session.machine.mode :=
      not_not.mp (mt (switches_iff calm).mpr switched)
    have earlier : frame.before.acts.findSome? WindowAct.size? = some (frame.after.size scale) :=
      fitted.requested.trans (congrArg some (size_congr kept scale))
    exact earlier

/-- A window that is ready is ready after a whole frame, too. -/
theorem Frame.Continues.ready {earlier : List WindowAct} (continues : frame.Continues scale earlier)
    (whole : frame.Whole) (ready : frame.before.Ready scale) : frame.after.Ready scale where
  shows := ready.shows.onward continues.forward
  surface := continues.surface whole ready.surface
  room := by
    rw [continues.arrays]
    exact ready.room

/-- Each picture of a frame fills the surface. -/
theorem Frame.Continues.picturesFit (positive : 1 ≤ scale)
    (continues : frame.Continues scale (.tick frame.before.style.rate :: frame.before.acts))
    (fitted : frame.before.Fitted scale) (fit : PicturesFit frame.before.acts) :
    PicturesFit frame.after.acts := by
  obtain ⟨drawings, acts, once, _⟩ := continues.acts
  have resized : PicturesFit
      (frame.resizing scale ++ .tick frame.before.style.rate :: frame.before.acts) := by
    unfold resizing
    split
    · exact .cons nofun (.cons nofun fit)
    · exact .cons nofun fit
  rcases once with rfl | ⟨calm, rfl⟩
  · rw [acts]
    exact resized
  -- The drawing is no size itself, so its surface is the one at the end of the frame.
  · have surface := (continues.fitted fitted calm).requested
    rw [requested?, acts, List.singleton_append, List.findSome?_cons, size?_view] at surface
    rw [acts]
    refine .cons (fun image shown => ?_) resized
    exact surface.trans (congrArg some (image?_view positive continues.coherent shown).symm)

/-- Behind the tick of a frame stand its new size, if there is one, and its drawing. -/
theorem Frame.Continues.acts_eq
    (continues : frame.Continues scale (.tick frame.before.style.rate :: frame.before.acts)) :
    frame.after.record = frame.before.record ++ frame.acts ∧
      ∃ drawings, frame.acts =
        .tick frame.before.style.rate :: (frame.resizing scale ++ drawings) ∧
        (drawings = [] ∨ drawings = [frame.after.view scale]) ∧
        (frame.Whole ∨ frame.before.Ready scale → frame.switches = true →
          drawings = [frame.after.view scale]) := by
  obtain ⟨drawings, acts, once, due⟩ := continues.acts
  have turned : drawings.reverse = drawings := by
    rcases once with rfl | ⟨_, rfl⟩
    · rfl
    · rfl
  have turned' : (frame.resizing scale).reverse = frame.resizing scale := by
    unfold resizing
    split
    · rfl
    · rfl
  have record : frame.after.record = frame.before.record ++
      .tick frame.before.style.rate :: (frame.resizing scale ++ drawings) := by
    simp [Window.record, acts, turned, turned']
  have own : frame.acts = .tick frame.before.style.rate :: (frame.resizing scale ++ drawings) := by
    rw [Frame.acts, record, List.drop_left]
  exact ⟨by rw [record, own], drawings, own, once.imp_right And.right, due⟩

/-- What a frame has to do with the window: the surface is as large as the display in its scale, the
size changes exactly when the mode does, and only the display is drawn, once at most. -/
structure Frame.Fits (frame : Frame) (scale : Int) : Prop where
  surface : frame.refused = false → frame.after.requested? =
    some (frame.after.session.machine.display.width * scale,
      frame.after.session.machine.display.height * scale)
  acts : ∃ drawings, frame.acts =
    .tick frame.before.style.rate :: (frame.resizing scale ++ drawings) ∧
    (drawings = [] ∨ drawings = [frame.after.view scale])

/-- A frame of a run starts with a surface for its display and goes on from there. -/
structure Frame.Sound (frame : Frame) (scale : Int) (start : Window) : Prop where
  fitted : frame.before.Fitted scale
  ready : start.Ready scale → frame.before.Ready scale
  continues : frame.Continues scale (.tick frame.before.style.rate :: frame.before.acts)
  pictures : PicturesFit frame.after.acts

theorem reel_sound (positive : 1 ≤ scale) (fitted : window.Fitted scale)
    (pictures : PicturesFit window.acts) (batches : List (List WindowEvent)) :
    ∀ frame ∈ window.reel batches, frame.Sound scale window := by
  -- These three facts hold of each window between two frames.
  let Holds (next : Window) : Prop := next.Fitted scale ∧ PicturesFit next.acts ∧
    (window.Ready scale → next.Ready scale)
  have step (next : Window) (events : List WindowEvent) (holds : Holds next) :
      let frame : Frame := ⟨next, (next.frame events).1, (next.frame events).2⟩
      frame.Sound scale window ∧ (frame.progress = .running → Holds frame.after) := by
    intro frame
    obtain ⟨fitted, pictures, ready⟩ := holds
    have continues : frame.Continues scale (.tick frame.before.style.rate :: frame.before.acts) :=
      frame_continues fitted.scaled fitted.coherent events
    have fit := continues.picturesFit positive fitted pictures
    refine ⟨⟨fitted, ready, continues, fit⟩, fun running => ?_⟩
    have whole := Frame.whole_of_running running
    exact ⟨continues.fitted fitted whole.calm, fit,
      fun begun => continues.ready whole (ready begun)⟩
  exact reel_forall step batches ⟨fitted, pictures, id⟩

theorem Frame.Sound.fits {frame : Frame} {start : Window} (sound : frame.Sound scale start) :
    frame.Fits scale where
  surface calm := by
    have surface := (sound.continues.fitted sound.fitted calm).requested
    have coherent := sound.continues.coherent
    rw [coherent.width, coherent.height]
    exact surface
  acts := by
    obtain ⟨_, drawings, acts, once, _⟩ := sound.continues.acts_eq
    exact ⟨drawings, acts, once⟩

/-- The frames ask for a new size as often as they switch the mode. -/
theorem length_sizes {reel : List Frame} (fits : ∀ frame ∈ reel, frame.Fits scale) :
    ((reel.flatMap Frame.acts).filterMap WindowAct.size?).length = reel.countP Frame.switches := by
  induction reel with
  | nil => rfl
  | cons frame rest ih =>
      obtain ⟨here, later⟩ := List.forall_mem_cons.mp fits
      obtain ⟨drawings, acts, once⟩ := here.acts
      have unsized : drawings.filterMap WindowAct.size? = [] := by
        rcases once with rfl | rfl
        · rfl
        · rw [List.filterMap_cons, size?_view, List.filterMap_nil]
      have sizes : (frame.acts.filterMap WindowAct.size?).length =
          if frame.switches then 1 else 0 := by
        rw [acts, List.filterMap_cons_none rfl, List.filterMap_append, unsized, List.append_nil,
          Frame.resizing]
        cases frame.switches with
        | true => rfl
        | false => rfl
      rw [List.flatMap_cons, List.filterMap_append, List.length_append, ih later, sizes,
        List.countP_cons, Nat.add_comm]

/-- A run adds the acts of its frames to the record, and its frames are sound. Where the window was
ready for the first frame, only a reading or a missing number of cycles breaks off the run. -/
structure RunsIn (result : Progress × Window) (reel : List Frame) (earlier : List WindowAct)
    (scale : Int) (start : Window) : Prop where
  record : result.2.record = earlier ++ reel.flatMap Frame.acts
  pictures : PicturesFit result.2.acts
  frames : ∀ frame ∈ reel, frame.Sound scale start
  switches : reel.countP Frame.switches ≤ 1
  crashes : start.Ready scale → ∀ error, result.1 = .crashed error →
    (∃ cause, error = .clock cause) ∨ error = .window .noCycles

theorem frames_runsIn (positive : 1 ≤ scale) (fitted : window.Fitted scale)
    (pictures : PicturesFit window.acts) (batches : List (List WindowEvent)) :
    RunsIn (window.frames batches) (window.reel batches) window.record scale window := by
  have sound := reel_sound positive fitted pictures batches
  obtain ⟨last, inside, ends⟩ := window.exists_last_frame batches
  refine ⟨record_frames batches fun frame inside => (sound frame inside).continues.acts_eq.1, ?_,
    sound, ?_, fun ready error crashed => ?_⟩
  · rw [ends]
    exact (sound last inside).pictures
  · exact Nat.le_trans (countP_switches_le batches fun frame inside =>
      (sound frame inside).continues.forward) window.switchesLeft_le_one
  · rw [ends] at crashed
    exact (sound last inside).continues.crashes ((sound last inside).ready ready) error crashed

/-- The frames of a run start with a window that has its size. -/
def opened (window : Window) (scale : Int) : Window :=
  { window.fitted scale with session := window.session.readWall.2 }

/-- There are no frames if the window system refuses the window. -/
theorem runReel_cases (window : Window) (scaled : window.style.scale = some scale)
    (batches : List (List WindowEvent)) :
    (∃ error, window.fit.1 = .crashed error ∧ window.runReel batches = []) ∨
      window.runReel batches = (window.opened scale).reel batches := by
  rcases fit_cases scaled with ⟨error, refused⟩ | granted
  · exact .inl ⟨_, by rw [refused], by simp only [runReel, refused]⟩
  · refine .inr ?_
    simp only [runReel, granted]
    rfl

/-- The first act of a run asks for the size of the window. -/
theorem run_runsIn (window : Window) (positive : 1 ≤ scale)
    (scaled : window.style.scale = some scale) (coherent : window.session.machine.Coherent)
    (fresh : window.acts = []) (batches : List (List WindowEvent)) :
    RunsIn (window.run batches) (window.runReel batches)
      [.resize (window.size scale).1 (window.size scale).2] scale (window.opened scale) := by
  have only : (window.opened scale).acts =
      [.resize (window.size scale).1 (window.size scale).2] := congrArg _ fresh
  have pictures : PicturesFit (window.opened scale).acts := by
    rw [only]
    exact .cons nofun .nil
  have requested : (window.opened scale).requested? = some (window.size scale) := by
    rw [requested?, only]
    rfl
  have recorded : (window.opened scale).record =
      [.resize (window.size scale).1 (window.size scale).2] := by
    rw [Window.record, only, List.reverse_singleton]
  rcases fit_cases scaled with ⟨error, refused⟩ | granted
  · simp only [run, runReel, refused]
    refine ⟨?_, ?_, List.forall_mem_nil _, Nat.zero_le 1, fun ready => ?_⟩
    · exact recorded
    · exact pictures
    · have visible : window.Visible scale := ⟨scaled, ready.room, coherent, ready.shows⟩
      have shown := refused.symm.trans (fit_of_visible visible)
      cases shown
  · have fitted : (window.opened scale).Fitted scale := ⟨scaled, coherent, requested⟩
    have runs := frames_runsIn positive fitted pictures batches
    rw [recorded] at runs
    simp only [run, runReel, granted]
    -- The summary at the end changes neither the acts nor the outcome.
    exact ⟨runs.record, runs.pictures, runs.frames, runs.switches, runs.crashes⟩

/-- The window system keeps the size of a mode as it is asked for. -/
structure Exact (mode : Mode) (scale : Int) : Prop where
  wide : wrapWord (mode.width * scale) = mode.width * scale
  tall : wrapWord (mode.height * scale) = mode.height * scale

theorem Exact.shows {mode : Mode} (exact : Exact mode scale) (positive : 1 ≤ scale)
    (granted : refusal? (mode.width * scale) (mode.height * scale) = none) : Shows mode scale := by
  have side := Display.coe_blockSide_of_le positive
  exact ⟨granted, by rw [side, exact.wide], by rw [side, exact.tall]⟩

/-- A window that is refused at first runs no frame. -/
theorem run_of_refusal (window : Window) {error : WindowError}
    (scaled : window.style.scale = some scale)
    (refused : refusal? (window.size scale).1 (window.size scale).2 = some error)
    (batches : List (List WindowEvent)) :
    (window.run batches).1 = .crashed (.window error) ∧ window.runReel batches = [] := by
  have fitted : window.fit = (.crashed (.window error),
      window.act (.resize (window.size scale).1 (window.size scale).2)) := by
    simp only [fit, scaled, refused]
  constructor
  · simp only [run, fitted]
  · simp only [runReel, fitted]

/-- Each picture of a run fills the window, whose size follows the display. The window is resized in
the frames in which the mode switches, of which there is one at most, and such a frame draws the
display behind the new size unless it breaks off. Where the window system keeps to the size that it
is asked for and the array library has room for the pictures, no picture is refused. -/
theorem window_fits_pictures {machine : Machine} {style : WindowStyle} {scale : Int}
    (reached : machine.Reachable) (scaled : style.scale = some scale) (positive : 1 ≤ scale)
    (clock : Clock) (logger : Logger) (arrays : ArrayLibrary) (batches : List (List WindowEvent)) :
    let window := create (.start machine clock logger) arrays style
    let result := window.run batches
    let reel := window.runReel batches
    result.2.record =
        .resize (machine.display.width * scale) (machine.display.height * scale) ::
          reel.flatMap Frame.acts ∧
      PicturesFit result.2.acts ∧
      (∀ frame ∈ reel, frame.Fits scale) ∧
      (result.2.record.filterMap WindowAct.size?).length ≤ 2 ∧
      (∀ frame ∈ reel, frame.switches = true →
        frame.Whole ∨ Exact machine.mode scale ∧ arrays.HasRoom (pictureBytes scale) →
          frame.acts = [.tick frame.before.style.rate,
            .resize (frame.after.session.machine.display.width * scale)
              (frame.after.session.machine.display.height * scale),
            frame.after.view scale]) ∧
      (Exact machine.mode scale → arrays.HasRoom (pictureBytes scale) →
        ∀ error, result.1 = .crashed error →
          (∃ cause, error = .clock cause) ∨ error = .window .noCycles ∨
            ∃ refusal, error = .window refusal ∧ reel = [] ∧
              refusal? (machine.mode.width * scale) (machine.mode.height * scale) =
                some refusal) := by
  intro window result reel
  have coherent := reached.coherent
  have runs : RunsIn result reel [.resize (window.size scale).1 (window.size scale).2] scale
      (window.opened scale) := run_runsIn window positive scaled coherent rfl batches
  have fits (frame : Frame) (inside : frame ∈ reel) : frame.Fits scale :=
    (runs.frames frame inside).fits
  -- A window that is refused at first has no frames, and any other one is ready for them.
  have ready (exact : Exact machine.mode scale) (room : arrays.HasRoom (pictureBytes scale))
      (granted : refusal? (machine.mode.width * scale) (machine.mode.height * scale) = none) :
      (window.opened scale).Ready scale :=
    ⟨exact.shows positive granted, window.hasSurface_fitted scale, room⟩
  have refuses (refusal : WindowError)
      (refused : refusal? (machine.mode.width * scale) (machine.mode.height * scale) =
        some refusal) : result.1 = .crashed (.window refusal) ∧ reel = [] :=
    run_of_refusal window scaled refused batches
  refine ⟨?_, runs.pictures, fits, ?_, fun frame inside switched through => ?_,
    fun exact room error crashed => ?_⟩
  · rw [runs.record, coherent.width, coherent.height]
    rfl
  · rw [runs.record, List.filterMap_append, List.length_append, length_sizes fits]
    exact Nat.add_le_add_left runs.switches 1
  · have sound := runs.frames frame inside
    obtain ⟨_, drawings, acts, _, due⟩ := sound.continues.acts_eq
    have shown : frame.Whole ∨ frame.before.Ready scale := by
      refine through.imp_right fun ⟨exact, room⟩ => sound.ready (ready exact room ?_)
      refine Option.eq_none_iff_forall_ne_some.mpr fun refusal refused => ?_
      rw [(refuses refusal refused).2] at inside
      cases inside
    rw [acts, due shown switched, Frame.resizing, if_pos switched, sound.continues.coherent.width,
      sound.continues.coherent.height]
    rfl
  · cases granted : refusal? (machine.mode.width * scale) (machine.mode.height * scale) with
    | some refusal =>
        obtain ⟨crashes, still⟩ := refuses refusal granted
        exact .inr (.inr ⟨refusal, Progress.crashed.inj (crashed.symm.trans crashes), still, rfl⟩)
    | none => exact (runs.crashes (ready exact room granted) error crashed).imp_right .inl

/-- This program switches the mode at once. -/
def switchAtOnce : Machine := Machine.fresh.obeyAll [.load (.bytes [0x12, 0x60])]

/-- The window grows from the size of the usual display to that of the square one. -/
theorem window_fits_switchAtOnce :
    (switchAtOnce.Reachable ∧ ({} : WindowStyle).scale = some 10 ∧ (1 : Int) ≤ 10 ∧
      Exact switchAtOnce.mode 10) ∧
      ∃ result, (create (.start switchAtOnce ⟨[]⟩ (.create {} ⟨[]⟩)) .roomy {}).run [[]] = result ∧
        PicturesFit result.2.acts ∧
        result.2.record.filterMap WindowAct.size? = [(640, 320), (640, 640)] := by
  have reached : switchAtOnce.Reachable := Machine.reachable_fresh _
  have mode : switchAtOnce.mode = .basic64x32 := by decide +kernel
  have exact : Exact switchAtOnce.mode 10 := by
    rw [mode]
    exact ⟨by decide, by decide⟩
  obtain ⟨_, pictures, _⟩ := @window_fits_pictures switchAtOnce {} 10 reached rfl (by decide) ⟨[]⟩
    (.create {} ⟨[]⟩) .roomy [[]]
  exact ⟨⟨reached, rfl, by decide, exact⟩, _, rfl, pictures, by decide +kernel⟩

end Window

end Chip8
