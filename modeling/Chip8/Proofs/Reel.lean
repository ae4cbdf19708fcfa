import Chip8.Frontend.Window

/-!
This file cuts a run in a window into its frames, and proves that the frames make up the run.
-/

namespace Chip8.Window

variable {window : Window}

/-- A frame of a run stands between two windows. -/
structure Frame where
  before : Window
  progress : Progress
  after : Window

namespace Frame

variable {frame : Frame}

/-- The acts of a frame in their order. -/
def acts (frame : Frame) : List WindowAct :=
  frame.after.record.drop frame.before.record.length

/-- A frame breaks off at a reading that the timers refuse. -/
def refused (frame : Frame) : Bool :=
  match frame.progress with
  | .crashed (.clock _) => true
  | _ => false

theorem refused_eq_false_iff :
    frame.refused = false ↔ ∀ cause, frame.progress ≠ .crashed (.clock cause) := by
  unfold refused
  split
  · rename_i cause refusal
    exact iff_of_false nofun fun timeless => timeless cause refusal
  · rename_i timeless
    exact iff_of_true rfl timeless

/-- A frame that does not break off is whole. -/
def Whole (frame : Frame) : Prop := ∀ error, frame.progress ≠ .crashed error

theorem whole_of_running (running : frame.progress = .running) : frame.Whole := by
  intro error crashed
  rw [running] at crashed
  cases crashed

theorem Whole.calm (whole : frame.Whole) : frame.refused = false :=
  refused_eq_false_iff.mpr fun cause => whole (.clock cause)

/-- A frame ends in another mode than it began. -/
def switches (frame : Frame) : Bool :=
  !frame.refused && decide (frame.before.session.machine.mode ≠ frame.after.session.machine.mode)

theorem switches_iff (calm : frame.refused = false) :
    frame.switches = true ↔
      frame.before.session.machine.mode ≠ frame.after.session.machine.mode := by
  rw [switches, calm, Bool.not_false, Bool.true_and, decide_eq_true_iff]

theorem switches_of_refused (refused : frame.refused = true) : frame.switches = false := by
  simp [switches, refused]

theorem switches_of_kept
    (kept : frame.after.session.machine.mode = frame.before.session.machine.mode) :
    frame.switches = false := by
  simp [switches, kept]

/-- A frame keeps the mode or moves on to the square one. -/
def Forward (frame : Frame) : Prop :=
  frame.after.session.machine.mode = frame.before.session.machine.mode ∨
    frame.after.session.machine.mode = .eti64x64

end Frame

/-- The frames of a run follow each other, and the last one ends it. -/
def reel (window : Window) : List (List WindowEvent) → List Frame
  | [] => [⟨window, (window.frame [.quit]).1, (window.frame [.quit]).2⟩]
  | events :: rest =>
      match window.frame events with
      | (.running, next) => ⟨window, .running, next⟩ :: next.reel rest
      | (progress, next) => [⟨window, progress, next⟩]

/-- A window that is refused at first has no frames. -/
def runReel (window : Window) (batches : List (List WindowEvent)) : List Frame :=
  match window.fit with
  | (.crashed _, _) => []
  | (_, fitted) => { fitted with session := fitted.session.readWall.2 }.reel batches

/-- The frames of a run are good when each frame is, as long as the windows between them are. -/
theorem reel_forall {Holds : Window → Prop} {Good : Frame → Prop}
    (step : ∀ window events, Holds window →
      let frame : Frame := ⟨window, (window.frame events).1, (window.frame events).2⟩
      Good frame ∧ (frame.progress = .running → Holds frame.after))
    (batches : List (List WindowEvent)) (holds : Holds window) :
    ∀ frame ∈ window.reel batches, Good frame := by
  induction batches generalizing window with
  | nil => exact List.forall_mem_singleton.mpr (step window [.quit] holds).1
  | cons events rest ih =>
      have here := step window events holds
      rw [reel]
      rcases framed : window.frame events with ⟨progress, next⟩
      rw [framed] at here
      cases progress with
      | running => exact List.forall_mem_cons.mpr ⟨here.1, ih (here.2 rfl)⟩
      | halted | crashed error => exact List.forall_mem_singleton.mpr here.1

/-- The last frame ends the run. -/
theorem exists_last_frame (window : Window) (batches : List (List WindowEvent)) :
    ∃ frame ∈ window.reel batches, window.frames batches = (frame.progress, frame.after) := by
  induction batches generalizing window with
  | nil => exact ⟨_, List.mem_singleton.mpr rfl, rfl⟩
  | cons events rest ih =>
      rw [reel, frames]
      rcases framed : window.frame events with ⟨progress, next⟩
      cases progress with
      | running =>
          obtain ⟨frame, inside, same⟩ := ih next
          exact ⟨frame, List.mem_cons_of_mem _ inside, same⟩
      | halted | crashed error => exact ⟨_, List.mem_singleton.mpr rfl, rfl⟩

/-- The record of a run holds the acts of its frames. -/
theorem record_frames (batches : List (List WindowEvent))
    (continued : ∀ frame ∈ window.reel batches,
      frame.after.record = frame.before.record ++ frame.acts) :
    (window.frames batches).2.record =
      window.record ++ (window.reel batches).flatMap Frame.acts := by
  induction batches generalizing window with
  | nil =>
      rw [reel] at continued ⊢
      rw [List.flatMap_singleton]
      exact continued _ (List.mem_singleton.mpr rfl)
  | cons events rest ih =>
      rw [reel] at continued ⊢
      rw [frames]
      rcases framed : window.frame events with ⟨progress, next⟩
      rw [framed] at continued
      cases progress with
      | running =>
          obtain ⟨here, later⟩ := List.forall_mem_cons.mp continued
          rw [List.flatMap_cons, ← List.append_assoc, ← here]
          exact ih later
      | halted | crashed error =>
          rw [List.flatMap_singleton]
          exact continued _ (List.mem_singleton.mpr rfl)

/-- No switch is left to a window in the square mode, and one at most to any other window. -/
def switchesLeft (window : Window) : Nat :=
  if window.session.machine.mode = .eti64x64 then 0 else 1

theorem switchesLeft_le_one (window : Window) : window.switchesLeft ≤ 1 := by
  unfold switchesLeft
  split
  · exact Nat.zero_le 1
  · exact Nat.le_refl 1

/-- A switch is used up by the frame that makes it. -/
theorem Frame.Forward.switchesLeft_le {frame : Frame} (forward : frame.Forward) :
    (if frame.switches then 1 else 0) + frame.after.switchesLeft ≤ frame.before.switchesLeft := by
  unfold switchesLeft
  by_cases switched : frame.switches = true
  · have changed : frame.before.session.machine.mode ≠ frame.after.session.machine.mode := by
      simp only [switches, Bool.and_eq_true, decide_eq_true_iff] at switched
      exact switched.2
    have square := forward.resolve_left changed.symm
    exact Nat.le_of_eq (by rw [if_pos switched, if_pos square, if_neg (square ▸ changed)])
  · rw [if_neg switched, Nat.zero_add]
    rcases forward with same | square
    · exact Nat.le_of_eq (by rw [same])
    · rw [if_pos square]
      exact Nat.zero_le _

/-- The mode switches once at most. -/
theorem countP_switches_le (batches : List (List WindowEvent))
    (forward : ∀ frame ∈ window.reel batches, frame.Forward) :
    (window.reel batches).countP Frame.switches ≤ window.switchesLeft := by
  have ends {frame : Frame} (forward : frame.Forward) :
      [frame].countP Frame.switches ≤ frame.before.switchesLeft := by
    rw [List.countP_singleton]
    exact Nat.le_of_add_right_le forward.switchesLeft_le
  induction batches generalizing window with
  | nil => exact ends (forward _ (List.mem_singleton.mpr rfl))
  | cons events rest ih =>
      rw [reel] at forward ⊢
      rcases framed : window.frame events with ⟨progress, next⟩
      rw [framed] at forward
      cases progress with
      | running =>
          obtain ⟨here, later⟩ := List.forall_mem_cons.mp forward
          rw [List.countP_cons, Nat.add_comm]
          exact Nat.le_trans (Nat.add_le_add_left (ih later) _) here.switchesLeft_le
      | halted | crashed error => exact ends (forward _ (List.mem_singleton.mpr rfl))

end Chip8.Window
