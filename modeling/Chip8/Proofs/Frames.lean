import Chip8.Proofs.Reachable

/-!
This file proves that a frontend which looks at the display from time to time misses no picture.
-/

namespace Chip8.Machine

variable {machine next : Machine} {command : Command} {shown : Display}

/-- Only a look at the display hands out a frame. -/
def frame? (machine : Machine) : Command → Option Display
  | .consumeFrame => machine.consumeFrame.1
  | _ => none

/-- The frames of a history stand in the order in which they are handed out. -/
def frames (machine : Machine) : List Command → List Display
  | [] => []
  | command :: rest => (machine.frame? command).toList ++ (machine.obey command).frames rest

/-- The picture shown is the display, unless a new frame waits to be handed out. -/
def UpToDate (machine : Machine) (shown : Display) : Prop :=
  machine.redraw = false → machine.display = shown

/-- The last frame is the last of the later ones, or else the one before them. -/
theorem getLastD_frame (frame? : Option Display) (later : List Display) (shown : Display) :
    (frame?.toList ++ later).getLastD shown = later.getLastD (frame?.getD shown) := by
  cases frame? with
  | none => rfl
  | some frame => exact List.getLastD_cons

theorem frame?_of_ne (other : command ≠ .consumeFrame) : machine.frame? command = none := by
  cases command with
  | consumeFrame => contradiction
  | _ => rfl

theorem frames_append (machine : Machine) (earlier later : List Command) :
    machine.frames (earlier ++ later) =
      machine.frames earlier ++ (machine.obeyAll earlier).frames later := by
  induction earlier generalizing machine with
  | nil => rfl
  | cons command rest ih =>
      rw [List.cons_append, frames, frames, ih, List.append_assoc]
      rfl

/-- An instruction that touches the display asks for a new frame. -/
theorem Change.display (change : machine.Change next) :
    next.redraw = true ∨ next.redraw = machine.redraw ∧ next.display = machine.display := by
  cases change with
  | work | call | back => exact .inr ⟨rfl, rfl⟩
  | picture | hires => exact .inl rfl

theorem UpToDate.change (current : machine.UpToDate shown) (change : machine.Change next) :
    next.UpToDate shown := by
  intro settled
  rcases change.display with asked | ⟨flag, same⟩
  · rw [asked] at settled
    contradiction
  · rw [same]
    exact current (flag.symm.trans settled)

/-- A look at the display brings the picture up to date. -/
theorem consumeFrame_upToDate (current : machine.UpToDate shown) :
    machine.consumeFrame.2.UpToDate (machine.consumeFrame.1.getD shown) := by
  unfold consumeFrame
  split
  · exact fun _ => rfl
  · exact current

/-- Every command but a reset keeps the picture up to date. -/
theorem UpToDate.obey (current : machine.UpToDate shown) (kept : ∀ now, command ≠ .reset now) :
    (machine.obey command).UpToDate ((machine.frame? command).getD shown) := by
  by_cases look : command = .consumeFrame
  · subst look
    exact consumeFrame_upToDate current
  · rw [frame?_of_ne look]
    have outcome := machine.obey_outcome command
    generalize machine.obey command = next at outcome
    cases outcome with
    | instruct pc timers change =>
        have ready : UpToDate { machine with pc := pc, timers := timers } shown := current
        exact ready.change change
    | settle memory timers keypad => exact current
    | frame => contradiction
    | reset now => exact absurd rfl (kept now)

theorem UpToDate.obeyAll (current : machine.UpToDate shown) {commands : List Command}
    (kept : ∀ now, .reset now ∉ commands) :
    (machine.obeyAll commands).UpToDate ((machine.frames commands).getLastD shown) := by
  induction commands generalizing machine shown with
  | nil => exact current
  | cons command rest ih =>
      have first := current.obey fun now same => kept now (same ▸ List.mem_cons_self)
      have later := ih first fun now inside => kept now (List.mem_cons_of_mem _ inside)
      rw [frames, getLastD_frame]
      exact later

/-- Without a reset the display is the last frame that was handed out, unless a new one waits. A
frame handed out is the display itself, so after each look the picture is up to date. -/
theorem no_frame_lost (key : RandomKey) (mode : Mode) (now : Reading) (commands : List Command)
    (kept : ∀ later, .reset later ∉ commands) :
    let start := create key mode now
    let machine := start.obeyAll commands
    (machine.redraw = false →
      machine.display = (start.frames commands).getLastD (Display.blank mode)) ∧
    (∀ frame next, machine.consumeFrame = (some frame, next) →
      frame = machine.display ∧ next = { machine with redraw := false }) ∧
    (start.frames (commands ++ [.consumeFrame])).getLastD (Display.blank mode) =
      machine.display := by
  intro start machine
  have fresh : start.UpToDate (Display.blank mode) := fun _ => rfl
  have current := fresh.obeyAll kept
  refine ⟨current, fun frame next looked => ?_, ?_⟩
  · unfold consumeFrame at looked
    split at looked
    · cases looked
      exact ⟨rfl, rfl⟩
    · cases looked
  · have looked : start.frames (commands ++ [.consumeFrame]) =
        start.frames commands ++ machine.consumeFrame.1.toList := by
      rw [frames_append, frames, frames, List.append_nil]
      rfl
    rw [looked]
    unfold consumeFrame
    cases waiting : machine.redraw with
    | true => simp
    | false => simpa using (current waiting).symm

/-- This history draws a digit, looks at the display and jumps. -/
def drawAndLook : List Command :=
  [.load (.bytes [0xD0, 0x05, 0x12, 0x02]), .step .zero, .consumeFrame, .step .zero]

/-- After the jump the display still shows the digit, which was handed out. -/
theorem no_frame_lost_of_drawAndLook :
    (∀ later, .reset later ∉ drawAndLook) ∧
      (fresh.obeyAll drawAndLook).display.lit 0 0 = true ∧
      (fresh.obeyAll drawAndLook).display =
        (fresh.frames drawAndLook).getLastD (Display.blank .basic64x32) := by
  have kept : ∀ later, .reset later ∉ drawAndLook := by simp [drawAndLook]
  have settled : (fresh.obeyAll drawAndLook).redraw = false := by decide +kernel
  have drawn : (fresh.obeyAll drawAndLook).display.lit 0 0 = true := by decide +kernel
  exact ⟨kept, drawn, (no_frame_lost ⟨0, 0⟩ .basic64x32 .zero drawAndLook kept).1 settled⟩

end Chip8.Machine
