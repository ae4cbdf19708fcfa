import Chip8.Frontend.Window
import Chip8.Proofs.Coloring
import Chip8.Proofs.Course

/-!
This file proves that a window of a size which the window system grants shows every picture that it
asks for.
-/

namespace Chip8

namespace Window

/-- The window system grants the window of a mode, and the blocks of a picture fill it. -/
structure Shows (mode : Mode) (scale : Int) : Prop where
  granted : refusal? (mode.width * scale) (mode.height * scale) = none
  wide : wrapWord (mode.width * scale) = mode.width * (Display.blockSide scale : Int)
  tall : wrapWord (mode.height * scale) = mode.height * (Display.blockSide scale : Int)

/-- One length of the display is granted, and the blocks of a picture fill it. -/
structure Fills (length : Nat) (scale : Int) : Prop where
  fits : fitsLong (length * scale)
  exact : wrapWord (length * scale) = length * (Display.blockSide scale : Int)
  small : length * (Display.blockSide scale : Int) ≤ sideLimit

variable {mode : Mode} {scale : Int} {length : Nat}

theorem refusal?_eq_none_iff {width height : Int} :
    refusal? width height = none ↔
      (fitsLong width ∧ fitsLong height) ∧ (0 ≤ wrapWord width ∧ 0 ≤ wrapWord height) ∧
        wrapWord width ≤ sideLimit ∧ wrapWord height ≤ sideLimit := by
  unfold refusal?
  grind

theorem shows_iff : Shows mode scale ↔ Fills mode.width scale ∧ Fills mode.height scale := by
  constructor
  · rintro ⟨granted, wide, tall⟩
    obtain ⟨⟨fitsWide, fitsTall⟩, _, smallWide, smallTall⟩ := refusal?_eq_none_iff.mp granted
    exact ⟨⟨fitsWide, wide, wide ▸ smallWide⟩, ⟨fitsTall, tall, tall ▸ smallTall⟩⟩
  · rintro ⟨wide, tall⟩
    have positive (length : Nat) : 0 ≤ length * (Display.blockSide scale : Int) :=
      Int.mul_nonneg (Int.natCast_nonneg _) (Int.natCast_nonneg _)
    refine ⟨refusal?_eq_none_iff.mpr ⟨⟨wide.fits, tall.fits⟩, ?_, ?_⟩, wide.exact, tall.exact⟩
    · rw [wide.exact, tall.exact]
      exact ⟨positive _, positive _⟩
    · rw [wide.exact, tall.exact]
      exact ⟨wide.small, tall.small⟩

/-- A window of ordinary size shows its pictures. -/
theorem shows_of_le (positive : 1 ≤ scale) (small : mode.width * scale ≤ sideLimit) :
    Shows mode scale := by
  have side := Display.coe_blockSide_of_le positive
  have fills (length : Nat) (below : length ≤ mode.width) : Fills length scale := by
    have smaller : length * scale ≤ mode.width * scale :=
      Int.mul_le_mul_of_nonneg_right (Int.ofNat_le.mpr below) (by omega)
    have lower : 0 ≤ length * scale := Int.mul_nonneg (Int.natCast_nonneg _) (by omega)
    unfold sideLimit at small
    refine ⟨⟨by omega, by omega⟩, ?_, ?_⟩
    · rw [side]
      exact wrapWord_of_fits ⟨by omega, by omega⟩
    · rw [side, sideLimit]
      omega
  have flat : mode.height ≤ mode.width := by cases mode <;> decide
  exact shows_iff.mpr ⟨fills _ (Nat.le_refl _), fills _ flat⟩

/-- Every mode has a side of sixty-four pixels, so the mode with two of them is shown, too. -/
theorem Shows.square (shows : Shows mode scale) : Shows .eti64x64 scale := by
  obtain ⟨wide, tall⟩ := shows_iff.mp shows
  have side : Fills 64 scale := by
    cases mode with
    | basic64x32 | eti64x48 | eti64x64 => exact wide
    | hp128x64 => exact tall
  exact shows_iff.mpr ⟨side, side⟩

/-- A mode that is kept or switches to the square one is shown, too. -/
theorem Shows.onward {next : Mode} (shows : Shows mode scale)
    (moves : next = mode ∨ next = .eti64x64) : Shows next scale := by
  rcases moves with rfl | rfl
  · exact shows
  · exact shows.square

end Window

/-- No mode has a picture of more bytes. -/
def Window.pictureBytes (scale : Int) : Nat :=
  3 * (64 * Display.blockSide scale) * (128 * Display.blockSide scale)

namespace Machine

variable {machine next : Machine} {scale : Int}

/-- A window shows the display of the machine at this scale. -/
structure ShownAt (machine : Machine) (scale : Int) : Prop where
  coherent : machine.Coherent
  shows : Window.Shows machine.mode scale

theorem ShownAt.seen_iff : machine.seen.ShownAt scale ↔ machine.ShownAt scale := by
  constructor
  · rintro ⟨⟨stack, width, height⟩, shows⟩
    exact ⟨⟨stack, width, height⟩, shows⟩
  · rintro ⟨⟨stack, width, height⟩, shows⟩
    exact ⟨⟨stack, width, height⟩, shows⟩

/-- The mode into which a step switches is shown, too. -/
theorem ShownAt.step {now : Reading} (shown : machine.ShownAt scale)
    (stepped : machine.step now = .ok next) : next.ShownAt scale := by
  have outcome : machine.Outcome (.step now) next := outcome_step stepped
  exact ⟨shown.coherent.outcome outcome, shown.shows.onward outcome.mode⟩

end Machine

/-- Drawings are seen, and other acts are not. -/
def WindowAct.isDrawing : WindowAct → Bool
  | .picture _ | .overlay _ _ => true
  | .resize _ _ | .tick _ => false

namespace Window

variable {window : Window} {scale : Int}

/-- The latest drawing is the one that is seen. -/
def drawing? (window : Window) : Option WindowAct := window.acts.find? WindowAct.isDrawing

/-- The display is drawn in its colours, below the overlay if there is one. -/
def view (window : Window) (scale : Int) : WindowAct :=
  let machine := window.session.machine
  let image := machine.display.image scale window.style.scheme.palette
  if window.overlaid then .overlay image (overlayLines machine) else .picture image

/-- The display of the machine has been looked at. -/
def looked (window : Window) : Window :=
  { window with session := { window.session with machine := window.session.machine.seen } }

/-- A changed display or an overlay leads to a drawing. -/
def refreshed (window : Window) (scale : Int) : Window :=
  if window.session.machine.redraw || window.overlaid then window.looked.act (window.view scale)
  else window.looked

/-- The window system has granted a surface for the mode. -/
def fitted (window : Window) (scale : Int) : Window :=
  { window.act (.resize (window.size scale).1 (window.size scale).2) with
    surface := some (wrapWord (window.size scale).1, wrapWord (window.size scale).2) }

/-- A changed mode leads to a new size. -/
def resized (window : Window) (mode : Mode) (scale : Int) : Window :=
  if window.session.machine.mode = mode then window else window.fitted scale

/-- The window has a scale at which it shows the display of its machine, and its array library has
room for the picture. -/
structure Visible (window : Window) (scale : Int) : Prop where
  scaled : window.style.scale = some scale
  room : window.arrays.HasRoom (pictureBytes scale)
  shown : window.session.machine.ShownAt scale

/-- The surface of the window is the one for a mode. -/
def HasSurface (window : Window) (mode : Mode) (scale : Int) : Prop :=
  window.surface = some (wrapWord (mode.width * scale), wrapWord (mode.height * scale))

/-- The window system shows the mode of the window on the surface that there is, and the array
library has room for the picture. -/
structure Ready (window : Window) (scale : Int) : Prop where
  shows : Shows window.session.machine.mode scale
  surface : window.HasSurface window.session.machine.mode scale
  room : window.arrays.HasRoom (pictureBytes scale)

/-- A new size changes the surface and adds an act that nobody sees. -/
theorem exists_resized (window : Window) (mode : Mode) (scale : Int) :
    ∃ surface sizes, sizes.find? WindowAct.isDrawing = none ∧
      window.resized mode scale =
        { window with surface := surface, acts := sizes ++ window.acts } := by
  unfold resized
  split
  · exact ⟨_, [], rfl, rfl⟩
  · exact ⟨_, [.resize (window.size scale).1 (window.size scale).2], rfl, rfl⟩

theorem session_resized (window : Window) (mode : Mode) (scale : Int) :
    (window.resized mode scale).session = window.session := by
  obtain ⟨surface, sizes, _, same⟩ := window.exists_resized mode scale
  rw [same]

/-- Apart from its acts a window only looks at the display. -/
theorem exists_acts_refreshed (window : Window) (scale : Int) :
    ∃ acts, window.refreshed scale = { window.looked with acts := acts } := by
  unfold refreshed
  split
  · exact ⟨_, rfl⟩
  · exact ⟨_, rfl⟩

theorem isDrawing_view (window : Window) (scale : Int) : (window.view scale).isDrawing = true := by
  unfold view
  cases window.overlaid with
  | false => rfl
  | true => rfl

theorem drawing?_act (window : Window) (step : WindowAct) :
    (window.act step).drawing? = if step.isDrawing then some step else window.drawing? := by
  rw [drawing?, act, List.find?_cons]
  cases step.isDrawing with
  | false => rfl
  | true => rfl

theorem drawing?_refreshed (window : Window) (scale : Int) :
    (window.refreshed scale).drawing? =
      if window.session.machine.redraw || window.overlaid then some (window.view scale)
      else window.drawing? := by
  unfold refreshed
  split
  · rw [drawing?_act, window.isDrawing_view scale, if_pos rfl]
  · rfl

theorem fit_of_visible (visible : window.Visible scale) :
    window.fit = (.running, window.fitted scale) := by
  have granted : refusal? (window.size scale).1 (window.size scale).2 = none :=
    visible.shown.shows.granted
  simp only [fit, visible.scaled, granted]
  rfl

/-- The array library has room for the picture of a visible window. -/
theorem image?_of_visible (visible : window.Visible scale) (palette : Palette) :
    window.session.machine.display.image? window.arrays scale palette =
      .ok (window.session.machine.display.image scale palette) := by
  obtain ⟨_, room, coherent, _⟩ := visible
  obtain ⟨wide, tall⟩ := Mode.le_size window.session.machine.mode
  obtain ⟨narrow, low⟩ := Mode.size_le window.session.machine.mode
  refine Display.image?_eq_ok_iff.mpr ⟨Display.refusal?_of_room ?_ ?_ room ?_, rfl⟩
  · rw [coherent.width]
    omega
  · rw [coherent.height]
    omega
  · rw [coherent.width, coherent.height]
    exact Nat.mul_le_mul (Nat.mul_le_mul_left 3 (Nat.mul_le_mul_right _ low))
      (Nat.mul_le_mul_right _ narrow)

/-- A visible window draws on a surface for its mode. -/
theorem draw_of_visible (visible : window.Visible scale)
    (covered : window.HasSurface window.session.machine.mode scale) :
    window.draw = (.running, window.act (window.view scale)) := by
  have made := image?_of_visible visible window.style.scheme.palette
  obtain ⟨scaled, _, coherent, shows⟩ := visible
  let image := window.session.machine.display.image scale window.style.scheme.palette
  have wide : (image.width : Int) = wrapWord (window.session.machine.mode.width * scale) := by
    rw [shows.wide, ← coherent.width, ← Int.natCast_mul]
    rfl
  have tall : (image.height : Int) = wrapWord (window.session.machine.mode.height * scale) := by
    rw [shows.tall, ← coherent.height, ← Int.natCast_mul]
    rfl
  have filled : window.surface = some (↑image.width, ↑image.height) := by
    rw [wide, tall]
    exact covered
  simp only [draw, scaled, drawScaled, made, image, filled, if_true, view]

theorem Visible.looked (visible : window.Visible scale) : window.looked.Visible scale :=
  ⟨visible.scaled, visible.room, Machine.ShownAt.seen_iff.mpr visible.shown⟩

theorem Visible.fitted (visible : window.Visible scale) : (window.fitted scale).Visible scale :=
  ⟨visible.scaled, visible.room, visible.shown⟩

theorem hasSurface_fitted (window : Window) (scale : Int) :
    (window.fitted scale).HasSurface window.session.machine.mode scale := rfl

/-- A changed mode has got a surface of its own. -/
theorem HasSurface.resized {mode : Mode} (covered : window.HasSurface mode scale) :
    (window.resized mode scale).HasSurface window.session.machine.mode scale := by
  unfold Window.resized
  split
  · rename_i same
    exact same ▸ covered
  · exact window.hasSurface_fitted scale

theorem HasSurface.refreshed {mode : Mode} (covered : window.HasSurface mode scale) :
    (window.refreshed scale).HasSurface mode scale := by
  obtain ⟨acts, same⟩ := window.exists_acts_refreshed scale
  rw [same]
  exact covered

theorem refresh_eq (window : Window) :
    window.refresh =
      if window.session.machine.redraw || window.overlaid then window.looked.draw
      else (.running, window.looked) := by
  rw [← Machine.isSome_consumeFrame, looked, ← Machine.consumeFrame_snd]
  rfl

/-- A visible window draws a display that has changed. -/
theorem refresh_of_visible (visible : window.Visible scale)
    (covered : window.HasSurface window.session.machine.mode scale) :
    window.refresh = (.running, window.refreshed scale) := by
  rw [refresh_eq, refreshed]
  split
  · exact draw_of_visible visible.looked covered
  · rfl

/-- The new size of a visible window is granted before the display is drawn. -/
theorem present_of_visible (visible : window.Visible scale) {mode : Mode}
    (covered : window.HasSurface mode scale) :
    window.present mode = (.running, (window.resized mode scale).refreshed scale) := by
  unfold present resized
  split
  · rename_i same
    exact refresh_of_visible visible (same ▸ covered)
  · rw [fit_of_visible visible]
    exact refresh_of_visible visible.fitted (window.hasSurface_fitted scale)

end Window

end Chip8
