import Chip8.Proofs.Presenting
import Mathlib.Data.List.Induction

/-!
This file proves that the keypad of a window follows the keyboard: a digit is held from a press of
one of its keys until the next release of one of them.
-/

namespace Chip8

namespace WindowEvent

variable {event : WindowEvent} {digit : Fin 16}

/-- These events close the window. -/
def closes : WindowEvent → Bool
  | .quit | .keyDown .escape => true
  | .keyDown _ | .keyUp _ | .other => false

/-- An event may press or release a digit. -/
def state? (event : WindowEvent) (digit : Fin 16) : Option Bool :=
  match event with
  | .keyDown key => if key.hex? = some digit then some true else none
  | .keyUp key => if key.hex? = some digit then some false else none
  | .quit | .other => none

theorem state?_eq_some_true_iff :
    event.state? digit = some true ↔ ∃ key, event = .keyDown key ∧ key.hex? = some digit := by
  cases event with
  | keyDown key | keyUp key => simp [state?]
  | quit | other => simp [state?]

theorem state?_eq_some_false_iff :
    event.state? digit = some false ↔ ∃ key, event = .keyUp key ∧ key.hex? = some digit := by
  cases event with
  | keyDown key | keyUp key => simp [state?]
  | quit | other => simp [state?]

end WindowEvent

namespace Keyboard

variable {history : List WindowEvent} {event : WindowEvent} {digit : Fin 16} {key : PhysicalKey}

/-- A key of the digit has been pressed, and no key of the digit has been released since. -/
def Pressed (history : List WindowEvent) (digit : Fin 16) : Prop :=
  ∃ earlier key later, history = earlier ++ .keyDown key :: later ∧ key.hex? = some digit ∧
    ∀ other, other.hex? = some digit → .keyUp other ∉ later

/-- The key has been pressed, and it has not been released since. -/
def Down (history : List WindowEvent) (key : PhysicalKey) : Prop :=
  ∃ earlier later, history = earlier ++ .keyDown key :: later ∧ .keyUp key ∉ later

/-- No key of the digit has been released while another one was down. -/
def Apart (history : List WindowEvent) (digit : Fin 16) : Prop :=
  ∀ earlier released later key, history = earlier ++ .keyUp released :: later →
    released.hex? = some digit → key.hex? = some digit → Down earlier key → key = released

theorem not_pressed_nil : ¬Pressed [] digit := by
  rintro ⟨earlier, key, later, same, _⟩
  exact List.append_ne_nil_of_right_ne_nil _ (List.cons_ne_nil _ _) same.symm

/-- The last event presses the digit, or it leaves alone a digit that was pressed before. -/
theorem pressed_concat_iff :
    Pressed (history ++ [event]) digit ↔
      event.state? digit = some true ∨ event.state? digit = none ∧ Pressed history digit := by
  constructor
  · rintro ⟨earlier, key, later, same, named, kept⟩
    -- Either the press is the last event, or it stands before the last event.
    obtain rfl | ⟨between, last, rfl⟩ := later.eq_nil_or_concat
    · obtain ⟨_, only⟩ := List.append_inj' same rfl
      obtain rfl := List.singleton_inj.mp only
      exact .inl (WindowEvent.state?_eq_some_true_iff.mpr ⟨key, rfl, named⟩)
    · rw [List.concat_eq_append] at same kept
      rw [← List.cons_append, ← List.append_assoc] at same
      obtain ⟨rfl, only⟩ := List.append_inj' same rfl
      obtain rfl := List.singleton_inj.mp only
      have before : Pressed (earlier ++ .keyDown key :: between) digit :=
        ⟨earlier, key, between, rfl, named, fun other named inside =>
          kept other named (List.mem_append_left _ inside)⟩
      have unreleased : event.state? digit ≠ some false := fun released => by
        obtain ⟨other, rfl, named⟩ := WindowEvent.state?_eq_some_false_iff.mp released
        exact kept other named List.mem_concat_self
      cases change : event.state? digit with
      | none => exact .inr ⟨rfl, before⟩
      | some state =>
          cases state with
          | true => exact .inl rfl
          | false => exact absurd change unreleased
  · rintro (pressed | ⟨idle, earlier, key, later, rfl, named, kept⟩)
    · obtain ⟨key, rfl, named⟩ := WindowEvent.state?_eq_some_true_iff.mp pressed
      exact ⟨history, key, [], rfl, named, fun _ _ => List.not_mem_nil⟩
    · refine ⟨earlier, key, later ++ [event], by simp, named, fun other called inside => ?_⟩
      rcases List.mem_append.mp inside with before | last
      · exact kept other called before
      · have released := WindowEvent.state?_eq_some_false_iff.mpr
          ⟨other, (List.mem_singleton.mp last).symm, called⟩
        rw [idle] at released
        cases released

/-- A digit that is pressed has a key that is down. -/
theorem Pressed.exists_down (pressed : Pressed history digit) :
    ∃ key, key.hex? = some digit ∧ Down history key := by
  obtain ⟨earlier, key, later, same, named, kept⟩ := pressed
  exact ⟨key, named, earlier, later, same, kept key named⟩

/-- If the keys of a digit keep apart, one that is down presses the digit. -/
theorem Down.pressed (down : Down history key) (named : key.hex? = some digit)
    (apart : Apart history digit) : Pressed history digit := by
  obtain ⟨earlier, later, rfl, kept⟩ := down
  refine ⟨earlier, key, later, rfl, named, fun other called inside => ?_⟩
  obtain ⟨between, rest, rfl⟩ := List.append_of_mem inside
  have before : Down (earlier ++ .keyDown key :: between) key :=
    ⟨earlier, between, rfl, fun released => kept (List.mem_append_left _ released)⟩
  obtain rfl : key = other := apart _ other rest key (by simp) called named before
  exact kept inside

end Keyboard

namespace Window

variable {window next : Window} {event : WindowEvent} {earlier : List WindowEvent}

/-- The digit is held on the keypad of the window. -/
def holds (window : Window) (digit : Fin 16) : Bool := window.session.machine.keypad.keys[digit]

/-- The batches of events are handled one after the other. -/
def handleBatches (window : Window) : List (List WindowEvent) → Window
  | [] => window
  | events :: rest => (window.handleAll events).2.handleBatches rest

theorem holds_setKey (window : Window) (key : PhysicalKey) (state : Bool) (digit : Fin 16) :
    (window.setKey key state).holds digit =
      if key.hex? = some digit then state else window.holds digit := by
  unfold setKey
  cases named : key.hex? with
  | none => rfl
  | some other => simp [holds, Machine.hold, Keypad.hold, Vector.getElem_set, Fin.ext_iff]

/-- An event changes the digit of its key only. -/
theorem holds_handle (handled : window.handle event = some next) (digit : Fin 16) :
    next.holds digit = (event.state? digit).getD (window.holds digit) := by
  unfold handle at handled
  split at handled <;> cases handled
  · rfl
  · rfl
  · rename_i key _ _ _
    rw [holds_setKey, WindowEvent.state?]
    split
    · rfl
    · rfl
  · rename_i key
    rw [holds_setKey, WindowEvent.state?]
    split
    · rfl
    · rfl
  · rfl

theorem handle_eq_none_iff : window.handle event = none ↔ event.closes = true := by
  unfold handle
  split
  all_goals simp_all [WindowEvent.closes]

theorem exists_handle (stays : event.closes = false) : ∃ next, window.handle event = some next :=
  Option.ne_none_iff_exists'.mp fun closed => by
    rw [handle_eq_none_iff.mp closed] at stays
    cases stays

/-- A batch that does not close the window is handled to its end. -/
theorem handleAll_append (stays : ∀ event ∈ earlier, event.closes = false)
    (later : List WindowEvent) :
    window.handleAll (earlier ++ later) = (window.handleAll earlier).2.handleAll later := by
  induction earlier generalizing window with
  | nil => rfl
  | cons event rest ih =>
      obtain ⟨here, further⟩ := List.forall_mem_cons.mp stays
      obtain ⟨next, handled⟩ := window.exists_handle here
      simp only [List.cons_append, handleAll, handled]
      exact ih further

theorem handleBatches_eq {batches : List (List WindowEvent)}
    (stays : ∀ event ∈ batches.flatten, event.closes = false) :
    window.handleBatches batches = (window.handleAll batches.flatten).2 := by
  induction batches generalizing window with
  | nil => rfl
  | cons events rest ih =>
      rw [List.flatten_cons] at stays ⊢
      obtain ⟨here, further⟩ := List.forall_mem_append.mp stays
      rw [handleAll_append here, handleBatches, ih further]

/-- After its events a window holds the digits that are pressed. -/
theorem holds_handleAll_iff {digit : Fin 16} {history : List WindowEvent}
    (released : window.holds digit = false)
    (stays : ∀ event ∈ history, event.closes = false) :
    (window.handleAll history).2.holds digit = true ↔ Keyboard.Pressed history digit := by
  induction history using List.reverseRecOn with
  | nil => exact iff_of_false (Bool.eq_false_iff.mp released) Keyboard.not_pressed_nil
  | append_singleton history event ih =>
      obtain ⟨before, last⟩ := List.forall_mem_append.mp stays
      obtain ⟨next, handled⟩ := (window.handleAll history).2.exists_handle
        (last event (List.mem_singleton.mpr rfl))
      have followed : (window.handleAll (history ++ [event])).2 = next := by
        rw [handleAll_append before, handleAll, handled]
        rfl
      rw [followed, holds_handle handled, Keyboard.pressed_concat_iff, ← ih before]
      cases event.state? digit with
      | none => simp
      | some state => simp

/-- A digit is held from a press of one of its keys until one of its keys is released. One of its
keys is then down, and if its keys keep apart, the digit is held as long as one of them is down.
Nothing else changes in the machine. -/
theorem keypad_follows_keyboard {batches : List (List WindowEvent)}
    (released : window.session.machine.keypad = .released)
    (stays : ∀ event ∈ batches.flatten, event.closes = false) :
    let history := batches.flatten
    let last := window.handleBatches batches
    last.session.machine =
        { window.session.machine with keypad := last.session.machine.keypad } ∧
      ∀ digit : Fin 16,
        (last.holds digit = true ↔ Keyboard.Pressed history digit) ∧
        (last.holds digit = true → ∃ key, key.hex? = some digit ∧ Keyboard.Down history key) ∧
        (Keyboard.Apart history digit →
          (last.holds digit = true ↔
            ∃ key, key.hex? = some digit ∧ Keyboard.Down history key)) := by
  intro history last
  have followed : last = (window.handleAll history).2 := handleBatches_eq stays
  obtain ⟨keypad, overlaid, paused, handled⟩ := window.handleAll_keyed history
  refine ⟨by rw [followed, handled]; rfl, fun digit => ?_⟩
  have unheld : window.holds digit = false := by
    rw [holds, released]
    exact Vector.getElem_replicate _
  have pressed : last.holds digit = true ↔ Keyboard.Pressed history digit := by
    rw [followed]
    exact holds_handleAll_iff unheld stays
  have down (held : last.holds digit = true) :
      ∃ key, key.hex? = some digit ∧ Keyboard.Down history key :=
    (pressed.mp held).exists_down
  exact ⟨pressed, down, fun apart => ⟨down, fun ⟨_, named, held⟩ =>
    pressed.mpr (held.pressed named apart)⟩⟩

/-- This window has not handled any events. -/
def untouched : Window := create (.start Machine.fresh ⟨[]⟩ (.create {} ⟨[]⟩)) .roomy {}

/-- The space bar holds its digit, and the release of an arrow has ended the hold of another. -/
theorem keypad_follows_arrowAndSpace :
    let batches := [[.keyDown (.character '2'), .keyDown .up], [.keyUp .up, .keyDown .space]]
    untouched.session.machine.keypad = .released ∧
      (∀ event ∈ batches.flatten, event.closes = false) ∧
      (untouched.handleBatches batches).holds 5 = true ∧
      (untouched.handleBatches batches).holds 2 = false := by
  intro batches
  have released : untouched.session.machine.keypad = .released := rfl
  have stays : ∀ event ∈ batches.flatten, event.closes = false := by decide
  obtain ⟨_, digits⟩ := keypad_follows_keyboard released stays
  have space : Keyboard.Pressed batches.flatten 5 :=
    ⟨[.keyDown (.character '2'), .keyDown .up, .keyUp .up], .space, [], rfl, rfl,
      fun _ _ => List.not_mem_nil⟩
  exact ⟨released, stays, (digits 5).1.mpr space, by decide +kernel⟩

/-- The key of a digit is down, but the digit is not held, since an arrow of this digit has been
released. -/
theorem digit_released_with_key_down :
    let history := [.keyDown (.character '2'), .keyDown .up, .keyUp .up]
    untouched.session.machine.keypad = .released ∧
      (∀ event ∈ history, event.closes = false) ∧
      ¬((untouched.handleBatches [history]).holds 2 = true ↔
        ∃ key, key.hex? = some 2 ∧ Keyboard.Down history key) := by
  intro history
  have down : Keyboard.Down history (.character '2') :=
    ⟨[], [.keyDown .up, .keyUp .up], rfl, by decide⟩
  have unheld : (untouched.handleBatches [history]).holds 2 = false := by decide +kernel
  refine ⟨rfl, by decide, fun same => ?_⟩
  rw [same.mpr ⟨_, rfl, down⟩] at unheld
  cases unheld

end Window

end Chip8
