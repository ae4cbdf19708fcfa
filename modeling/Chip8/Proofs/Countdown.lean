import Chip8.Proofs.Reachable
import Mathlib.Algebra.GroupWithZero.Nat

/-!
This file proves that the two timers count the same ticks and stop at zero, whatever the clock
says.
-/

namespace Chip8

theorem toNat_countDown (timer : UInt8) (ticks : Int) :
    (countDown timer ticks).toNat = timer.toNat - ticks.toNat := by
  have byte := timer.toNat_lt
  rw [countDown, UInt8.toNat_ofNat']
  omega

theorem countDown_zero (timer : UInt8) : countDown timer 0 = timer := by
  apply UInt8.toNat_inj.mp
  rw [toNat_countDown]
  rfl

/-- A timer that has stopped at zero stays there. -/
theorem countDown_countDown (timer : UInt8) (first second : Nat) :
    countDown (countDown timer first) second = countDown timer (first + second : Nat) := by
  apply UInt8.toNat_inj.mp
  rw [toNat_countDown, toNat_countDown, toNat_countDown]
  omega

namespace Timers

variable {τ : Type} {timers next final : Timers τ} {now : τ}

/-- Both timers have gone down by the same count, as far as zero. -/
structure CountsDown (timers next : Timers τ) (count : Nat) : Prop where
  delay : next.delay.toNat = timers.delay.toNat - count
  sound : next.sound.toNat = timers.sound.toNat - count

theorem CountsDown.trans {first second : Nat}
    (earlier : timers.CountsDown next first) (later : next.CountsDown final second) :
    timers.CountsDown final (first + second) := by
  constructor
  · rw [later.delay, earlier.delay, Nat.sub_sub]
  · rw [later.sound, earlier.sound, Nat.sub_sub]

variable [TimeBase τ]

/-- A reading that is refused or that lies back counts no ticks. -/
def tickCount (timers : Timers τ) (now : τ) : Nat :=
  match TimeBase.ticks timers.last now with
  | .ok ticks => ticks.toNat
  | .error _ => 0

/-- So many ticks pass at once. -/
def pass (timers : Timers τ) (count : Nat) : Timers τ where
  delay := countDown timers.delay count
  sound := countDown timers.sound count
  last := TimeBase.advance timers.last count

/-- A refused reading leaves the timers alone. -/
def observe (timers : Timers τ) (now : τ) : Timers τ :=
  match timers.update now with
  | .ok next => next
  | .error _ => timers

/-- Each reading counts its ticks after the readings before it. -/
def tickCounts (timers : Timers τ) : List τ → List Nat
  | [] => []
  | now :: later => timers.tickCount now :: (timers.observe now).tickCounts later

theorem observe_of_zero (still : timers.tickCount now = 0) : timers.observe now = timers := by
  unfold tickCount at still
  unfold observe update
  cases counted : TimeBase.ticks timers.last now with
  | error error => rfl
  | ok ticks =>
      rw [counted] at still
      have back : ticks ≤ 0 := Int.toNat_eq_zero.mp still
      simp only [if_pos back]

theorem observe_of_pos (passed : 0 < timers.tickCount now) :
    timers.observe now = timers.pass (timers.tickCount now) := by
  unfold tickCount at passed
  unfold observe update pass tickCount
  cases counted : TimeBase.ticks timers.last now with
  | error error =>
      rw [counted] at passed
      cases passed
  | ok ticks =>
      rw [counted] at passed
      have forward : ¬ticks ≤ 0 := Int.not_le.mpr (Int.lt_toNat.mp passed)
      have whole : (ticks.toNat : Int) = ticks := Int.toNat_of_nonneg (by omega)
      simp only [if_neg forward, whole]

theorem countsDown_observe (timers : Timers τ) (now : τ) :
    timers.CountsDown (timers.observe now) (timers.tickCount now) := by
  rcases Nat.eq_zero_or_pos (timers.tickCount now) with still | passed
  · rw [observe_of_zero still, still]
    exact ⟨rfl, rfl⟩
  · rw [observe_of_pos passed]
    exact ⟨toNat_countDown _ _, toNat_countDown _ _⟩

theorem countsDown_foldl_observe (timers : Timers τ) (readings : List τ) :
    timers.CountsDown (readings.foldl observe timers) (timers.tickCounts readings).sum := by
  induction readings generalizing timers with
  | nil => exact ⟨rfl, rfl⟩
  | cons now later ih =>
      rw [List.foldl_cons, tickCounts, List.sum_cons]
      exact (timers.countsDown_observe now).trans (ih (timers.observe now))

theorem tickCounts_append (timers : Timers τ) (earlier later : List τ) :
    timers.tickCounts (earlier ++ later) =
      timers.tickCounts earlier ++ (earlier.foldl observe timers).tickCounts later := by
  induction earlier generalizing timers with
  | nil => rfl
  | cons now rest ih => exact congrArg (timers.tickCount now :: ·) (ih (timers.observe now))

theorem length_tickCounts (timers : Timers τ) (readings : List τ) :
    (timers.tickCounts readings).length = readings.length := by
  induction readings generalizing timers with
  | nil => rfl
  | cons now later ih => exact congrArg Nat.succ (ih (timers.observe now))

end Timers

namespace Machine

theorem obey_updateTimers (machine : Machine) (now : Reading) :
    machine.obey (.updateTimers now) = { machine with timers := machine.timers.observe now } := by
  simp only [obey, perform, updateTimers, Timers.observe]
  cases machine.timers.update now with
  | ok timers => rfl
  | error cause => rfl

theorem obeyAll_updateTimers (machine : Machine) (readings : List Reading) :
    machine.obeyAll (readings.map .updateTimers) =
      { machine with timers := readings.foldl Timers.observe machine.timers } := by
  induction readings generalizing machine with
  | nil => rfl
  | cons now later ih =>
      show (machine.obey (.updateTimers now)).obeyAll (later.map .updateTimers) = _
      rw [ih, obey_updateTimers]
      rfl

/-- Every reading takes its ticks from both timers, as far as zero, and from nothing else. The ticks
are the floor division of the time since the last tick by the length of a tick. A reading that lies
back or that is refused has none, and without ticks nothing changes. No law of the arithmetic of
readings is used. -/
theorem timers_count_alike (machine : Machine) (readings : List Reading) :
    let counts := machine.timers.tickCounts readings
    let final := machine.obeyAll (readings.map .updateTimers)
    (final.timers.delay.toNat : Int) = max ((machine.timers.delay.toNat : Int) - counts.sum) 0 ∧
      (final.timers.sound.toNat : Int) = max ((machine.timers.sound.toNat : Int) - counts.sum) 0 ∧
      final = { machine with timers := final.timers } ∧
      ∀ earlier now later, readings = earlier ++ now :: later →
        let before := machine.obeyAll (earlier.map .updateTimers)
        counts[earlier.length]? = some (before.timers.tickCount now) ∧
          before.timers.tickCount now =
            (match wholeTicks (now.seconds - before.timers.last.seconds) with
            | .ok ticks => ticks.toNat
            | .error _ => 0) ∧
          (before.timers.tickCount now = 0 → before.obey (.updateTimers now) = before) := by
  intro counts final
  have whole : final = { machine with timers := readings.foldl Timers.observe machine.timers } :=
    machine.obeyAll_updateTimers readings
  obtain ⟨delay, sound⟩ : machine.timers.CountsDown _ counts.sum :=
    machine.timers.countsDown_foldl_observe readings
  refine ⟨?_, ?_, ?_, ?_⟩
  · rw [whole, delay]
    omega
  · rw [whole, sound]
    omega
  · rw [whole]
  · rintro earlier now later rfl before
    have reached :
        before = { machine with timers := earlier.foldl Timers.observe machine.timers } :=
      machine.obeyAll_updateTimers earlier
    constructor
    · have place := machine.timers.length_tickCounts earlier
      rw [reached]
      show (machine.timers.tickCounts (earlier ++ now :: later))[earlier.length]? = _
      rw [Timers.tickCounts_append, ← place, List.getElem?_append_right (Nat.le_refl _),
        Nat.sub_self]
      rfl
    · refine ⟨rfl, fun still => ?_⟩
      rw [obey_updateTimers, Timers.observe_of_zero still]

/-- After one second come no number, a time that lies back and infinity, and none of them counts. -/
example : Timers.tickCounts ⟨9, 2, .zero⟩ [⟨0x3FF0000000000000⟩, ⟨0x7FF8000000000000⟩,
    ⟨0x3FE0000000000000⟩, (⟨0x7FF0000000000000⟩ : Reading)] = [60, 0, 0, 0] := by
  decide +kernel

end Machine

end Chip8
