import Chip8.Proofs.Countdown
import Chip8.Timers.Exact
import Mathlib.Tactic.FieldSimp
import Mathlib.Tactic.Linarith
import Mathlib.Tactic.Ring

/-!
This file proves that with exact readings it does not matter how often the timers are updated.
-/

namespace Chip8

theorem exactTick_eq : exactTick = 1 / 60 := by
  norm_num [exactTick, timerFrequency]

theorem exactTick_pos : 0 < exactTick := by
  norm_num [exactTick_eq]

namespace Timers

variable (timers : Timers Rat)

theorem tickCount_eq (now : Rat) :
    timers.tickCount now = ((now - timers.last) / exactTick).floor.toNat := rfl

/-- No exact reading is refused. -/
theorem update_eq_observe (now : Rat) : timers.update now = .ok (timers.observe now) := by
  cases updated : timers.update now with
  | ok next => simp only [observe, updated]
  | error error =>
      unfold update at updated
      simp only [TimeBase.ticks] at updated
      split at updated
      · cases updated
      · cases updated

theorem last_pass (count : Nat) : (timers.pass count).last = timers.last + count * exactTick := by
  show timers.last + ((count : Int) : Rat) * exactTick = _
  rw [Int.cast_natCast]

theorem pass_zero : timers.pass 0 = timers := by
  have last := timers.last_pass 0
  rw [Nat.cast_zero, zero_mul, add_zero] at last
  show Timers.mk (countDown timers.delay 0) (countDown timers.sound 0) (timers.pass 0).last = timers
  rw [countDown_zero, countDown_zero, last]

theorem pass_pass (first second : Nat) :
    (timers.pass first).pass second = timers.pass (first + second) := by
  have last : ((timers.pass first).pass second).last = (timers.pass (first + second)).last := by
    rw [last_pass, last_pass, last_pass, Nat.cast_add]
    ring
  show Timers.mk (countDown (countDown timers.delay first) second)
    (countDown (countDown timers.sound first) second) ((timers.pass first).pass second).last = _
  rw [countDown_countDown, countDown_countDown, last]
  rfl

theorem tickCount_pass (count : Nat) (now : Rat) :
    (timers.pass count).tickCount now = timers.tickCount now - count := by
  have shifted : (now - (timers.pass count).last) / exactTick =
      (now - timers.last) / exactTick + ((-count : Int) : Rat) := by
    rw [last_pass]
    have positive := exactTick_pos
    push_cast
    field_simp
    ring
  rw [tickCount_eq, tickCount_eq, shifted, Rat.floor_add_intCast]
  omega

theorem tickCount_mono {first second : Rat} (order : first ≤ second) :
    timers.tickCount first ≤ timers.tickCount second := by
  have earlier : (first - timers.last) / exactTick ≤ (second - timers.last) / exactTick :=
    div_le_div_of_nonneg_right (sub_le_sub_right order timers.last) exactTick_pos.le
  exact Int.toNat_le_toNat (Rat.floor_monotone earlier)

theorem observe_eq_pass (now : Rat) : timers.observe now = timers.pass (timers.tickCount now) := by
  rcases Nat.eq_zero_or_pos (timers.tickCount now) with still | passed
  · rw [observe_of_zero still, still, pass_zero]
  · exact observe_of_pos passed

/-- Of two readings only the larger one counts. -/
theorem observe_observe (first second : Rat) :
    (timers.observe first).observe second = timers.observe (max first second) := by
  have larger : timers.tickCount (max first second) =
      max (timers.tickCount first) (timers.tickCount second) :=
    Monotone.map_max fun _ _ order => timers.tickCount_mono order
  have split : timers.tickCount first + (timers.tickCount second - timers.tickCount first) =
      timers.tickCount (max first second) := by
    omega
  rw [timers.observe_eq_pass first, observe_eq_pass, tickCount_pass, pass_pass, split,
    ← observe_eq_pass]

theorem foldl_observe (first : Rat) (readings : List Rat) :
    readings.foldl observe (timers.observe first) = timers.observe (readings.foldl max first) := by
  induction readings generalizing first with
  | nil => rfl
  | cons now later ih =>
      rw [List.foldl_cons, List.foldl_cons, observe_observe]
      exact ih (max first now)

theorem foldlM_update (readings : List Rat) :
    readings.foldlM update timers = .ok (readings.foldl observe timers) := by
  induction readings generalizing timers with
  | nil => rfl
  | cons now later ih =>
      rw [List.foldlM_cons, update_eq_observe]
      exact ih (timers.observe now)

/-- The last reading that was taken over lies less than a tick back. -/
theorem last_observe {now : Rat} (forward : timers.last ≤ now) :
    0 ≤ now - (timers.observe now).last ∧ now - (timers.observe now).last < exactTick := by
  have positive := exactTick_pos
  have elapsed : 0 ≤ (now - timers.last) / exactTick :=
    div_nonneg (sub_nonneg.mpr forward) positive.le
  have whole : 0 ≤ ((now - timers.last) / exactTick).floor := Rat.le_floor_iff.mpr elapsed
  have count : (timers.tickCount now : Rat) = ((now - timers.last) / exactTick).floor := by
    rw [tickCount_eq, ← Int.cast_natCast, Int.toNat_of_nonneg whole]
  have below := Rat.floor_le ((now - timers.last) / exactTick)
  have above := Rat.lt_floor_add_one ((now - timers.last) / exactTick)
  rw [← count, le_div_iff₀ positive] at below
  rw [Int.cast_add, Int.cast_one, ← count, div_lt_iff₀ positive, add_mul, one_mul] at above
  rw [observe_eq_pass, last_pass]
  constructor
  · linarith
  · linarith

/-- Updates in any order and at any distance leave the timers as one update with the largest reading
does, and what is left of the last tick is not lost. -/
theorem spacing_makes_no_difference (readings : List Rat) (largest : Rat)
    (found : readings.max? = some largest) :
    ∃ final, readings.foldlM update timers = .ok final ∧ timers.update largest = .ok final ∧
      (timers.last ≤ largest →
        0 ≤ largest - final.last ∧ largest - final.last < 1 / 60 ∧
          ∃ count : Int, final.last - timers.last = count * (1 / 60)) := by
  cases readings with
  | nil => cases found
  | cons first later =>
      have same : later.foldl max first = largest := Option.some.inj found
      refine ⟨timers.observe largest, ?_, timers.update_eq_observe largest, fun forward => ?_⟩
      · rw [foldlM_update, List.foldl_cons, foldl_observe, same]
      · obtain ⟨lower, upper⟩ := timers.last_observe forward
        rw [exactTick_eq] at upper
        refine ⟨lower, upper, timers.tickCount largest, ?_⟩
        rw [observe_eq_pass, last_pass, exactTick_eq]
        push_cast
        ring

/-- The timers have ten ticks and three ticks to go. -/
def tenAndThree : Timers Rat := ⟨10, 3, 0⟩

/-- The second reading lies eight ticks and a half after the start, and the third lies back. -/
def unevenReadings : List Rat := [1 / 40, 17 / 120, 1 / 13]

/-- The half tick of the first reading is not lost. -/
theorem spacing_of_unevenReadings :
    unevenReadings.max? = some (17 / 120) ∧ tenAndThree.last ≤ 17 / 120 ∧
      unevenReadings.foldlM update tenAndThree = .ok ⟨2, 0, 2 / 15⟩ ∧
      (17 / 120 - 2 / 15 : Rat) < 1 / 60 := by
  have found : unevenReadings.max? = some (17 / 120) := by decide +kernel
  have forward : tenAndThree.last ≤ 17 / 120 := by decide +kernel
  have updated : tenAndThree.update (17 / 120) = .ok ⟨2, 0, 2 / 15⟩ := by decide +kernel
  obtain ⟨final, all, single, carried⟩ := tenAndThree.spacing_makes_no_difference _ _ found
  cases single.symm.trans updated
  exact ⟨found, forward, all, (carried forward).2.1⟩

end Timers

end Chip8
