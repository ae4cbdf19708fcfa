import Chip8.Config
import Chip8.Proofs.Playback

/-!
This file proves that a run without a window keeps to the budget of the configuration, unless the
budget is zero.
-/

namespace Chip8

/-- The plain steps and the failing one fit the readings. -/
theorem Machine.StopsAfter.cycles_le {machine final : Machine} {readings : List Reading}
    {taken : Nat} {fault? : Option Fault}
    (stops : machine.StopsAfter readings taken final fault?) :
    (taken + if fault?.isSome then 1 else 0) ≤ readings.length := by
  cases fault? with
  | none => exact stops.within
  | some fault =>
      have early : taken ≠ readings.length := fun all => nomatch stops.complete.mpr all
      exact Nat.lt_of_le_of_ne stops.within early

/-- A playback has led to the place where the plain steps stop, and counts their cycles. -/
structure Playback.EndsLike (playback : Playback) (machine : Machine) (taken : Nat)
    (final : Machine) (fault? : Option Fault) : Prop where
  machine : playback.session.machine = if taken = 0 then machine else final.seen
  fault : playback.session.fault? = fault?
  count : playback.session.logger.count = taken + if fault?.isSome then 1 else 0

/-- A playback that follows a course ends like the plain steps. -/
theorem Playback.Follows.endsLike {playback : Playback} {course : Course} {machine final : Machine}
    {fault? : Option Fault} (follows : playback.Follows course machine [] 0)
    (outcome : course.error? = fault?.map .fault)
    (last : course.last machine = if course.machines.length = 0 then machine else final.seen) :
    playback.EndsLike machine course.machines.length final fault? where
  machine := follows.machine.trans last
  fault := (Option.map_inj_right fun _ _ => Error.fault.inj).mp (follows.fault.symm.trans outcome)
  count := by rw [follows.count, Course.cycles, outcome, Option.isSome_map, Nat.zero_add]

theorem Course.stopsByFault_of_map {course : Course} {fault? : Option Fault}
    (outcome : course.error? = fault?.map .fault) : course.StopsByFault := by
  intro error failed
  obtain ⟨fault, _, same⟩ := Option.map_eq_some_iff.mp (outcome.symm.trans failed)
  exact ⟨fault, same.symm⟩

/-- A screen other than a window plays a session. -/
def Screen.play? (screen : Screen) (session : Session) (patience : Nat) : Option Playback :=
  match screen with
  | .window _ => none
  | .terminal limit? => some (Terminal.run session limit? patience)
  | .headless count => some (Headless.run session count)

/-- The screen of a configuration plays the session. -/
def Config.play? (config : Config) (session : Session) (patience : Nat) : Option Playback :=
  config.screen.toOption.bind (·.play? session patience)

/-- The two frontends without a window give their budgets to the session. -/
theorem Config.play?_terminal {config : Config} {count : Nat}
    (steps : config.steps = some (count : Int)) (session : Session) (patience : Nat) :
    { config with frontend := "terminal" }.play? session patience = some (session.play count) := by
  have chosen : { config with frontend := "terminal" }.screen = .ok (.terminal config.steps) := rfl
  have played : Terminal.run session (some (count : Int)) patience = session.play count :=
    Terminal.run_eq_play _ _ _
  rw [play?, chosen, steps, ← played]
  rfl

theorem Config.play?_headless {config : Config} {count : Nat}
    (steps : config.steps = some (count : Int)) (session : Session) (patience : Nat) :
    { config with frontend := "headless" }.play? session patience =
      some (Headless.report (session.play (if count = 0 then 10000 else count))) := by
  have chosen : { config with frontend := "headless" }.screen =
      .ok (.headless config.headlessBudget) := rfl
  have budget : config.headlessBudget.toNat = if count = 0 then 10000 else count := by
    rw [headlessBudget, steps]
    by_cases zero : count = 0
    · subst zero
      rfl
    · simp only [Int.natCast_eq_zero, zero, if_false, Int.toNat_natCast]
  rw [play?, chosen, ← budget]
  rfl

/-- Under any logger a play without an earlier fault ends where the plain steps stop. -/
theorem Machine.exists_stops_play {machine : Machine} {clock : Clock} {count : Nat}
    (reached : machine.Reachable) (accepted : machine.AcceptsAll (clock.take count)) :
    ∃ taken final fault?, machine.StopsAfter (clock.take count) taken final fault? ∧
      ∀ style wall, let playback := (Session.start machine clock (.create style wall)).play count
        playback.EndsLike machine taken final fault? ∧
          (Headless.report playback).EndsLike machine taken final fault? := by
  obtain ⟨final, fault?, stops, outcome, last⟩ := course_stops reached accepted
  refine ⟨_, final, fault?, stops, fun style wall => ?_⟩
  have follows := Session.play_follows (.start machine clock (.create style wall)) rfl count
    (Course.stopsByFault_of_map outcome)
  exact ⟨follows.endsLike outcome last, (Headless.report_follows follows).endsLike outcome last⟩

/-- With a positive budget both frontends stop where the plain steps stop, within the budget. A
budget of zero keeps the terminal from running, but counts as unset for a run without a screen. -/
theorem budget_respected {machine : Machine} {clock : Clock} {config : Config} {count : Nat}
    (reached : machine.Reachable) (steps : config.steps = some (count : Int))
    (accepted : machine.AcceptsAll (clock.take (if count = 0 then 10000 else count)))
    (style style' : LogStyle) (wall wall' : Clock) (patience : Nat) :
    let session := Session.start machine clock (.create style wall)
    let session' := Session.start machine clock (.create style' wall')
    ∃ terminal headless,
      { config with frontend := "terminal" }.play? session patience = some terminal ∧
      { config with frontend := "headless" }.play? session' patience = some headless ∧
      (0 < count → ∃ taken final fault?,
        machine.StopsAfter (clock.take count) taken final fault? ∧
          ∀ playback ∈ [terminal, headless], playback.EndsLike machine taken final fault? ∧
            playback.session.logger.count ≤ count) ∧
      (count = 0 → terminal.EndsLike machine 0 machine none ∧
        ∃ taken final fault?, machine.StopsAfter (clock.take 10000) taken final fault? ∧
          headless.EndsLike machine taken final fault?) := by
  intro session session'
  refine ⟨_, _, Config.play?_terminal steps session patience,
    Config.play?_headless steps session' patience, fun positive => ?_, fun zero => ?_⟩
  · have used : count ≠ 0 := Nat.pos_iff_ne_zero.mp positive
    rw [if_neg used] at accepted ⊢
    obtain ⟨taken, final, fault?, stops, ends⟩ := Machine.exists_stops_play reached accepted
    have within {playback : Playback} (same : playback.EndsLike machine taken final fault?) :
        playback.EndsLike machine taken final fault? ∧ playback.session.logger.count ≤ count := by
      refine ⟨same, ?_⟩
      rw [same.count, ← Clock.length_take clock count]
      exact stops.cycles_le
    exact ⟨taken, final, fault?, stops, List.forall_mem_cons.mpr ⟨within (ends style wall).1,
      List.forall_mem_singleton.mpr (within (ends style' wall').2)⟩⟩
  · subst zero
    rw [if_pos rfl] at accepted
    obtain ⟨taken, final, fault?, stops, ends⟩ := Machine.exists_stops_play reached accepted
    have unread : machine.AcceptsAll (clock.take 0) := trivial
    obtain ⟨none, still, absent, atOnce, alike⟩ := Machine.exists_stops_play reached unread
    obtain ⟨rfl, rfl, rfl⟩ := Machine.StopsAfter.nil_iff.mp atOnce
    exact ⟨(alike style wall).1, taken, final, fault?, stops, (ends style' wall').2⟩

/-- Within a budget of five cycles both frontends run three, and the last one fails. -/
theorem budget_respected_drawAndFail :
    let config : Config := { steps := some (5 : Nat) }
    let session := Session.start drawAndFail ⟨[]⟩ (.create {} ⟨[]⟩)
    drawAndFail.Reachable ∧ drawAndFail.AcceptsAll (Clock.take ⟨[]⟩ 5) ∧
      ∃ terminal headless,
        { config with frontend := "terminal" }.play? session 0 = some terminal ∧
        { config with frontend := "headless" }.play? session 0 = some headless ∧
        ∀ playback ∈ [terminal, headless],
          playback.session.fault? = some (.invalidOpcode 0xFFFF) ∧
            playback.session.logger.count = 3 := by
  intro config session
  have reached : drawAndFail.Reachable := Machine.reachable_fresh _
  have accepted : drawAndFail.AcceptsAll (Clock.take ⟨[]⟩ 5) := by decide +kernel
  have ended : (session.play 5).session.fault? = some (.invalidOpcode 0xFFFF) ∧
      (session.play 5).session.logger.count = 3 := by decide +kernel
  have steps : config.steps = some ((5 : Nat) : Int) := rfl
  obtain ⟨terminal, headless, first, second, used, _⟩ :=
    budget_respected reached steps accepted {} {} ⟨[]⟩ ⟨[]⟩ 0
  obtain ⟨taken, final, fault?, _, ends⟩ := used (by decide)
  have played := (Config.play?_terminal steps session 0).symm.trans first
  cases played
  have like := (ends (session.play 5) List.mem_cons_self).1
  refine ⟨reached, accepted, _, _, first, second, fun playback inside => ?_⟩
  obtain ⟨same, _⟩ := ends playback inside
  rw [same.fault, same.count, ← like.count, ← like.fault]
  exact ended

/-- This program starts with a word without meaning. -/
def failAtOnce : Machine := Machine.fresh.obeyAll [.load (.bytes [0xFF, 0xFF])]

/-- With a budget of zero the terminal runs nothing, but a run without a screen meets the fault. -/
theorem budget_exceeded_at_zero :
    let config : Config := { steps := some 0 }
    let session := Session.start failAtOnce ⟨[]⟩ (.create {} ⟨[]⟩)
    failAtOnce.Reachable ∧ failAtOnce.AcceptsAll (Clock.take ⟨[]⟩ 10000) ∧
      ∃ terminal headless,
        { config with frontend := "terminal" }.play? session 0 = some terminal ∧
        { config with frontend := "headless" }.play? session 0 = some headless ∧
        (terminal.session.logger.count = 0 ∧ terminal.session.fault? = none) ∧
        headless.session.logger.count = 1 ∧
          headless.session.fault? = some (.invalidOpcode 0xFFFF) := by
  intro config session
  have reached : failAtOnce.Reachable := Machine.reachable_fresh _
  have accepted : failAtOnce.AcceptsAll (Clock.take ⟨[]⟩ 10000) := by decide +kernel
  have failed : (Headless.report (session.play 10000)).session.logger.count = 1 ∧
      (Headless.report (session.play 10000)).session.fault? = some (.invalidOpcode 0xFFFF) := by
    decide +kernel
  have steps : config.steps = some ((0 : Nat) : Int) := rfl
  exact ⟨reached, accepted, _, _, Config.play?_terminal steps session 0,
    Config.play?_headless steps session 0, ⟨rfl, rfl⟩, failed⟩

end Chip8
