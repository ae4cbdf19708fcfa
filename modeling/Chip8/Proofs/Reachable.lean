import Chip8.Machine.Command
import Chip8.Proofs.Change
import Chip8.Proofs.Step

/-!
This file proves what holds of a machine after every history of commands.
-/

namespace Chip8.Machine

variable {machine next : Machine} {command : Command}

/-- A command runs an instruction, sets fields that no instruction watches over, hands out a
frame or starts anew. -/
inductive Outcome (machine : Machine) : Command → Machine → Prop where
  | instruct {command : Command} {next : Machine} (pc : UInt16) (timers : Timers Reading)
      (change : Change { machine with pc := pc, timers := timers } next) :
      Outcome machine command next
  | settle {command : Command} (memory : Memory) (timers : Timers Reading) (keypad : Keypad) :
      Outcome machine command { machine with memory := memory, timers := timers, keypad := keypad }
  | frame : Outcome machine .consumeFrame machine.consumeFrame.2
  | reset (now : Reading) : Outcome machine (.reset now) (machine.reset now)

theorem outcome_step {now : Reading} (stepped : machine.step now = .ok next) :
    machine.Outcome command next := by
  obtain ⟨timers, instruction, _, _, applied⟩ := step_eq_ok_iff.mp stepped
  exact .instruct (machine.pc + 2) timers (apply_change applied)

theorem outcome_apply {instruction : Instruction}
    (applied : machine.apply instruction = .ok next) : machine.Outcome command next :=
  .instruct machine.pc machine.timers (apply_change applied)

theorem outcome_execute {opcode : Int} (executed : machine.execute opcode = .ok next) :
    machine.Outcome command next := by
  obtain ⟨instruction, _, applied⟩ := execute_eq_ok_iff.mp executed
  exact outcome_apply applied

theorem outcome_applyItem {item : Item} (applied : machine.applyItem item = .ok next) :
    machine.Outcome command next := by
  cases item with
  | instruction value => exact outcome_apply applied
  | literal value => cases applied

theorem outcome_executeItem {item : Item} (executed : machine.executeItem item = .ok next) :
    machine.Outcome command next := by
  cases item with
  | instruction value => exact outcome_apply executed
  | literal value =>
      simp only [executeItem] at executed
      split at executed
      · exact outcome_execute executed
      · contradiction

theorem outcome_updateTimers {now : Reading} (updated : machine.updateTimers now = .ok next) :
    machine.Outcome command next := by
  unfold updateTimers at updated
  split at updated
  · cases updated
    exact .settle machine.memory _ machine.keypad
  · contradiction

theorem outcome_loadSource {source : ProgramSource}
    (loaded : machine.loadSource source = .ok next) :
    machine.Outcome command next := by
  unfold loadSource loadImage at loaded
  split at loaded
  · split at loaded
    · contradiction
    · cases loaded
      exact .settle _ machine.timers machine.keypad
  · contradiction

theorem outcome_setKey {key : Int} {state : Bool} (set : machine.setKey key state = .ok next) :
    machine.Outcome command next := by
  unfold setKey at set
  split at set
  · cases set
    exact .settle machine.memory machine.timers _
  · contradiction

theorem outcome_setKeys {states : Literal} (set : machine.setKeys states = .ok next) :
    machine.Outcome command next := by
  unfold setKeys at set
  split at set
  · cases set
    exact .settle machine.memory machine.timers _
  · contradiction

/-- Every command that is not refused has one of the four outcomes. -/
theorem perform_outcome (performed : machine.perform command = .ok next) :
    machine.Outcome command next := by
  cases command with
  | step now => exact outcome_step performed
  | execute item => exact outcome_executeItem performed
  | apply item => exact outcome_applyItem performed
  | updateTimers now => exact outcome_updateTimers performed
  | load source => exact outcome_loadSource performed
  | reset now =>
      cases performed
      exact .reset now
  | press key => exact outcome_setKey performed
  | release key => exact outcome_setKey performed
  | setKeys states => exact outcome_setKeys performed
  | consumeFrame =>
      cases performed
      exact .frame

theorem obey_of_ok [RandomLibrary] (performed : machine.perform command = .ok next) :
    machine.obey command = next := by
  simp only [obey, performed]

theorem obey_of_error [RandomLibrary] {error : Error}
    (refused : machine.perform command = .error error) :
    machine.obey command = machine := by
  simp only [obey, refused]

theorem obey_step_of_ok {now : Reading} (stepped : machine.step now = .ok next) :
    machine.obey (.step now) = next := obey_of_ok stepped

theorem obey_step_of_error {now : Reading} {error : Error}
    (failed : machine.step now = .error error) :
    machine.obey (.step now) = machine := obey_of_error failed

/-- A refused command counts as one that changes nothing. -/
theorem obey_outcome (machine : Machine) (command : Command) :
    machine.Outcome command (machine.obey command) := by
  cases performed : machine.perform command with
  | ok next =>
      rw [obey_of_ok performed]
      exact perform_outcome performed
  | error error =>
      rw [obey_of_error performed]
      exact .settle machine.memory machine.timers machine.keypad

/-- The stack keeps its free slots clear, and the display has the size of the mode. -/
structure Coherent (machine : Machine) : Prop where
  stack : machine.stack.WellFormed
  width : machine.display.width = machine.mode.width
  height : machine.display.height = machine.mode.height

theorem coherent_create (key : RandomKey) (mode : Mode) (now : Reading) :
    (create key mode now).Coherent :=
  ⟨CallStack.wellFormed_empty, rfl, rfl⟩

/-- No instruction parts the display from the mode or dirties a free slot. -/
theorem Coherent.change (coherent : machine.Coherent) (change : machine.Change next) :
    next.Coherent := by
  cases change with
  | work key memory pc index registers delay sound =>
      exact ⟨coherent.stack, coherent.width, coherent.height⟩
  | call stack pc pushed => exact ⟨coherent.stack.push pushed, coherent.width, coherent.height⟩
  | back stack address popped =>
      exact ⟨coherent.stack.pop popped, coherent.width, coherent.height⟩
  | picture display registers width height =>
      exact ⟨coherent.stack, width.trans coherent.width, height.trans coherent.height⟩
  | hires => exact ⟨coherent.stack, rfl, rfl⟩

theorem Coherent.outcome (coherent : machine.Coherent) (outcome : machine.Outcome command next) :
    next.Coherent := by
  cases outcome with
  | instruct pc timers change =>
      have ready : Coherent { machine with pc := pc, timers := timers } :=
        ⟨coherent.stack, coherent.width, coherent.height⟩
      exact ready.change change
  | settle memory timers keypad => exact ⟨coherent.stack, coherent.width, coherent.height⟩
  | frame =>
      unfold consumeFrame
      split
      · exact ⟨coherent.stack, coherent.width, coherent.height⟩
      · exact coherent
  | reset now => exact coherent_create machine.key machine.mode now

/-- The mode moves in one direction only. -/
theorem Change.mode (change : machine.Change next) :
    next.mode = machine.mode ∨ next.mode = .eti64x64 := by
  cases change with
  | work | call | back | picture => exact .inl rfl
  | hires => exact .inr rfl

theorem Outcome.mode (outcome : machine.Outcome command next) :
    next.mode = machine.mode ∨ next.mode = .eti64x64 := by
  cases outcome with
  | instruct pc timers change => exact change.mode
  | settle memory timers keypad => exact .inl rfl
  | frame =>
      unfold consumeFrame
      split
      · exact .inl rfl
      · exact .inl rfl
  | reset now => exact .inl rfl

/-- A run of commands keeps what each command keeps. -/
theorem Coherent.obeyAll (coherent : machine.Coherent) (commands : List Command) :
    (machine.obeyAll commands).Coherent := by
  induction commands generalizing machine with
  | nil => exact coherent
  | cons command rest ih => exact ih (coherent.outcome (machine.obey_outcome command))

theorem obeyAll_mode (machine : Machine) (commands : List Command) :
    (machine.obeyAll commands).mode = machine.mode ∨
      (machine.obeyAll commands).mode = .eti64x64 := by
  induction commands generalizing machine with
  | nil => exact .inl rfl
  | cons command rest ih =>
      have later : ((machine.obey command).obeyAll rest).mode = (machine.obey command).mode ∨
        ((machine.obey command).obeyAll rest).mode = .eti64x64 := ih (machine.obey command)
      rcases (machine.obey_outcome command).mode with same | square
      · rw [same] at later
        exact later
      · rw [square] at later
        exact .inr (later.elim id id)

/-- A history of commands leads from a new machine to a reachable one. -/
def Reachable (machine : Machine) : Prop :=
  ∃ key mode now commands, (create key mode now).obeyAll commands = machine

/-- The usual new machine starts its histories at time zero. -/
def fresh : Machine := create ⟨0, 0⟩ .basic64x32 .zero

theorem reachable_obeyAll (key : RandomKey) (mode : Mode) (now : Reading)
    (commands : List Command) : ((create key mode now).obeyAll commands).Reachable :=
  ⟨key, mode, now, commands, rfl⟩

theorem reachable_fresh (commands : List Command) : (fresh.obeyAll commands).Reachable :=
  reachable_obeyAll ⟨0, 0⟩ .basic64x32 .zero commands

theorem Reachable.coherent (reached : machine.Reachable) : machine.Coherent := by
  obtain ⟨key, mode, now, commands, rfl⟩ := reached
  exact (coherent_create key mode now).obeyAll commands

theorem Reachable.obeyAll (reached : machine.Reachable) (commands : List Command) :
    (machine.obeyAll commands).Reachable := by
  obtain ⟨key, mode, now, earlier, rfl⟩ := reached
  exact ⟨key, mode, now, earlier ++ commands, List.foldl_append⟩

theorem Reachable.step {now : Reading} (reached : machine.Reachable)
    (stepped : machine.step now = .ok next) : next.Reachable := by
  have obeyed : machine.obeyAll [.step now] = next := by
    simp only [Machine.obeyAll, List.foldl_cons, List.foldl_nil, obey, perform, stepped]
  rw [← obeyed]
  exact reached.obeyAll [.step now]

/-- Every history keeps the stack within its slots and the display at the size of its mode. -/
theorem obeyAll_create_bounds (key : RandomKey) (mode : Mode) (now : Reading)
    (commands : List Command) :
    let machine := (create key mode now).obeyAll commands
    (0 ≤ machine.stack.depth ∧ machine.stack.depth ≤ 16) ∧
      (machine.stack.slots.toList.length = 16 ∧ ∀ slot : Fin 16,
        (machine.stack.depth ≤ slot.val → machine.stack.slots[slot] = 0) ∧
          (slot.val < machine.stack.depth → machine.stack.slots[slot].toNat ≤ 0x0FFF)) ∧
      (machine.display.width, machine.display.height) = (machine.mode.width, machine.mode.height) ∧
      (machine.mode = mode ∨ machine.mode = .eti64x64) ∧
      (∀ later, machine.mode = .eti64x64 → (machine.obeyAll later).mode = .eti64x64) ∧
      (machine.memory.cells.toList.length = 4096 ∧ machine.registers.cells.toList.length = 16 ∧
        machine.keypad.keys.toList.length = 16) ∧
      machine.pc.toNat ≤ 0xFFFF ∧ machine.index.toNat ≤ 0xFFFF := by
  intro machine
  have coherent : machine.Coherent := (reachable_obeyAll key mode now commands).coherent
  obtain ⟨lower, upper, slots⟩ := coherent.stack
  have sizes : (machine.display.width, machine.display.height) =
      (machine.mode.width, machine.mode.height) := by
    rw [coherent.width, coherent.height]
  have stays (later : List Command) (square : machine.mode = .eti64x64) :
      (machine.obeyAll later).mode = .eti64x64 := by
    rcases machine.obeyAll_mode later with same | again
    · exact same.trans square
    · exact again
  refine ⟨⟨lower, upper⟩, ⟨Vector.length_toList, fun slot => ⟨(slots slot).2, (slots slot).1⟩⟩,
    sizes, obeyAll_mode (create key mode now) commands, stays,
    ⟨Vector.length_toList, Vector.length_toList, Vector.length_toList⟩, ?_, ?_⟩
  · exact Nat.le_of_lt_succ machine.pc.toNat_lt
  · exact Nat.le_of_lt_succ machine.index.toNat_lt

end Chip8.Machine
