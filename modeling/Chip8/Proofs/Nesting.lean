import Chip8.Proofs.Opcode
import Chip8.Proofs.Reachable

/-!
This file proves that a return undoes the call that it belongs to.
-/

namespace Chip8

namespace CallStack

variable {lower middle upper next : CallStack} {address : UInt16} {pc : Int}

/-- The slots that the lower stack uses hold the same addresses in the upper one. -/
structure Below (lower upper : CallStack) : Prop where
  depth : lower.depth ≤ upper.depth
  slots : ∀ slot : Fin stackSize, slot.val < lower.depth → upper.slots[slot] = lower.slots[slot]

theorem Below.refl (stack : CallStack) : stack.Below stack := ⟨Int.le_refl _, fun _ _ => rfl⟩

theorem Below.trans (first : lower.Below middle) (second : middle.Below upper) :
    lower.Below upper where
  depth := Int.le_trans first.depth second.depth
  slots slot inside := by
    have deeper := first.depth
    rw [second.slots slot (by omega), first.slots slot inside]

/-- A push writes above all slots in use. -/
theorem Below.push (below : lower.Below upper) (formed : upper.WellFormed)
    (pushed : upper.push address = .ok next) : lower.Below next := by
  rw [eq_of_push formed pushed]
  have deeper := below.depth
  refine ⟨by simp only; omega, fun slot inside => ?_⟩
  simp only [getElem_write upper _ formed.1]
  rw [if_neg (by omega), below.slots slot inside]

/-- A pop that stays above the lower stack clears none of its slots. -/
theorem Below.pop (below : lower.Below upper) (formed : upper.WellFormed)
    (popped : upper.pop pc = .ok (address, next)) (above : lower.depth ≤ next.depth) :
    lower.Below next := by
  obtain ⟨used, -, rfl⟩ := eq_of_pop formed popped
  refine ⟨above, fun slot inside => ?_⟩
  simp only at above ⊢
  rw [getElem_write upper _ (by omega), if_neg (by omega), below.slots slot inside]

/-- At the same depth nothing is left to differ, since all free slots are clear. -/
theorem Below.eq (below : lower.Below upper) (formed : lower.WellFormed)
    (formed' : upper.WellFormed) (same : upper.depth = lower.depth) : upper = lower := by
  have slots : upper.slots = lower.slots := by
    apply Vector.ext
    intro number bound
    let slot : Fin stackSize := ⟨number, bound⟩
    by_cases inside : slot.val < lower.depth
    · exact below.slots slot inside
    · have free := (formed.2.2 slot).2 (by omega)
      have free' := (formed'.2.2 slot).2 (by omega)
      exact free'.trans free.symm
  cases upper
  cases lower
  simp only at same slots
  rw [same, slots]

end CallStack

namespace Machine

variable {machine next first last final : Machine} {now later : Reading}

theorem Change.below {lower : CallStack} (change : machine.Change next)
    (formed : machine.stack.WellFormed) (below : lower.Below machine.stack)
    (above : lower.depth ≤ next.stack.depth) : lower.Below next.stack := by
  cases change with
  | call stack pc pushed => exact below.push formed pushed
  | back stack address popped => exact below.pop formed popped above
  | work | picture | hires => exact below

/-- A run takes any number of steps, and its stack is never less deep than the bound. -/
inductive RunsAbove (bound : Int) (first : Machine) : Machine → Prop where
  | start (above : bound ≤ first.stack.depth) : RunsAbove bound first first
  | step {last next : Machine} {now : Reading} (run : RunsAbove bound first last)
      (stepped : last.step now = .ok next) (above : bound ≤ next.stack.depth) :
      RunsAbove bound first next

theorem RunsAbove.reachable {bound : Int} (run : RunsAbove bound first last)
    (reached : first.Reachable) : last.Reachable := by
  induction run with
  | start above => exact reached
  | step run stepped above ih => exact ih.step stepped

/-- A run that stays above the first stack leaves its slots alone. -/
theorem RunsAbove.keeps (run : RunsAbove first.stack.depth first last)
    (reached : first.Reachable) : first.stack.Below last.stack := by
  induction run with
  | start above => exact .refl first.stack
  | step run stepped above ih =>
      have formed := (run.reachable reached).coherent.stack
      obtain ⟨timers, instruction, _, _, applied⟩ := step_eq_ok_iff.mp stepped
      exact (apply_change applied).below formed ih above

/-- A call on a stack with a free slot succeeds and stores the address behind it. -/
theorem step_of_call {address : Int} (formed : machine.stack.WellFormed)
    (free : machine.stack.depth < 16)
    (calls : Instruction.decode? machine.peek = some (.call address))
    (accepted : machine.Accepts now) :
    ∃ called, machine.step now = .ok called ∧
      machine.stack.push (machine.pc + 2) = .ok called.stack := by
  obtain ⟨timers, updated⟩ := accepts_iff.mp accepted
  have pushed := CallStack.push_of_free formed free (machine.pc + 2)
  have digits := (Instruction.decode?_eq_call_iff.mp calls).2
  have word : fitsWord address := by
    unfold fitsWord
    omega
  have same : (machine.ready timers).stack.push (machine.ready timers).pc = _ := pushed
  rw [step_of_update updated, execute_of_decode calls]
  simp only [apply, call, same, jump, if_pos word]
  exact ⟨_, rfl, pushed⟩

/-- A return that succeeds goes to the address that it pops. -/
theorem pop_of_step (returns : Instruction.decode? machine.peek = some .returnFromCall)
    (stepped : machine.step now = .ok next) :
    machine.stack.pop (machine.pc + 2).toNat = .ok (next.pc, next.stack) := by
  obtain ⟨timers, instruction, _, decoded, applied⟩ := step_eq_ok_iff.mp stepped
  rw [returns] at decoded
  cases decoded
  simp only [apply, returnFromCall] at applied
  split at applied
  · rename_i address stack popped
    cases applied
    exact popped
  · contradiction

/-- The return that brings the stack back to the depth before a call goes behind the call and
restores the whole stack, whatever ran between them. -/
theorem calls_nest {address : Int} (reached : first.Reachable)
    (free : first.stack.depth < 16)
    (calls : Instruction.decode? first.peek = some (.call address))
    (accepted : first.Accepts now) :
    ∃ called, first.step now = .ok called ∧
      ∀ last final later, RunsAbove (first.stack.depth + 1) called last →
        Instruction.decode? last.peek = some .returnFromCall →
        last.step later = .ok final → final.stack.depth = first.stack.depth →
          final.pc = (first.pc + 2) &&& 0x0FFF ∧
            ((first.pc + 2).toNat < 0x1000 → final.pc = first.pc + 2) ∧
            final.stack = first.stack := by
  have formed := reached.coherent.stack
  obtain ⟨called, entered, pushed⟩ := step_of_call formed free calls accepted
  refine ⟨called, entered, fun last final later run returns left level => ?_⟩
  have pushes := CallStack.eq_of_push formed pushed
  have depth : called.stack.depth = first.stack.depth + 1 := by rw [pushes]
  rw [← depth] at run
  have lands : called.Reachable := reached.step entered
  have ends : last.Reachable := run.reachable lands
  have kept := run.keeps lands
  have popped := pop_of_step returns left
  obtain ⟨used, target, rest⟩ := CallStack.eq_of_pop ends.coherent.stack popped
  have back : last.stack.depth - 1 = first.stack.depth := by rw [← level, rest]
  -- The slot of the return address lies in the part of the stack that the run has kept.
  let slot : Fin stackSize := ⟨first.stack.depth.toNat, by
    have lower := formed.1
    unfold stackSize
    omega⟩
  have number : first.stack.depth = slot.val := by
    have lower := formed.1
    simp only [slot]
    omega
  have stored : called.stack.slots[slot] = (first.pc + 2) &&& addressMask := by
    rw [pushes]
    simp only [CallStack.getElem_write _ _ formed.1, if_pos number]
  have masked : final.pc = (first.pc + 2) &&& addressMask := by
    rw [target, back, number, CallStack.read_slot, kept.slots slot (by omega), stored]
  refine ⟨masked, fun short => ?_, ?_⟩
  · apply UInt16.toNat_inj.mp
    rw [masked, toNat_and_addressMask]
    exact Nat.mod_eq_of_lt short
  · have below := (CallStack.Below.refl first.stack).push formed pushed
    have whole := (below.trans kept).pop ends.coherent.stack popped (by omega)
    have formed' := (ends.step left).coherent.stack
    exact whole.eq formed formed' level

/-- This program calls a subroutine that calls another one, and both return. It has taken a number
of steps at time zero. -/
def nestedCalls : Nat → Machine
  | 0 => fresh.obeyAll [.load (.bytes [0x22, 0x04, 0x00, 0xE0, 0x22, 0x08, 0x00, 0xEE, 0x00, 0xEE])]
  | count + 1 => (nestedCalls count).obey (.step .zero)

theorem step_nestedCalls {count : Nat}
    (succeeds : ((nestedCalls count).step .zero).toOption.isSome) :
    (nestedCalls count).step .zero = .ok (nestedCalls (count + 1)) := by
  cases stepped : (nestedCalls count).step .zero with
  | ok next => simp only [nestedCalls, obey, perform, stepped]
  | error error =>
      rw [stepped] at succeeds
      cases succeeds

/-- The outer return comes back from the outer call, with an inner call and return in between. -/
theorem calls_nest_of_nestedCalls :
    (nestedCalls 0).Reachable ∧ (nestedCalls 0).step .zero = .ok (nestedCalls 1) ∧
      RunsAbove 1 (nestedCalls 1) (nestedCalls 3) ∧
      (nestedCalls 3).step .zero = .ok (nestedCalls 4) ∧
      (nestedCalls 4).pc = (nestedCalls 0).pc + 2 ∧
      (nestedCalls 4).stack = (nestedCalls 0).stack := by
  have reached : (nestedCalls 0).Reachable := by
    unfold nestedCalls
    exact reachable_fresh _
  have succeeds : ∀ count < 4, ((nestedCalls count).step .zero).toOption.isSome := by
    decide +kernel
  have depths : (nestedCalls 0).stack.depth = 0 ∧ 1 ≤ (nestedCalls 1).stack.depth ∧
      1 ≤ (nestedCalls 2).stack.depth ∧ 1 ≤ (nestedCalls 3).stack.depth ∧
        (nestedCalls 4).stack.depth = 0 := by
    decide +kernel
  obtain ⟨bottom, entry, inner, back, level⟩ := depths
  have words : (nestedCalls 0).peek = 0x2204 ∧ (nestedCalls 3).peek = 0x00EE ∧
      ((nestedCalls 0).pc + 2).toNat < 0x1000 := by
    decide +kernel
  obtain ⟨call, leave, low⟩ := words
  have accepted : (nestedCalls 0).Accepts .zero := by decide +kernel
  have free : (nestedCalls 0).stack.depth < 16 := by omega
  have calls : Instruction.decode? (nestedCalls 0).peek = some (.call 0x204) := by
    rw [call]
    rfl
  obtain ⟨called, entered, matching⟩ := calls_nest reached free calls accepted
  have first : (nestedCalls 0).step .zero = .ok (nestedCalls 1) :=
    step_nestedCalls (succeeds 0 (by decide))
  have second : (nestedCalls 1).step .zero = .ok (nestedCalls 2) :=
    step_nestedCalls (succeeds 1 (by decide))
  have third : (nestedCalls 2).step .zero = .ok (nestedCalls 3) :=
    step_nestedCalls (succeeds 2 (by decide))
  have fourth : (nestedCalls 3).step .zero = .ok (nestedCalls 4) :=
    step_nestedCalls (succeeds 3 (by decide))
  have same : nestedCalls 1 = called := Except.ok.inj (first.symm.trans entered)
  subst same
  have run : RunsAbove 1 (nestedCalls 1) (nestedCalls 3) :=
    ((RunsAbove.start entry).step second inner).step third back
  have returns := Instruction.decode?_eq_return_iff.mpr leave
  rw [bottom] at matching
  obtain ⟨_, short, restored⟩ := matching _ _ _ run returns fourth level
  exact ⟨reached, first, run, fourth, short low, restored⟩

end Machine

end Chip8
