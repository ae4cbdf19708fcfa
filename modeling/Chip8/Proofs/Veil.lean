import Chip8.Proofs.Step

/-!
This file proves that the fields which an instruction does not read make no difference to what it
does to the other ones.
-/

namespace Chip8.Machine

/-- A veil hides the timers, or the flag of a waiting frame, or both. -/
structure Veil where
  timers : Bool
  redraw : Bool

def Veil.time : Veil := ⟨true, false⟩

def Veil.frame : Veil := ⟨false, true⟩

/-- Hidden fields look alike in all machines. -/
def under (machine : Machine) (veil : Veil) : Machine :=
  { machine with
    timers := if veil.timers then ⟨0, 0, .zero⟩ else machine.timers
    redraw := !veil.redraw && machine.redraw }

/-- Only one instruction reads a timer, and none reads the flag. -/
def Veil.Covers (veil : Veil) (instruction : Instruction) : Prop :=
  veil.timers = true → ∀ x, instruction ≠ .getDelayTimer x

variable {machine other next : Machine} {veil : Veil} {instruction : Instruction}

theorem skipIf_under (machine : Machine) (veil : Veil) (condition : Bool) :
    ((machine.under veil).skipIf condition).under veil =
      (machine.skipIf condition).under veil := by
  rcases veil with ⟨_ | _, _ | _⟩ <;> cases condition <;> rfl

theorem compute_under (machine : Machine) (veil : Veil) (operation : AluOperation) (x y : Int) :
    ((machine.under veil).compute operation x y).under veil =
      (machine.compute operation x y).under veil := by
  rcases veil with ⟨_ | _, _ | _⟩ <;> simp only [compute, under, setRegister] <;> split <;> rfl

theorem waitForKey_under (machine : Machine) (veil : Veil) (x : Int) :
    ((machine.under veil).waitForKey x).under veil = (machine.waitForKey x).under veil := by
  rcases veil with ⟨_ | _, _ | _⟩ <;> simp only [waitForKey, under] <;> split <;> rfl

theorem jump_under (machine : Machine) (veil : Veil) (address : Int) :
    ((machine.under veil).jump address).map (under · veil) =
      (machine.jump address).map (under · veil) := by
  unfold jump
  rcases veil with ⟨_ | _, _ | _⟩ <;> split <;> rfl

theorem call_under (machine : Machine) (veil : Veil) (address : Int) :
    ((machine.under veil).call address).map (under · veil) =
      (machine.call address).map (under · veil) := by
  simp only [call, under]
  cases machine.stack.push machine.pc with
  | ok stack => exact jump_under { machine with stack := stack } veil address
  | error error => rfl

theorem returnFromCall_under (machine : Machine) (veil : Veil) :
    (machine.under veil).returnFromCall.map (under · veil) =
      machine.returnFromCall.map (under · veil) := by
  simp only [returnFromCall, under]
  cases machine.stack.pop machine.pc.toNat with
  | ok popped => rcases veil with ⟨_ | _, _ | _⟩ <;> rfl
  | error error => rfl

theorem apply_under (machine : Machine) (covers : veil.Covers instruction) :
    ((machine.under veil).apply instruction).map (under · veil) =
      (machine.apply instruction).map (under · veil) := by
  cases instruction with
  | sys address =>
      simp only [apply]
      rcases veil with ⟨_ | _, _ | _⟩ <;> split <;> rfl
  | jump address =>
      have counter : (machine.under veil).pc = machine.pc := rfl
      simp only [apply, counter]
      split
      · rcases veil with ⟨_ | _, _ | _⟩ <;> rfl
      · exact machine.jump_under veil address
  | call address => exact machine.call_under veil address
  | returnFromCall => exact machine.returnFromCall_under veil
  | skipIfEqualImmediate | skipIfNotEqualImmediate | skipIfEqualRegister
  | skipIfNotEqualRegister | skipIfKeyPressed | skipIfKeyNotPressed =>
      exact congrArg Except.ok (machine.skipIf_under veil _)
  | setRegister | or | and | xor | add | subtract | shiftRight | subtractReversed | shiftLeft =>
      exact congrArg Except.ok (machine.compute_under veil _ _ _)
  | setImmediate x value | setIndex value =>
      simp only [apply]
      rcases veil with ⟨_ | _, _ | _⟩ <;> split <;> rfl
  | getDelayTimer x =>
      rcases veil with ⟨_ | _, redraw⟩
      · cases redraw <;> rfl
      · exact absurd rfl (covers rfl x)
  | waitForKey x => exact congrArg Except.ok (machine.waitForKey_under veil x)
  | _ => rcases veil with ⟨_ | _, _ | _⟩ <;> rfl

theorem execute_under (machine : Machine) {opcode : Int}
    (covers : ∀ instruction, Instruction.decode? opcode = some instruction →
      veil.Covers instruction) :
    ((machine.under veil).execute opcode).map (under · veil) =
      (machine.execute opcode).map (under · veil) := by
  cases decoded : Instruction.decode? opcode with
  | some instruction =>
      rw [execute_of_decode decoded, execute_of_decode decoded]
      exact machine.apply_under (covers instruction decoded)
  | none => rw [execute_of_undecodable decoded, execute_of_undecodable decoded]

/-- The word at the counter stands in front of every veil. -/
theorem peek_congr (same : machine.under veil = other.under veil) : machine.peek = other.peek := by
  have plain (machine : Machine) : (machine.under veil).peek = machine.peek := rfl
  rw [← plain machine, same, plain other]

/-- New timers differ only in front of the veil. -/
theorem ready_congr (same : machine.under veil = other.under veil) {timers timers' : Timers Reading}
    (clocks : veil.timers = true ∨ timers = timers') :
    (machine.ready timers).under veil = (other.ready timers').under veil := by
  have hidden : (other.ready timers).under veil = (other.ready timers').under veil := by
    rcases clocks with covered | rfl
    · simp only [under, ready, covered, if_true]
    · rfl
  have enters (machine : Machine) :
      ((machine.under veil).ready timers).under veil = (machine.ready timers).under veil := by
    rcases veil with ⟨_ | _, _ | _⟩ <;> rfl
  rw [← hidden, ← enters machine, ← enters other, same]

/-- Machines that look alike under a veil take steps that do, too. -/
theorem step_congr_under (same : machine.under veil = other.under veil) {now now' : Reading}
    {timers timers' : Timers Reading} (updated : machine.timers.update now = .ok timers)
    (updated' : other.timers.update now' = .ok timers')
    (clocks : veil.timers = true ∨ timers = timers')
    (covers : ∀ instruction, Instruction.decode? machine.peek = some instruction →
      veil.Covers instruction) :
    (machine.step now).map (under · veil) = (other.step now').map (under · veil) := by
  rw [step_of_update updated, step_of_update updated', ← peek_congr same]
  rw [← execute_under _ covers, ready_congr same clocks, execute_under _ covers]

section Outcomes

variable {first second : Except Error Machine} {view : Machine → Machine}

theorem ok_of_map_eq (alike : first.map view = second.map view) (taken : first = .ok next) :
    ∃ next', second = .ok next' ∧ view next = view next' := by
  subst taken
  cases second with
  | ok next' => exact ⟨next', rfl, Except.ok.inj alike⟩
  | error error => cases alike

theorem error_of_map_eq {error : Error} (alike : first.map view = second.map view)
    (failed : first = .error error) : second = .error error := by
  subst failed
  cases second with
  | ok next' => cases alike
  | error error' =>
      cases alike
      rfl

end Outcomes

end Chip8.Machine
