import Chip8.Error
import Chip8.Host

/-!
This file defines the stack of return addresses.
-/

namespace Chip8

/-- The stack has sixteen slots. -/
abbrev stackSize : Nat := 16

/-- A return address keeps its low twelve bits. -/
def addressMask : UInt16 := 0x0FFF

theorem toNat_and_addressMask (address : UInt16) :
    (address &&& addressMask).toNat = address.toNat % 0x1000 := by
  rw [UInt16.toNat_and]
  exact Nat.and_two_pow_sub_one_eq_mod address.toNat 12

/-- The slots at and above the depth are free. -/
structure CallStack where
  slots : Vector UInt16 stackSize
  depth : Int
  deriving DecidableEq, Repr

namespace CallStack

def empty : CallStack := ⟨Vector.replicate stackSize 0, 0⟩

/-- A negative number counts from the end of the slots, and its place is kept in a word. -/
def place (number : Int) : Int := if number < 0 then wrapWord (number + stackSize) else number

/-- Outside the slots the nearest one is read. -/
def read (stack : CallStack) (number : Int) : UInt16 :=
  have inside : min (place number).toNat 15 < stackSize := by unfold stackSize; omega
  stack.slots[min (place number).toNat 15]

/-- Outside the slots nothing is written. -/
def write (stack : CallStack) (number : Int) (value : UInt16) : Vector UInt16 stackSize :=
  if 0 ≤ place number then stack.slots.setIfInBounds (place number).toNat value else stack.slots

/-- A full stack refuses the address, and so does one whose depth lies too far below zero. -/
def push (stack : CallStack) (address : UInt16) : Except Error CallStack :=
  if stack.depth < stackSize then
    if fitsLong (stack.depth + stackSize) then
      .ok ⟨stack.write stack.depth (address &&& addressMask), stack.depth + 1⟩
    else .error .wideDepth
  else .error (.fault (.stackOverflow address.toNat stack.depth))

/-- The number of the popped slot must fit a word, and the slot is cleared. -/
def pop (stack : CallStack) (pc : Int) : Except Error (UInt16 × CallStack) :=
  let top := stack.depth - 1
  if stack.depth = 0 then .error (.fault (.stackUnderflow pc))
  else if fitsWord top then .ok (stack.read top, ⟨stack.write top 0, top⟩)
  else .error (.wideOperand top)

/-- The free slots are clear, and the slots in use hold twelve bits. -/
def WellFormed (stack : CallStack) : Prop :=
  0 ≤ stack.depth ∧ stack.depth ≤ stackSize ∧
    ∀ slot : Fin stackSize,
      (slot.val < stack.depth → stack.slots[slot].toNat ≤ 0x0FFF) ∧
        (stack.depth ≤ slot.val → stack.slots[slot] = 0)

theorem wellFormed_empty : empty.WellFormed := by
  refine ⟨Int.le_refl _, by decide, fun slot => ⟨fun below => ?_, fun _ => ?_⟩⟩
  · simp only [empty] at below
    omega
  · simp [empty]

/-- Only the slot of the number changes. -/
theorem getElem_write (stack : CallStack) {number : Int} (value : UInt16) (lower : 0 ≤ number)
    (slot : Fin stackSize) :
    (stack.write number value)[slot] =
      if number = slot.val then value else stack.slots[slot] := by
  have natural : place number = number := if_neg (by omega)
  by_cases same : number = slot.val
  · subst same
    simp [write, natural]
  · have other : number.toNat ≠ slot.val := by omega
    simp [write, natural, lower, same, Vector.getElem_setIfInBounds_ne _ other]

/-- A slot is found at its own number. -/
theorem read_slot (stack : CallStack) (slot : Fin stackSize) :
    stack.read slot.val = stack.slots[slot] := by
  have natural : place slot.val = slot.val := if_neg (by omega)
  have inside : min (slot.val : Int).toNat 15 = slot.val := by
    have bound := slot.isLt
    unfold stackSize at bound
    omega
  simp only [read, natural, inside]
  rfl

/-- The address goes into the slot at the depth. -/
theorem push_of_free {stack : CallStack} (formed : stack.WellFormed)
    (free : stack.depth < stackSize) (address : UInt16) :
    stack.push address =
      .ok ⟨stack.write stack.depth (address &&& addressMask), stack.depth + 1⟩ := by
  have lower := formed.1
  have size : (stackSize : Int) = 16 := rfl
  rw [push, if_pos free, if_pos (by unfold fitsLong; omega)]

theorem push_of_full {stack : CallStack} (full : stack.depth = stackSize) (address : UInt16) :
    stack.push address = .error (.fault (.stackOverflow address.toNat stackSize)) := by
  rw [push, if_neg (by omega), full]

/-- The slot below the depth is read and cleared. -/
theorem pop_of_used {stack : CallStack} (formed : stack.WellFormed) (used : 0 < stack.depth)
    (pc : Int) :
    stack.pop pc = .ok (stack.read (stack.depth - 1),
      ⟨stack.write (stack.depth - 1) 0, stack.depth - 1⟩) := by
  have upper := formed.2.1
  have size : (stackSize : Int) = 16 := rfl
  simp only [pop]
  rw [if_neg (by omega), if_pos (by unfold fitsWord; omega)]

theorem pop_of_empty {stack : CallStack} (empty : stack.depth = 0) (pc : Int) :
    stack.pop pc = .error (.fault (.stackUnderflow pc)) := by
  simp only [pop]
  rw [if_pos empty]

theorem lt_stackSize_of_push {stack next : CallStack} {address : UInt16}
    (pushed : stack.push address = .ok next) : stack.depth < stackSize := by
  unfold push at pushed
  split at pushed
  · assumption
  · contradiction

theorem depth_ne_zero_of_pop {stack next : CallStack} {pc : Int} {address : UInt16}
    (popped : stack.pop pc = .ok (address, next)) : stack.depth ≠ 0 := by
  simp only [pop] at popped
  split at popped
  · contradiction
  · assumption

theorem eq_of_push {stack next : CallStack} {address : UInt16} (formed : stack.WellFormed)
    (pushed : stack.push address = .ok next) :
    next = ⟨stack.write stack.depth (address &&& addressMask), stack.depth + 1⟩ := by
  rw [push_of_free formed (lt_stackSize_of_push pushed)] at pushed
  exact (Except.ok.inj pushed).symm

theorem eq_of_pop {stack next : CallStack} {pc : Int} {address : UInt16}
    (formed : stack.WellFormed) (popped : stack.pop pc = .ok (address, next)) :
    0 < stack.depth ∧ address = stack.read (stack.depth - 1) ∧
      next = ⟨stack.write (stack.depth - 1) 0, stack.depth - 1⟩ := by
  have used : 0 < stack.depth := by
    have lower := formed.1
    have some := depth_ne_zero_of_pop popped
    omega
  rw [pop_of_used formed used] at popped
  obtain ⟨top, rest⟩ := Prod.mk.inj (Except.ok.inj popped)
  exact ⟨used, top.symm, rest.symm⟩

theorem WellFormed.push {stack next : CallStack} {address : UInt16} (formed : stack.WellFormed)
    (pushed : stack.push address = .ok next) : next.WellFormed := by
  have free := lt_stackSize_of_push pushed
  rw [eq_of_push formed pushed]
  obtain ⟨lower, upper, slots⟩ := formed
  refine ⟨by simp only; omega, by simp only; omega, fun slot => ?_⟩
  simp only [getElem_write stack _ lower]
  have old := slots slot
  split
  · have masked : (address &&& addressMask).toNat ≤ 0x0FFF := by
      rw [toNat_and_addressMask]
      omega
    exact ⟨fun _ => masked, fun above => by omega⟩
  · exact ⟨fun below => old.1 (by omega), fun above => old.2 (by omega)⟩

theorem WellFormed.pop {stack next : CallStack} {pc : Int} {address : UInt16}
    (formed : stack.WellFormed) (popped : stack.pop pc = .ok (address, next)) :
    next.WellFormed := by
  obtain ⟨used, -, rfl⟩ := eq_of_pop formed popped
  have positive : 0 ≤ stack.depth - 1 := by omega
  obtain ⟨lower, upper, slots⟩ := formed
  refine ⟨by simp only; omega, by simp only; omega, fun slot => ?_⟩
  simp only [getElem_write stack _ positive]
  have old := slots slot
  split
  · exact ⟨fun below => by omega, fun _ => rfl⟩
  · exact ⟨fun below => old.1 (by omega), fun above => old.2 (by omega)⟩

end CallStack

end Chip8
