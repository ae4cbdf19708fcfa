import Chip8.Machine.Apply

/-!
This file proves what each instruction does to the machine, and which registers it writes.
-/

namespace Chip8

/-- A number in the range of a byte is kept as it is. -/
theorem toNat_ofInt {value : Int} (lower : 0 ≤ value) (upper : value ≤ 0xFF) :
    ((UInt8.ofInt value).toNat : Int) = value := by
  rw [UInt8.ofInt, UInt8.toNat_ofNat']
  omega

namespace Registers

theorem read_write_self (registers : Registers) (x : Int) (value : UInt8) :
    (registers.write x value).read x = value := by
  rw [read_write, if_pos rfl]

theorem read_write_of_ne (registers : Registers) {x r : Int} (value : UInt8)
    (other : registerIndex r ≠ registerIndex x) :
    (registers.write x value).read r = registers.read r := by
  rw [read_write, if_neg other]

theorem read_fillUpTo_of_lt (registers : Registers) {x r : Int} (value : Nat → UInt8)
    (above : (registerIndex x).val < (registerIndex r).val) :
    (registers.fillUpTo x value).read r = registers.read r := by
  have outside : ¬(registerIndex r).val ≤ (registerIndex x).val := Nat.not_le.mpr above
  simp only [read, fillUpTo, Fin.getElem_fin, Vector.getElem_ofFn, if_neg outside]

theorem length_upTo (registers : Registers) (x : Int) :
    (registers.upTo x).length = (registerIndex x).val + 1 := by
  have inside := (registerIndex x).isLt
  rw [upTo, List.length_take, Vector.length_toList]
  omega

end Registers

theorem Keypad.released_of_firstHeld? {keypad : Keypad} (released : keypad.firstHeld? = none)
    (key : Fin keyCount) : keypad.keys[key] = false := by
  rw [firstHeld?, Vector.findFinIdx?_eq_none_iff] at released
  simpa using released keypad.keys[key] (by simp)

namespace Instruction

/-- The register operands name one of the sixteen registers. -/
def NamesRegisters (instruction : Instruction) : Prop :=
  ∀ operand ∈ instruction.operands, operand.kind = .register → operand.InRange

instance (instruction : Instruction) : Decidable instruction.NamesRegisters :=
  inferInstanceAs (Decidable (∀ _ ∈ _, _ → _))

/-- These instructions put their result into the register that stands first. -/
def target? : Instruction → Option Int
  | .setImmediate x _ | .addImmediate x _ | .random x _ | .getDelayTimer x | .waitForKey x
  | .setRegister x _ | .or x _ | .and x _ | .xor x _ | .add x _ | .subtract x _
  | .shiftRight x | .subtractReversed x _ | .shiftLeft x => some x
  | _ => none

/-- These instructions report a carry, a missing borrow, a lost bit or a collision. -/
def reports : Instruction → Bool
  | .add _ _ | .subtract _ _ | .shiftRight _ | .subtractReversed _ _ | .shiftLeft _
  | .draw _ _ _ => true
  | _ => false

/-- A register may take the result, a byte from the memory or the flag. -/
def Writes (instruction : Instruction) (r : Int) : Prop :=
  instruction.target? = some r ∨ (∃ x, instruction = .loadRegisters x ∧ r ≤ x) ∨
    instruction.reports = true ∧ r = 0xF

/-- So many cells from the index onwards are stored. -/
def stored : Instruction → Nat
  | .binaryCodedDecimal _ => 3
  | .storeRegisters x => x.toNat + 1
  | _ => 0

/-- These instructions move the index. -/
def setsIndex : Instruction → Bool
  | .setIndex _ | .addToIndex _ | .fontCharacter _ => true
  | _ => false

variable {instruction : Instruction} {operation : AluOperation} {x y r : Int}

theorem NamesRegisters.range_of_target? (named : instruction.NamesRegisters)
    (target : instruction.target? = some x) : 0 ≤ x ∧ x ≤ 0xF := by
  have first : (⟨"x", .register, x⟩ : Operand) ∈ instruction.operands := by
    cases instruction <;> simp_all [target?, operands]
  exact named _ first rfl

theorem registerIndex_eq (range : 0 ≤ x ∧ x ≤ 0xF) : ((registerIndex x).val : Int) = x := by
  unfold registerIndex registerCount
  simp only
  omega

/-- Two numbers in range that name one register are the same. -/
theorem registerIndex_injective (range : 0 ≤ x ∧ x ≤ 0xF) (range' : 0 ≤ r ∧ r ≤ 0xF)
    (same : registerIndex r = registerIndex x) : r = x := by
  rw [← registerIndex_eq range', same, registerIndex_eq range]

/-- The register of the result is no other one. -/
theorem NamesRegisters.registerIndex_ne (named : instruction.NamesRegisters)
    (target : instruction.target? = some x) (range : 0 ≤ r ∧ r ≤ 0xF)
    (kept : ¬instruction.Writes r) : registerIndex r ≠ registerIndex x := by
  intro same
  have equal := registerIndex_injective (named.range_of_target? target) range same
  exact kept (.inl (target.trans (congrArg some equal.symm)))

/-- A report goes into the flag and nowhere else. -/
theorem flagIndex_ne (reports : instruction.reports = true) (range : 0 ≤ r ∧ r ≤ 0xF)
    (kept : ¬instruction.Writes r) : registerIndex r ≠ registerIndex flagRegister := by
  intro same
  have equal : r = 0xF := registerIndex_injective (by decide) range same
  exact kept (.inr (.inr ⟨reports, equal⟩))

theorem target?_of_arithmetic? (arithmetic : instruction.arithmetic? = some (operation, x, y)) :
    instruction.target? = some x := by
  cases instruction <;> simp_all [arithmetic?, target?]

/-- An operation without a report leaves the flag alone. -/
theorem reports_of_arithmetic? (arithmetic : instruction.arithmetic? = some (operation, x, y))
    {a b flag : Int} (flagged : (operation.compute a b).flag? = some flag) :
    instruction.reports = true := by
  cases instruction <;> simp_all [arithmetic?, reports] <;>
    obtain ⟨rfl, _⟩ := arithmetic <;> cases flagged

end Instruction

namespace Machine

variable {machine next : Machine} {instruction : Instruction}

/-- A jump behind the first instruction of the program may switch the display. -/
def EntersHires (machine : Machine) (instruction : Instruction) : Prop :=
  instruction = .jump 0x260 ∧ machine.pc = 0x202

/-- A wait branches back when no key is held. -/
def Branches (machine : Machine) : Instruction → Prop
  | .jump _ | .call _ | .returnFromCall | .jumpWithOffset _
  | .skipIfEqualImmediate _ _ | .skipIfNotEqualImmediate _ _ | .skipIfEqualRegister _ _
  | .skipIfNotEqualRegister _ _ | .skipIfKeyPressed _ | .skipIfKeyNotPressed _ => True
  | .waitForKey _ => ∀ key : Fin keyCount, machine.keypad.keys[key] = false
  | _ => False

variable [RandomLibrary]

/-- An instruction changes nothing, or one of these parts of the machine. -/
inductive Effect (machine : Machine) : Instruction → Machine → Prop where
  | nothing {instruction : Instruction} : Effect machine instruction machine
  | registers {instruction : Instruction} (registers : Registers)
      (kept : instruction.NamesRegisters → ∀ r, 0 ≤ r ∧ r ≤ 0xF → ¬instruction.Writes r →
        registers.read r = machine.registers.read r) :
      Effect machine instruction { machine with registers := registers }
  | memory {instruction : Instruction} (values : List UInt8)
      (count : instruction.NamesRegisters → values.length = instruction.stored) :
      Effect machine instruction
        { machine with memory := machine.memory.writeBlock machine.index.toNat values }
  | counter {instruction : Instruction} (pc : UInt16) (branches : machine.Branches instruction) :
      Effect machine instruction { machine with pc := pc }
  | index {instruction : Instruction} (index : UInt16) (sets : instruction.setsIndex = true) :
      Effect machine instruction { machine with index := index }
  | delay (x : Int) (delay : UInt8) :
      Effect machine (.setDelayTimer x)
        { machine with timers := { machine.timers with delay := delay } }
  | sound (x : Int) (sound : UInt8) :
      Effect machine (.setSoundTimer x)
        { machine with timers := { machine.timers with sound := sound } }
  | random (x mask : Int) : Effect machine (.random x mask) (machine.randomize x mask)
  | call (address : Int) (stack : CallStack) (pc : UInt16)
      (pushed : machine.stack.push machine.pc = .ok stack) :
      Effect machine (.call address) { machine with stack := stack, pc := pc }
  | back (stack : CallStack) (address : UInt16)
      (popped : machine.stack.pop machine.pc.toNat = .ok (address, stack)) :
      Effect machine .returnFromCall { machine with stack := stack, pc := address }
  | clear {instruction : Instruction}
      (clears : instruction = .clearScreen ∨ instruction = .sys 0x230) :
      Effect machine instruction machine.clearScreen
  | draw (x y height : Int) : Effect machine (.draw x y height) (machine.draw x y height)
  | hires {instruction : Instruction} (enters : machine.EntersHires instruction) :
      Effect machine instruction machine.enterHires

theorem effect_setRegister (machine : Machine) {x : Int} (target : instruction.target? = some x)
    (value : UInt8) : machine.Effect instruction (machine.setRegister x value) :=
  .registers _ fun named _ range kept =>
    machine.registers.read_write_of_ne value (named.registerIndex_ne target range kept)

theorem effect_compute (machine : Machine) {operation : AluOperation} {x y : Int}
    (arithmetic : instruction.arithmetic? = some (operation, x, y)) :
    machine.Effect instruction (machine.compute operation x y) := by
  have target := Instruction.target?_of_arithmetic? arithmetic
  simp only [compute]
  split
  · rename_i flag flagged
    refine .registers _ fun named r range kept => ?_
    have reports := Instruction.reports_of_arithmetic? arithmetic flagged
    exact (Registers.read_write_of_ne _ _ (Instruction.flagIndex_ne reports range kept)).trans
      (machine.registers.read_write_of_ne _ (named.registerIndex_ne target range kept))
  · exact machine.effect_setRegister target _

theorem effect_skipIf (machine : Machine) (condition : Bool)
    (branches : machine.Branches instruction) :
    machine.Effect instruction (machine.skipIf condition) := by
  unfold skipIf
  split
  · exact .counter _ branches
  · exact .nothing

theorem effect_waitForKey (machine : Machine) (x : Int) :
    machine.Effect (.waitForKey x) (machine.waitForKey x) := by
  unfold waitForKey
  split
  · exact machine.effect_setRegister rfl _
  · rename_i released
    exact .counter _ (Keypad.released_of_firstHeld? released)

theorem effect_loadRegisters (machine : Machine) (x : Int) :
    machine.Effect (.loadRegisters x) (machine.loadRegisters x) := by
  refine .registers _ fun named r range kept => ?_
  have limit : 0 ≤ x ∧ x ≤ 0xF := named _ (List.mem_singleton.mpr rfl) rfl
  have above : x < r := Int.not_le.mp fun below => kept (.inr (.inl ⟨x, rfl, below⟩))
  apply Registers.read_fillUpTo_of_lt
  have lower := Instruction.registerIndex_eq limit
  have upper := Instruction.registerIndex_eq range
  omega

theorem effect_storeRegisters (machine : Machine) (x : Int) :
    machine.Effect (.storeRegisters x) (machine.storeRegisters x) := by
  refine .memory _ fun named => ?_
  have range : 0 ≤ x ∧ x ≤ 0xF := named _ (List.mem_singleton.mpr rfl) rfl
  have index := Instruction.registerIndex_eq range
  rw [Registers.length_upTo, Instruction.stored]
  omega

theorem effect_jump {address : Int} (jumped : machine.jump address = .ok next)
    (branches : machine.Branches instruction) : machine.Effect instruction next := by
  unfold jump at jumped
  split at jumped
  · cases jumped
    exact .counter _ branches
  · contradiction

/-- A call that succeeds has pushed the counter and then jumped. -/
theorem effect_call {address : Int} (called : machine.call address = .ok next) :
    machine.Effect (.call address) next := by
  unfold call at called
  split at called
  · rename_i stack pushed
    unfold jump at called
    split at called
    · cases called
      exact .call address stack _ pushed
    · contradiction
  · contradiction

theorem effect_returnFromCall (returned : machine.returnFromCall = .ok next) :
    machine.Effect .returnFromCall next := by
  unfold returnFromCall at returned
  split at returned
  · rename_i address stack popped
    cases returned
    exact .back stack address popped
  · contradiction

/-- Every instruction keeps to its own effect. -/
theorem apply_effect (applied : machine.apply instruction = .ok next) :
    machine.Effect instruction next := by
  cases instruction with
  | sys address =>
      cases applied
      split
      · rename_i legacy
        exact .clear (.inr (congrArg _ legacy))
      · exact .nothing
  | clearScreen =>
      cases applied
      exact .clear (.inl rfl)
  | returnFromCall => exact effect_returnFromCall applied
  | jump address =>
      simp only [apply] at applied
      split at applied
      · rename_i switch
        cases applied
        exact .hires ⟨congrArg _ switch.1, switch.2⟩
      · exact effect_jump applied trivial
  | call address => exact effect_call applied
  | skipIfEqualImmediate | skipIfNotEqualImmediate | skipIfEqualRegister
  | skipIfNotEqualRegister | skipIfKeyPressed | skipIfKeyNotPressed =>
      cases applied
      exact machine.effect_skipIf _ trivial
  | setRegister | or | and | xor | add | subtract | shiftRight | subtractReversed | shiftLeft =>
      cases applied
      exact machine.effect_compute rfl
  | setImmediate x value =>
      simp only [apply] at applied
      split at applied
      · cases applied
        exact machine.effect_setRegister rfl _
      · contradiction
  | addImmediate | getDelayTimer =>
      cases applied
      exact machine.effect_setRegister rfl _
  | setIndex address =>
      simp only [apply] at applied
      split at applied
      · cases applied
        exact .index _ rfl
      · contradiction
  | addToIndex | fontCharacter =>
      cases applied
      exact .index _ rfl
  | jumpWithOffset address =>
      cases applied
      exact .counter _ trivial
  | random x mask =>
      cases applied
      exact .random x mask
  | draw x y height =>
      cases applied
      exact .draw x y height
  | waitForKey x =>
      cases applied
      exact machine.effect_waitForKey x
  | setDelayTimer x =>
      cases applied
      exact .delay x _
  | setSoundTimer x =>
      cases applied
      exact .sound x _
  | binaryCodedDecimal x =>
      cases applied
      exact .memory _ fun _ => rfl
  | storeRegisters x =>
      cases applied
      exact machine.effect_storeRegisters x
  | loadRegisters x =>
      cases applied
      exact machine.effect_loadRegisters x

end Machine
end Chip8
