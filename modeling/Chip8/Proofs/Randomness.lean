import Mathlib.Logic.Function.Iterate
import Chip8.Proofs.Footprint

/-!
This file proves that the seed and the number of draws alone fix the random bytes, whatever library
splits the keys and draws from them.
-/

namespace Chip8.Machine

variable {machine next : Machine} {command : Command} {commands : List Command}

/-- A step, an opcode or an instruction itself asks for an instruction. -/
def instruction? (machine : Machine) : Command → Option Instruction
  | .step _ => Instruction.decode? machine.peek
  | .execute (.literal value) => value.integer.toOption.bind Instruction.decode?
  | .execute (.instruction value) | .apply (.instruction value) => some value
  | _ => none

/-- A roll draws one random byte and stores the bits that the mask lets through. -/
structure Roll where
  before : Machine
  after : Machine
  x : Int
  mask : Int

/-- Under a mask a byte stays a byte. -/
theorem toNat_masked (byte : UInt8) {mask : Int} (range : 0 ≤ mask) :
    (UInt8.ofInt (bitAnd byte.toNat mask)).toNat = byte.toNat &&& mask.toNat := by
  obtain ⟨mask, rfl⟩ := Int.eq_ofNat_of_zero_le range
  have small : byte.toNat &&& mask < 2 ^ 8 := Nat.and_le_left.trans_lt byte.toNat_lt
  have masked : bitAnd byte.toNat (mask : Int) = ((byte.toNat &&& mask : Nat) : Int) := rfl
  have kept := toNat_ofInt (Int.natCast_nonneg (byte.toNat &&& mask)) (by omega)
  rw [masked, Int.toNat_natCast]
  exact Int.ofNat.inj kept

section

variable [RandomLibrary]

/-- A refused command rolls nothing. -/
def roll? (machine : Machine) (command : Command) : Option Roll :=
  match machine.instruction? command, machine.perform command with
  | some (.random x mask), .ok next => some ⟨machine, next, x, mask⟩
  | _, _ => none

/-- The rolls of a history stand in the order in which they are made. -/
def rolls (machine : Machine) : List Command → List Roll
  | [] => []
  | command :: rest => (machine.roll? command).toList ++ (machine.obey command).rolls rest

/-- A command applies the instruction it asks for, if only behind a new counter and new timers, or
it asks for none and keeps the key. -/
theorem applies_or_keeps_key (performed : machine.perform command = .ok next) :
    (∃ instruction pc timers, machine.instruction? command = some instruction ∧
      { machine with pc := pc, timers := timers : Machine }.apply instruction = .ok next) ∨
      machine.instruction? command = none ∧ next.key = machine.key := by
  cases command with
  | step now =>
      obtain ⟨timers, instruction, _, decoded, applied⟩ := step_eq_ok_iff.mp performed
      exact .inl ⟨instruction, machine.pc + 2, timers, decoded, applied⟩
  | execute item =>
      cases item with
      | instruction value => exact .inl ⟨value, machine.pc, machine.timers, rfl, performed⟩
      | literal value =>
          simp only [perform, executeItem] at performed
          cases read : value.integer with
          | ok opcode =>
              rw [read] at performed
              obtain ⟨instruction, decoded, applied⟩ := execute_eq_ok_iff.mp performed
              refine .inl ⟨instruction, machine.pc, machine.timers, ?_, applied⟩
              rw [instruction?, read]
              exact decoded
          | error error =>
              rw [read] at performed
              cases performed
  | apply item =>
      cases item with
      | instruction value => exact .inl ⟨value, machine.pc, machine.timers, rfl, performed⟩
      | literal value => cases performed
  | updateTimers now =>
      simp only [perform, updateTimers] at performed
      split at performed <;> cases performed
      exact .inr ⟨rfl, rfl⟩
  | load source =>
      simp only [perform, loadSource, loadImage] at performed
      split at performed
      · split at performed <;> cases performed
        exact .inr ⟨rfl, rfl⟩
      · contradiction
  | press key | release key =>
      simp only [perform, press, release, setKey] at performed
      split at performed <;> cases performed
      exact .inr ⟨rfl, rfl⟩
  | setKeys states =>
      simp only [perform, setKeys] at performed
      split at performed <;> cases performed
      exact .inr ⟨rfl, rfl⟩
  | reset now =>
      cases performed
      exact .inr ⟨rfl, rfl⟩
  | consumeFrame =>
      cases performed
      unfold consumeFrame
      split <;> exact .inr ⟨rfl, rfl⟩

theorem roll?_eq_some_iff {roll : Roll} :
    machine.roll? command = some roll ↔
      roll.before = machine ∧ machine.instruction? command = some (.random roll.x roll.mask) ∧
        machine.perform command = .ok roll.after := by
  unfold roll?
  constructor
  · intro rolled
    split at rolled
    · rename_i asked performed
      cases rolled
      exact ⟨rfl, asked, performed⟩
    · cases rolled
  · rintro ⟨rfl, asked, performed⟩
    rw [asked, performed]

/-- A roll stores the byte of the key under its mask, and the key moves on. -/
theorem randomize_of_roll? {roll : Roll} (rolled : machine.roll? command = some roll) :
    roll.after.registers.read roll.x =
        UInt8.ofInt (bitAnd machine.key.byte.toNat roll.mask) ∧
      roll.after.key = machine.key.next := by
  obtain ⟨_, asked, performed⟩ := roll?_eq_some_iff.mp rolled
  rcases applies_or_keeps_key performed with ⟨_, pc, timers, same, applied⟩ | ⟨idle, _⟩
  · cases same.symm.trans asked
    rw [← Except.ok.inj applied]
    exact ⟨(machine.registers.read_write _ _ _).trans (if_pos rfl), rfl⟩
  · cases asked.symm.trans idle

/-- A command without a roll leaves the key alone. -/
theorem key_of_unrolled (unrolled : machine.roll? command = none) :
    (machine.obey command).key = machine.key := by
  cases performed : machine.perform command with
  | error error => rw [obey_of_error performed]
  | ok next =>
      rw [obey_of_ok performed]
      rcases applies_or_keeps_key performed with ⟨_, pc, timers, asked, applied⟩ | ⟨_, kept⟩
      · refine (apply_effect applied).key ?_
        rintro x mask rfl
        have rolled : machine.roll? command = some ⟨machine, next, x, mask⟩ :=
          roll?_eq_some_iff.mpr ⟨rfl, asked, performed⟩
        cases rolled.symm.trans unrolled
      · exact kept

/-- The key moves once for each roll of a command. -/
theorem key_obey (machine : Machine) (command : Command) :
    (machine.obey command).key =
      RandomKey.next^[(machine.roll? command).toList.length] machine.key := by
  cases rolled : machine.roll? command with
  | none => exact key_of_unrolled rolled
  | some roll =>
      rw [obey_of_ok (roll?_eq_some_iff.mp rolled).2.2]
      exact (randomize_of_roll? rolled).2

/-- The key of a history counts its rolls. -/
theorem key_obeyAll (machine : Machine) (commands : List Command) :
    (machine.obeyAll commands).key =
      RandomKey.next^[(machine.rolls commands).length] machine.key := by
  induction commands generalizing machine with
  | nil => rfl
  | cons command rest ih =>
      have later : ((machine.obey command).obeyAll rest).key = _ := ih (machine.obey command)
      rw [key_obey, ← Function.iterate_add_apply, Nat.add_comm, ← List.length_append] at later
      exact later

/-- Each roll starts from the key that the rolls before it have left. -/
theorem key_of_rolls {count : Nat} {roll : Roll}
    (rolled : (machine.rolls commands)[count]? = some roll) :
    roll.before.key = RandomKey.next^[count] machine.key ∧
      roll.after.registers.read roll.x =
        UInt8.ofInt (bitAnd roll.before.key.byte.toNat roll.mask) := by
  -- The first command makes one roll or none, so the place of the later rolls moves with the key.
  induction commands generalizing machine count with
  | nil => cases rolled
  | cons command rest ih =>
      rw [rolls] at rolled
      cases here : machine.roll? command with
      | none =>
          rw [here] at rolled
          obtain ⟨key, stored⟩ := ih rolled
          rw [key_of_unrolled here] at key
          exact ⟨key, stored⟩
      | some first =>
          rw [here] at rolled
          cases count with
          | zero =>
              cases rolled
              obtain ⟨same, _, _⟩ := roll?_eq_some_iff.mp here
              rw [same]
              exact ⟨rfl, (randomize_of_roll? here).1⟩
          | succ count =>
              obtain ⟨key, stored⟩ := ih rolled
              rw [key_obey, here] at key
              exact ⟨key, stored⟩

/-- The key counts the draws since the seed, and the draws before a roll fix its byte. So two
histories from one seed draw the same bytes, whatever else they do. -/
theorem random_stream_fixed_by_seed (seed : Int) (mode : Mode) (now : Reading)
    (commands : List Command) :
    let start := create (.ofSeed seed) mode now
    (start.obeyAll commands).key =
        RandomKey.next^[(start.rolls commands).length] (.ofSeed seed) ∧
      (∀ (count : Nat) (roll : Roll), (start.rolls commands)[count]? = some roll →
        let byte := (RandomKey.next^[count] (.ofSeed seed)).byte
        roll.before.key.byte = byte ∧
          (0 ≤ roll.mask →
            (roll.after.registers.read roll.x).toNat = byte.toNat &&& roll.mask.toNat)) ∧
      ∀ mode' now' commands',
        let other := create (.ofSeed seed) mode' now'
        ∀ (count : Nat) (roll roll' : Roll), (start.rolls commands)[count]? = some roll →
          (other.rolls commands')[count]? = some roll' →
            roll.before.key.byte = roll'.before.key.byte := by
  intro start
  refine ⟨start.key_obeyAll commands, ?_, ?_⟩
  · intro count roll rolled byte
    obtain ⟨key, stored⟩ := key_of_rolls rolled
    have drawn : roll.before.key.byte = byte := congrArg RandomKey.byte key
    refine ⟨drawn, fun range => ?_⟩
    rw [stored, drawn, toNat_masked byte range]
  · intro mode' now' commands' other count roll roll' rolled rolled'
    rw [(key_of_rolls rolled).1, (key_of_rolls rolled').1]
    rfl

end

/-- Between the two draws of this history a return fails and the machine is reset. -/
def rollAcrossReset : List Command :=
  [.load (.bytes [0xC0, 0x0F, 0x00, 0xEE]), .step .zero, .step .zero, .reset .zero,
    .execute (.literal (.number 0xC3FF))]

/-- This history draws into other registers, and a digit stands between its draws. -/
def rollAndDraw : List Command :=
  [.apply (.instruction (.random 7 0xFF)), .apply (.instruction (.draw 0 0 5)),
    .apply (.instruction (.random 9 0xFF))]

/-- Both second draws give the byte of the second key. -/
theorem random_stream_of_rollAcrossReset :
    ∃ roll roll', ((create (.ofSeed 7) .basic64x32 .zero).rolls rollAcrossReset)[1]? = some roll ∧
      ((create (.ofSeed 7) .eti64x64 .zero).rolls rollAndDraw)[1]? = some roll' ∧
      (roll.after.registers.read 3).toNat = (RandomKey.ofSeed 7).next.byte.toNat &&& 0xFF ∧
      roll.before.key.byte = roll'.before.key.byte := by
  let start := create (.ofSeed 7) .basic64x32 .zero
  let other := create (.ofSeed 7) .eti64x64 .zero
  have target : ((start.rolls rollAcrossReset)[1]?).map (fun roll => (roll.x, roll.mask)) =
      some (3, 0xFF) := by
    decide +kernel
  have again : ((other.rolls rollAndDraw)[1]?).isSome := by decide +kernel
  obtain ⟨roll, rolled, form⟩ := Option.map_eq_some_iff.mp target
  obtain ⟨roll', rolled'⟩ := Option.isSome_iff_exists.mp again
  obtain ⟨register, mask⟩ := Prod.mk.inj form
  obtain ⟨_, draws, alike⟩ := random_stream_fixed_by_seed 7 .basic64x32 .zero rollAcrossReset
  have stored := (draws 1 roll rolled).2 (mask.symm ▸ by decide)
  have wide : roll.mask.toNat = 0xFF := congrArg Int.toNat mask
  rw [register, wide, Function.iterate_one] at stored
  exact ⟨roll, roll', rolled, rolled', stored,
    alike .eti64x64 .zero rollAndDraw 1 roll roll' rolled rolled'⟩

end Chip8.Machine
