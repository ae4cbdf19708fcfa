import Chip8.Proofs.Opcode

/-!
This file proves that decoding undoes encoding, and says how far encoding undoes decoding.
-/

namespace Chip8

theorem toNat_opcodeBytes {word : Nat} (small : word ≤ 0xFFFF) :
    ∃ high low, opcodeBytes word = [high, low] ∧ high.toNat * 0x100 + low.toNat = word := by
  refine ⟨_, _, rfl, ?_⟩
  rw [UInt8.toNat_ofNat', UInt8.toNat_ofNat']
  omega

namespace Instruction

/-- Each operand fits its place in the opcode, and a system call avoids the two reserved words. -/
def Encodable : Instruction → Prop
  | .clearScreen | .returnFromCall => True
  | .sys address => (0 ≤ address ∧ address ≤ 0xFFF) ∧ address ≠ 0x0E0 ∧ address ≠ 0x0EE
  | .jump address | .call address | .setIndex address | .jumpWithOffset address =>
      0 ≤ address ∧ address ≤ 0xFFF
  | .skipIfEqualImmediate x byte | .skipIfNotEqualImmediate x byte
  | .setImmediate x byte | .addImmediate x byte | .random x byte =>
      (0 ≤ x ∧ x ≤ 0xF) ∧ 0 ≤ byte ∧ byte ≤ 0xFF
  | .skipIfEqualRegister x y | .skipIfNotEqualRegister x y | .setRegister x y
  | .or x y | .and x y | .xor x y | .add x y | .subtract x y | .subtractReversed x y =>
      (0 ≤ x ∧ x ≤ 0xF) ∧ 0 ≤ y ∧ y ≤ 0xF
  | .draw x y height => (0 ≤ x ∧ x ≤ 0xF) ∧ (0 ≤ y ∧ y ≤ 0xF) ∧ 0 ≤ height ∧ height ≤ 0xF
  | .shiftRight x | .shiftLeft x | .skipIfKeyPressed x | .skipIfKeyNotPressed x
  | .getDelayTimer x | .waitForKey x | .setDelayTimer x | .setSoundTimer x | .addToIndex x
  | .fontCharacter x | .binaryCodedDecimal x | .storeRegisters x | .loadRegisters x =>
      0 ≤ x ∧ x ≤ 0xF

/-- An encoding is refused for a reserved word or for an operand that does not fit. -/
inductive Blames (instruction : Instruction) : EncodeError → Prop where
  | reserved (address : Int) (call : instruction = .sys address)
      (taken : address = 0x0E0 ∨ address = 0x0EE) : Blames instruction (.reserved address)
  | outOfRange (operand : Operand) (own : operand ∈ instruction.operands)
      (wide : ¬operand.InRange) : Blames instruction (.outOfRange operand.kind operand.value)

variable {instruction : Instruction} {word : Nat}

theorem encodable_iff :
    instruction.Encodable ↔ instruction.InRange ∧ instruction.reservedAddress? = none := by
  cases instruction <;>
    simp [Encodable, reservedAddress?, InRange, operands, Operand.InRange, OperandKind.limit]

theorem operandOutOfRange?_eq_none_iff :
    instruction.operandOutOfRange? = none ↔ instruction.InRange := by
  simp [operandOutOfRange?, InRange]

theorem reservedAddress?_eq_some {address : Int}
    (reserved : instruction.reservedAddress? = some address) :
    instruction = .sys address ∧ (address = 0x0E0 ∨ address = 0x0EE) := by
  unfold reservedAddress? at reserved
  split at reserved
  · split at reserved
    · cases reserved
      exact ⟨rfl, ‹_›⟩
    · contradiction
  · contradiction

theorem encode_of_encodable (encodable : instruction.Encodable) :
    instruction.encode = .ok instruction.layout := by
  obtain ⟨range, free⟩ := encodable_iff.mp encodable
  simp only [encode, free, operandOutOfRange?_eq_none_iff.mpr range]

/-- What cannot be encoded is refused with a reason. -/
theorem encode_of_not_encodable (wide : ¬instruction.Encodable) :
    ∃ error, instruction.encode = .error error ∧ instruction.Blames error := by
  cases reserved : instruction.reservedAddress? with
  | some address =>
      obtain ⟨call, taken⟩ := reservedAddress?_eq_some reserved
      exact ⟨_, by simp only [encode, reserved], .reserved address call taken⟩
  | none =>
      cases found : instruction.operandOutOfRange? with
      | some operand =>
          have own : operand ∈ instruction.operands := List.mem_of_find?_eq_some found
          have outside : ¬operand.InRange := by simpa using List.find?_some found
          exact ⟨_, by simp only [encode, reserved, found], .outOfRange operand own outside⟩
      | none =>
          have range := operandOutOfRange?_eq_none_iff.mp found
          exact absurd (encodable_iff.mpr ⟨range, reserved⟩) wide

theorem encode_eq_ok_iff :
    instruction.encode = .ok word ↔ instruction.Encodable ∧ instruction.layout = word := by
  by_cases encodable : instruction.Encodable
  · simp [encode_of_encodable encodable, encodable]
  · obtain ⟨error, refused, _⟩ := encode_of_not_encodable encodable
    simp [refused, encodable]

section Digits

variable {group : Nat} {x y nibble byte address : Int}

theorem group_address {base : Nat} (whole : base % 0x1000 = 0) (upper : address ≤ 0xFFF) :
    (base + address.toNat) / 0x1000 = base / 0x1000 := by
  omega

theorem last_address {base : Nat} (whole : base % 0x1000 = 0) (upper : address ≤ 0xFFF) :
    (base + address.toNat) % 0x1000 = address.toNat := by
  omega

theorem group_registerByte (first : x ≤ 0xF) (last : byte ≤ 0xFF) :
    registerByte group x byte / 0x1000 = group := by
  unfold registerByte
  omega

theorem first_registerByte (first : x ≤ 0xF) (last : byte ≤ 0xFF) :
    registerByte group x byte / 0x100 % 0x10 = x.toNat := by
  unfold registerByte
  omega

theorem last_registerByte (last : byte ≤ 0xFF) :
    registerByte group x byte % 0x100 = byte.toNat := by
  unfold registerByte
  omega

theorem group_registerPair (first : x ≤ 0xF) (second : y ≤ 0xF) (last : nibble ≤ 0xF) :
    registerPair group x y nibble / 0x1000 = group := by
  unfold registerPair
  omega

theorem first_registerPair (first : x ≤ 0xF) (second : y ≤ 0xF) (last : nibble ≤ 0xF) :
    registerPair group x y nibble / 0x100 % 0x10 = x.toNat := by
  unfold registerPair
  omega

theorem second_registerPair (second : y ≤ 0xF) (last : nibble ≤ 0xF) :
    registerPair group x y nibble / 0x10 % 0x10 = y.toNat := by
  unfold registerPair
  omega

theorem last_registerPair (last : nibble ≤ 0xF) :
    registerPair group x y nibble % 0x10 = nibble.toNat := by
  unfold registerPair
  omega

end Digits

/-- The decoder finds the operands where the layout has put them. -/
theorem decodeWord?_layout (encodable : instruction.Encodable) :
    decodeWord? instruction.layout = some instruction := by
  cases instruction with
  | clearScreen | returnFromCall => rfl
  | sys address =>
      obtain ⟨⟨lower, upper⟩, clear, back⟩ := encodable
      have group : address.toNat / 0x1000 = 0 := by omega
      have last : address.toNat % 0x1000 = address.toNat := by omega
      have free : address.toNat ≠ 0x00E0 ∧ address.toNat ≠ 0x00EE := by omega
      simp [layout, decodeWord?, group, last, free, Int.toNat_of_nonneg lower]
  | jump address | call address | setIndex address | jumpWithOffset address =>
      obtain ⟨lower, upper⟩ := encodable
      simp only [layout, decodeWord?, group_address, last_address, upper,
        Int.toNat_of_nonneg lower, Nat.reduceMod, Nat.reduceDiv]
  | skipIfEqualImmediate x byte | skipIfNotEqualImmediate x byte | setImmediate x byte
  | addImmediate x byte | random x byte =>
      obtain ⟨⟨lower, first⟩, lower', last⟩ := encodable
      simp [layout, decodeWord?, group_registerByte, first_registerByte, last_registerByte,
        Int.toNat_of_nonneg, -Int.ofNat_toNat, *]
  | skipIfEqualRegister x y | skipIfNotEqualRegister x y | setRegister x y | or x y | and x y
  | xor x y | add x y | subtract x y | subtractReversed x y =>
      obtain ⟨⟨lower, first⟩, lower', second⟩ := encodable
      simp [layout, decodeWord?, decodeArithmetic?, group_registerPair, first_registerPair,
        second_registerPair, last_registerPair, Int.toNat_of_nonneg, -Int.ofNat_toNat, *]
  | draw x y height =>
      obtain ⟨⟨lower, first⟩, ⟨lower', second⟩, lower'', last⟩ := encodable
      simp [layout, decodeWord?, group_registerPair, first_registerPair, second_registerPair,
        last_registerPair, Int.toNat_of_nonneg, -Int.ofNat_toNat, *]
  | shiftRight x | shiftLeft x =>
      obtain ⟨lower, first⟩ := encodable
      simp [layout, decodeWord?, decodeArithmetic?, group_registerPair, first_registerPair,
        last_registerPair, Int.toNat_of_nonneg, -Int.ofNat_toNat, *]
  | skipIfKeyPressed x | skipIfKeyNotPressed x | getDelayTimer x | waitForKey x | setDelayTimer x
  | setSoundTimer x | addToIndex x | fontCharacter x | binaryCodedDecimal x | storeRegisters x
  | loadRegisters x =>
      obtain ⟨lower, first⟩ := encodable
      simp [layout, decodeWord?, decodeKeyTest?, decodeTransfer?, group_registerByte,
        first_registerByte, last_registerByte, Int.toNat_of_nonneg, -Int.ofNat_toNat, *]

theorem le_of_decodeWord? (decoded : decodeWord? word = some instruction) : word ≤ 0xFFFF := by
  unfold decodeWord? at decoded
  split at decoded
  case h_17 => contradiction
  all_goals omega

/-- No word is decoded as a system call to a reserved address. -/
theorem encodable_of_decodeWord? (decoded : decodeWord? word = some instruction) :
    instruction.Encodable := by
  refine encodable_iff.mpr ⟨inRange_of_decodeWord? decoded, ?_⟩
  cases instruction with
  | sys address =>
      have digits : word / 0x1000 = 0 ∧ address = ↑(word % 0x1000) :=
        group_of_decode? ((decode?_natCast word).trans decoded) rfl
          (by simp only [layout, Nat.zero_mul, Nat.zero_add]) rfl
      have clear : word ≠ 0x00E0 := by
        rintro rfl
        cases decoded
      have back : word ≠ 0x00EE := by
        rintro rfl
        cases decoded
      exact if_neg (by omega)
  | _ => rfl

theorem decode_of_encode (encoded : instruction.encode = .ok word) :
    decode word = .ok instruction := by
  obtain ⟨encodable, rfl⟩ := encode_eq_ok_iff.mp encoded
  simp only [decode, decode?_natCast, decodeWord?_layout encodable]

theorem encode_of_decodeWord? (decoded : decodeWord? word = some instruction) :
    instruction.encode = .ok (instruction.canonicalWord word) :=
  encode_eq_ok_iff.mpr ⟨encodable_of_decodeWord? decoded, layout_of_decodeWord? decoded⟩

theorem le_of_encode (encoded : instruction.encode = .ok word) : word ≤ 0xFFFF := by
  obtain ⟨encodable, rfl⟩ := encode_eq_ok_iff.mp encoded
  exact le_of_decodeWord? (decodeWord?_layout encodable)

/-- The digit is cleared by a mask. -/
theorem canonicalWord_eq (small : word ≤ 0xFFFF) :
    instruction.canonicalWord word =
      if instruction.isShift then word &&& 0xFF0F else word := by
  -- The mask keeps the upper byte whole and the lower digit of the lower byte.
  have high : (word &&& 0xFF0F) / 2 ^ 8 = word / 0x100 := by
    rw [Nat.and_div_two_pow]
    exact (Nat.and_two_pow_sub_one_eq_mod (word / 2 ^ 8) 8).trans (by omega)
  have low : (word &&& 0xFF0F) % 2 ^ 8 = word % 0x10 := by
    rw [Nat.and_mod_two_pow]
    exact (Nat.and_two_pow_sub_one_eq_mod (word % 2 ^ 8) 4).trans (by omega)
  have masked : word / 0x100 * 0x100 + word % 0x10 = word &&& 0xFF0F := by omega
  rw [canonicalWord, masked]

theorem decode_eq_ok_iff {opcode : Int} :
    decode opcode = .ok instruction ↔
      ∃ word : Nat, opcode = word ∧ decodeWord? word = some instruction := by
  have found : decode opcode = .ok instruction ↔ decode? opcode = some instruction := by
    unfold decode
    cases decode? opcode <;> simp
  rw [found, decode?]
  by_cases natural : 0 ≤ opcode
  · rw [if_pos natural]
    constructor
    · intro decoded
      exact ⟨_, (Int.toNat_of_nonneg natural).symm, decoded⟩
    · rintro ⟨word, rfl, decoded⟩
      exact decoded
  · rw [if_neg natural]
    constructor
    · intro decoded
      cases decoded
    · rintro ⟨word, rfl, _⟩
      exact absurd (Int.natCast_nonneg word) natural

/-- These words are the encodings of instructions. -/
def IsEncoding (opcode : Int) : Prop :=
  ∃ (instruction : Instruction) (word : Nat), instruction.encode = .ok word ∧ opcode = word

/-- These words are shifts, with any second register. -/
def IsShiftWord (opcode : Int) : Prop :=
  ∃ x y : Nat, x ≤ 0xF ∧ y ≤ 0xF ∧
    (opcode = 0x8006 + x * 0x100 + y * 0x10 ∨ opcode = 0x800E + x * 0x100 + y * 0x10)

/-- A word that is decoded as a shift belongs to the arithmetic group. -/
theorem isShiftWord_of_decodeWord? (decoded : decodeWord? word = some instruction)
    (shift : instruction.isShift) : IsShiftWord word := by
  have small := le_of_decodeWord? decoded
  have same := layout_of_decodeWord? decoded
  rw [canonicalWord, if_pos shift] at same
  have digits : word / 0x1000 = 8 ∧ (word % 0x10 = 6 ∨ word % 0x10 = 0xE) := by
    cases instruction with
    | shiftRight x | shiftLeft x =>
        have first := (encodable_of_decodeWord? decoded).2
        simp only [layout, registerPair] at same
        omega
    | _ => contradiction
  exact ⟨word / 0x100 % 0x10, word / 0x10 % 0x10, by omega, by omega, by omega⟩

theorem decodeWord?_of_isShiftWord (shift : IsShiftWord word) :
    ∃ instruction, decodeWord? word = some instruction := by
  obtain ⟨x, y, first, second, form⟩ := shift
  have defined : IsOpcode word := by
    rcases form with right | left
    · exact ⟨⟨0x8, 1, 0x6⟩, by decide, by simp only [OpcodePattern.Matches]; omega⟩
    · exact ⟨⟨0x8, 1, 0xE⟩, by decide, by simp only [OpcodePattern.Matches]; omega⟩
  rw [← isSome_decode?_iff, decode?_natCast] at defined
  exact Option.isSome_iff_exists.mp defined

theorem decodes_iff {opcode : Int} :
    (∃ instruction, decode opcode = .ok instruction) ↔ IsEncoding opcode ∨ IsShiftWord opcode := by
  constructor
  · rintro ⟨instruction, decoded⟩
    obtain ⟨word, rfl, found⟩ := decode_eq_ok_iff.mp decoded
    by_cases shift : instruction.isShift
    · exact .inr (isShiftWord_of_decodeWord? found shift)
    · have encoded := encode_of_decodeWord? found
      rw [canonicalWord, if_neg shift] at encoded
      exact .inl ⟨instruction, word, encoded, rfl⟩
  · rintro (⟨instruction, word, encoded, rfl⟩ | shift)
    · exact ⟨instruction, decode_of_encode encoded⟩
    · have natural : 0 ≤ opcode := by
        obtain ⟨x, y, _, _, form⟩ := shift
        omega
      obtain ⟨word, rfl⟩ := Int.eq_ofNat_of_zero_le natural
      obtain ⟨instruction, found⟩ := decodeWord?_of_isShiftWord shift
      exact ⟨instruction, decode_eq_ok_iff.mpr ⟨word, rfl, found⟩⟩

theorem decode_fails_iff {opcode : Int} :
    (∃ fault, decode opcode = .error fault) ↔ ¬∃ instruction, decode opcode = .ok instruction := by
  cases decode opcode with
  | ok instruction => simp
  | error fault => simp

theorem decode_eq_error {opcode : Int} {fault : Fault} (failed : decode opcode = .error fault) :
    fault = .invalidOpcode opcode := by
  unfold decode at failed
  split at failed
  · contradiction
  · exact (Except.error.inj failed).symm

/-- Encoding accepts exactly the encodable instructions and decoding undoes it. Decoding accepts
exactly the encodings and the shifts, and encoding undoes it but for the free digit of a shift. -/
theorem decode_inverts_encode :
    (∀ instruction : Instruction,
      ((∃ word, instruction.encode = .ok word) ↔ instruction.Encodable) ∧
      (¬instruction.Encodable →
        ∃ error, instruction.encode = .error error ∧ instruction.Blames error) ∧
      ∀ word, instruction.encode = .ok word →
        word ≤ 0xFFFF ∧
        (∃ high low, opcodeBytes word = [high, low] ∧ high.toNat * 0x100 + low.toNat = word) ∧
        decode word = .ok instruction) ∧
    ∀ opcode : Int,
      (decode opcode = .error (.invalidOpcode opcode) ∨
        ∃ instruction, decode opcode = .ok instruction ∧
          instruction.encode =
            .ok (if instruction.isShift then opcode.toNat &&& 0xFF0F else opcode.toNat)) ∧
      ((∃ fault, decode opcode = .error fault) ↔
        (opcode < 0 ∨ 0xFFFF < opcode) ∨ (¬IsEncoding opcode ∧ ¬IsShiftWord opcode)) := by
  constructor
  · intro instruction
    refine ⟨⟨?_, fun encodable => ⟨_, encode_of_encodable encodable⟩⟩, encode_of_not_encodable, ?_⟩
    · rintro ⟨word, encoded⟩
      exact (encode_eq_ok_iff.mp encoded).1
    · intro word encoded
      exact ⟨le_of_encode encoded, toNat_opcodeBytes (le_of_encode encoded),
        decode_of_encode encoded⟩
  · intro opcode
    constructor
    · cases decoded : decode opcode with
      | error fault => exact .inl (congrArg _ (decode_eq_error decoded))
      | ok instruction =>
          obtain ⟨word, rfl, found⟩ := decode_eq_ok_iff.mp decoded
          have encoded := encode_of_decodeWord? found
          rw [canonicalWord_eq (le_of_decodeWord? found)] at encoded
          exact .inr ⟨instruction, rfl, encoded⟩
    · rw [decode_fails_iff, ← not_or, ← decodes_iff]
      constructor
      · exact .inr
      · rintro (outside | fails) ⟨instruction, decoded⟩
        · obtain ⟨word, rfl, found⟩ := decode_eq_ok_iff.mp decoded
          have small := le_of_decodeWord? found
          omega
        · exact fails ⟨instruction, decoded⟩

end Instruction

end Chip8
