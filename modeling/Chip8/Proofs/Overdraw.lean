import Chip8.Proofs.Sprite

/-!
This file proves that sprites drawn one after the other compose like the exclusive or of their
pixels.
-/

namespace Chip8

/-- A block points the index at a sprite and draws it, with no coordinate in the flag register. -/
structure SpriteBlock where
  address : Int
  x : Int
  y : Int
  height : Int
  address_range : 0 ≤ address ∧ address ≤ 0xFFF
  x_range : 0 ≤ x ∧ x ≤ 14
  y_range : 0 ≤ y ∧ y ≤ 14
  height_range : 0 ≤ height ∧ height ≤ 15

/-- Both instructions of a block. -/
def SpriteBlock.instructions (block : SpriteBlock) : List Instruction :=
  [.setIndex block.address, .draw block.x block.y block.height]

/-- The sprite of a block does not depend on the index, the display or the flag. -/
def SpriteBlock.sprite (block : SpriteBlock) (machine : Machine) : Sprite where
  x := (machine.registers.read block.x).toNat
  y := (machine.registers.read block.y).toNat
  height := block.height.toNat
  row := fun r => machine.memory.read (block.address.toNat + r)

namespace Sprite

@[simp]
theorem width_flip (sprite : Sprite) (display : Display) :
    (sprite.flip display).width = display.width := rfl

@[simp]
theorem height_flip (sprite : Sprite) (display : Display) :
    (sprite.flip display).height = display.height := rfl

/-- A sprite drawn twice leaves no trace. -/
@[simp]
theorem flip_flip (sprite : Sprite) (display : Display) :
    sprite.flip (sprite.flip display) = display := by
  apply Display.ext_lit
  · simp only [width_flip]
  · simp only [height_flip]
  · intro p q
    rw [lit_flip, lit_flip, width_flip, height_flip, Bool.xor_assoc, Bool.xor_self,
      Bool.xor_false]

theorem flip_comm (sprite other : Sprite) (display : Display) :
    sprite.flip (other.flip display) = other.flip (sprite.flip display) := by
  apply Display.ext_lit
  · simp only [width_flip]
  · simp only [height_flip]
  · intro p q
    simp only [lit_flip, width_flip, height_flip]
    exact Bool.xor_right_comm _ _ _

end Sprite

/-- A byte is zero when all its bits are. -/
theorem ne_zero_iff_testBit (byte : UInt8) :
    byte ≠ 0 ↔ ∃ c < 8, byte.toNat.testBit (7 - c) = true := by
  constructor
  · intro set
    have positive : byte.toNat ≠ 0 := fun zero => set (UInt8.toNat_inj.mp zero)
    obtain ⟨position, bit⟩ := Nat.exists_testBit_of_ne_zero positive
    have small : position < 8 := (Nat.pow_lt_pow_iff_right (by decide : 1 < 2)).mp
      (Nat.lt_of_le_of_lt (Nat.ge_two_pow_of_testBit bit) byte.toNat_lt)
    refine ⟨7 - position, by omega, ?_⟩
    rwa [show 7 - (7 - position) = position by omega]
  · rintro ⟨c, _, bit⟩ rfl
    rw [UInt8.toNat_zero, Nat.zero_testBit] at bit
    contradiction

namespace Sprite

variable {sprite : Sprite} {display : Display}

/-- Somewhere a sprite falls, unless all its rows are empty. -/
theorem exists_covers_iff (sprite : Sprite) (width height : Nat) :
    (∃ p q, sprite.Covers width height p q) ↔ ∃ r < sprite.height, sprite.row r ≠ 0 := by
  constructor
  · rintro ⟨p, q, r, c, last, few, _, _, bit⟩
    exact ⟨r, last, (ne_zero_iff_testBit _).mpr ⟨c, few, bit⟩⟩
  · rintro ⟨r, last, set⟩
    obtain ⟨c, few, bit⟩ := (ne_zero_iff_testBit _).mp set
    exact ⟨_, _, r, c, last, few, rfl, rfl, bit⟩

/-- The second time a sprite meets the pixels that were dark the first time. -/
theorem Fits.collides_flip_iff (fits : sprite.Fits display) :
    sprite.collides (sprite.flip display) = true ↔
      ∃ p q, sprite.Covers display.width display.height p q ∧ display.lit p q = false := by
  have fits' : sprite.Fits (sprite.flip display) := ⟨fits.wide, fits.high⟩
  rw [fits'.collides_iff_covers]
  constructor
  · rintro ⟨p, q, covered, lit⟩
    rw [fits.lit_flip_of_covers covered, Bool.not_eq_true'] at lit
    exact ⟨p, q, covered, lit⟩
  · rintro ⟨p, q, covered, dark⟩
    refine ⟨p, q, covered, ?_⟩
    rw [fits.lit_flip_of_covers covered, dark, Bool.not_false]

/-- A covered pixel is lit or dark, so one of the two times a sprite collides. -/
theorem Fits.collides_once_iff (fits : sprite.Fits display) :
    sprite.collides display = true ∨ sprite.collides (sprite.flip display) = true ↔
      ∃ r < sprite.height, sprite.row r ≠ 0 := by
  rw [fits.collides_iff_covers, fits.collides_flip_iff,
    ← sprite.exists_covers_iff display.width display.height]
  constructor
  · rintro (⟨p, q, covered, _⟩ | ⟨p, q, covered, _⟩)
    · exact ⟨p, q, covered⟩
    · exact ⟨p, q, covered⟩
  · rintro ⟨p, q, covered⟩
    cases lit : display.lit p q with
    | true => exact .inl ⟨p, q, covered, lit⟩
    | false => exact .inr ⟨p, q, covered, lit⟩

end Sprite

namespace Machine

variable {machine : Machine} {block other : SpriteBlock}

/-- The machine after a block. -/
def paint (machine : Machine) (block : SpriteBlock) : Machine :=
  { machine with index := UInt16.ofInt block.address }.draw block.x block.y block.height

theorem toNat_address (block : SpriteBlock) :
    (UInt16.ofInt block.address).toNat = block.address.toNat := by
  obtain ⟨lower, upper⟩ := block.address_range
  rw [UInt16.ofInt, UInt16.toNat_ofNat']
  omega

theorem spriteAt_address (machine : Machine) (block : SpriteBlock) :
    { machine with index := UInt16.ofInt block.address }.spriteAt block.x block.y block.height =
      block.sprite machine := by
  simp only [spriteAt, SpriteBlock.sprite, toNat_address]

theorem foldlM_instructions (machine : Machine) (block : SpriteBlock) :
    block.instructions.foldlM apply machine = .ok (machine.paint block) := by
  obtain ⟨lower, upper⟩ := block.address_range
  have word : fitsWord block.address := by
    unfold fitsWord
    omega
  simp only [SpriteBlock.instructions, List.foldlM_cons, List.foldlM_nil, apply, if_pos word]
  rfl

/-- Blocks are never refused. -/
theorem foldlM_blocks (machine : Machine) (blocks : List SpriteBlock) :
    (blocks.flatMap SpriteBlock.instructions).foldlM apply machine =
      .ok (blocks.foldl paint machine) := by
  induction blocks generalizing machine with
  | nil => rfl
  | cons block rest ih =>
      rw [List.flatMap_cons, List.foldlM_append, foldlM_instructions]
      exact ih (machine.paint block)

theorem display_paint (machine : Machine) (block : SpriteBlock) :
    (machine.paint block).display = (block.sprite machine).flip machine.display := by
  rw [← spriteAt_address]
  rfl

/-- A block leaves the flag of its collision. -/
theorem flag_paint (machine : Machine) (block : SpriteBlock) :
    (machine.paint block).registers.read 15 = 1 ↔
      (block.sprite machine).collides machine.display = true := by
  have flag : (machine.paint block).registers.read 15 =
      if (block.sprite machine).collides machine.display then 1 else 0 := by
    rw [← spriteAt_address]
    exact machine.registers.read_write_self flagRegister _
  rw [flag]
  split
  · rename_i hit
    exact ⟨fun _ => hit, fun _ => rfl⟩
  · rename_i free
    exact ⟨fun one => absurd one (by decide), fun hit => absurd hit free⟩

theorem read_paint (machine : Machine) (block : SpriteBlock) {r : Int} (range : 0 ≤ r ∧ r ≤ 14) :
    (machine.paint block).registers.read r = machine.registers.read r := by
  have other : registerIndex r ≠ registerIndex flagRegister :=
    mt (Instruction.registerIndex_injective (by decide) (by omega)) (by unfold flagRegister; omega)
  exact machine.registers.read_write_of_ne _ other

/-- A block changes nothing that the sprite of another block is made of. -/
theorem sprite_paint (machine : Machine) (block other : SpriteBlock) :
    other.sprite (machine.paint block) = other.sprite machine := by
  simp only [SpriteBlock.sprite, read_paint machine block other.x_range,
    read_paint machine block other.y_range]
  rfl

theorem display_foldl_paint (machine : Machine) (blocks : List SpriteBlock) :
    (blocks.foldl paint machine).display =
      blocks.foldl (fun display block => (block.sprite machine).flip display) machine.display := by
  induction blocks generalizing machine with
  | nil => rfl
  | cons block rest ih =>
      rw [List.foldl_cons, ih, display_paint, List.foldl_cons]
      simp only [sprite_paint]

/-- The order of the blocks does not matter. -/
theorem display_foldl_perm (machine : Machine) {blocks blocks' : List SpriteBlock}
    (perm : blocks.Perm blocks') :
    (blocks.foldl paint machine).display = (blocks'.foldl paint machine).display := by
  rw [display_foldl_paint, display_foldl_paint]
  exact perm.foldl_eq' (fun _ _ _ _ display => Sprite.flip_comm _ _ display) _

/-- Two copies of one block cancel out. -/
theorem display_foldl_twice (machine : Machine) (block : SpriteBlock) (blocks : List SpriteBlock) :
    ((block :: block :: blocks).foldl paint machine).display =
      (blocks.foldl paint machine).display := by
  rw [display_foldl_paint, display_foldl_paint, List.foldl_cons, List.foldl_cons,
    Sprite.flip_flip]

/-- Blocks compose in any order, and two copies of one block cancel out wherever they stand. Of two
equal blocks in a row the first one reports a covered pixel that was lit, and the second one a
covered pixel that was dark. -/
theorem sprites_compose (reached : machine.Reachable) (blocks : List SpriteBlock) :
    let after (blocks : List SpriteBlock) : Except Error Machine :=
      (blocks.flatMap SpriteBlock.instructions).foldlM apply machine
    ∃ final, after blocks = .ok final ∧
      (∀ blocks', blocks.Perm blocks' →
        ∃ final', after blocks' = .ok final' ∧ final'.display = final.display) ∧
      (∀ first middle last block, blocks = first ++ middle ++ last →
        ∃ final', after (first ++ [block] ++ middle ++ [block] ++ last) = .ok final' ∧
          final'.display = final.display) ∧
      ∀ block : SpriteBlock, ∃ once twice, after [block] = .ok once ∧
        block.instructions.foldlM apply once = .ok twice ∧ twice.display = machine.display ∧
        let covered (p q : Nat) :=
          (block.sprite machine).Covers machine.display.width machine.display.height p q
        (once.registers.read 15 = 1 ↔ ∃ p q, covered p q ∧ machine.display.lit p q = true) ∧
        (twice.registers.read 15 = 1 ↔ ∃ p q, covered p q ∧ machine.display.lit p q = false) ∧
        (once.registers.read 15 = 1 ∨ twice.registers.read 15 = 1 ↔
          ∃ r : Nat, r < block.height ∧
            machine.memory.cells[cellIndex (block.address.toNat + r)] ≠ 0) := by
  intro after
  have runs := machine.foldlM_blocks
  refine ⟨blocks.foldl paint machine, runs blocks, ?_, ?_, fun block => ?_⟩
  · intro blocks' perm
    exact ⟨blocks'.foldl paint machine, runs blocks', (machine.display_foldl_perm perm).symm⟩
  · rintro first middle last block rfl
    refine ⟨_, runs _, ?_⟩
    have inner : (first ++ middle ++ block :: last).Perm (block :: (first ++ middle ++ last)) :=
      List.perm_middle
    have perm : (first ++ [block] ++ middle ++ [block] ++ last).Perm
        (block :: block :: (first ++ middle ++ last)) := by
      simp only [List.append_assoc, List.singleton_append] at inner ⊢
      exact List.perm_middle.trans (inner.cons block)
    rw [machine.display_foldl_perm perm, display_foldl_twice]
  · let sprite := block.sprite machine
    have fits : sprite.Fits machine.display := by
      have few := block.height_range.2
      exact reached.coherent.fits (show block.height.toNat ≤ 15 by omega)
    have once := machine.flag_paint block
    have twice := (machine.paint block).flag_paint block
    rw [sprite_paint, display_paint] at twice
    refine ⟨machine.paint block, (machine.paint block).paint block, runs [block],
      foldlM_instructions _ block, ?_, once.trans fits.collides_iff_covers,
      twice.trans fits.collides_flip_iff, ?_⟩
    · rw [display_paint, sprite_paint, display_paint, Sprite.flip_flip]
    · have rows (r : Nat) : r < block.height.toNat ↔ (r : Int) < block.height := by omega
      rw [once, twice, fits.collides_once_iff]
      simp only [← rows]
      rfl

/-- The digit zero. -/
def zeroBlock : SpriteBlock := ⟨0, 0, 0, 5, by decide, by decide, by decide, by decide⟩

/-- The digit one, which shares pixels with the zero. -/
def oneBlock : SpriteBlock := ⟨5, 1, 1, 5, by decide, by decide, by decide, by decide⟩

/-- The digits make one picture in both orders, and a digit drawn twice collides with itself. -/
theorem sprites_compose_of_digits :
    fresh.Reachable ∧ [zeroBlock, oneBlock].Perm [oneBlock, zeroBlock] ∧
      (∃ final final', ([zeroBlock, oneBlock].flatMap SpriteBlock.instructions).foldlM apply fresh =
          .ok final ∧
        ([oneBlock, zeroBlock].flatMap SpriteBlock.instructions).foldlM apply fresh = .ok final' ∧
        final'.display = final.display ∧ final.display.lit 3 0 = true) ∧
      ∃ once twice, ([zeroBlock].flatMap SpriteBlock.instructions).foldlM apply fresh = .ok once ∧
        zeroBlock.instructions.foldlM apply once = .ok twice ∧ twice.display = fresh.display ∧
        twice.registers.read 15 = 1 := by
  have reached : fresh.Reachable := reachable_fresh []
  have swapped : [zeroBlock, oneBlock].Perm [oneBlock, zeroBlock] := .swap _ _ _
  obtain ⟨final, drawn, permutes, _, twofold⟩ := sprites_compose reached [zeroBlock, oneBlock]
  obtain ⟨final', drawn', same⟩ := permutes _ swapped
  obtain ⟨once, twice, first, second, restored, _, reports, _⟩ := twofold zeroBlock
  have painted : final = [zeroBlock, oneBlock].foldl paint fresh :=
    Except.ok.inj (drawn.symm.trans (fresh.foldlM_blocks _))
  have lit : ([zeroBlock, oneBlock].foldl paint fresh).display.lit 3 0 = true := by decide +kernel
  have covered : (zeroBlock.sprite fresh).Covers fresh.display.width fresh.display.height 0 0 :=
    ⟨0, 0, by decide, by decide, by decide +kernel, by decide +kernel, by decide +kernel⟩
  have dark : fresh.display.lit 0 0 = false := Display.lit_blank .basic64x32 0 0
  exact ⟨reached, swapped, ⟨final, final', drawn, drawn', same, painted ▸ lit⟩, once, twice, first,
    second, restored, reports.mpr ⟨0, 0, covered, dark⟩⟩

end Machine

end Chip8
