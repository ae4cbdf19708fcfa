import Chip8.Picture

/-!
This file proves that an image shows each pixel of the display as a square block of its colour, and
that only the array library can refuse it.
-/

namespace Chip8

namespace Display

variable {display other : Display} {scale : Int} {palette : Palette}

theorem blockSide_pos (scale : Int) : 0 < blockSide scale :=
  Nat.lt_of_lt_of_le Nat.one_pos (Nat.le_max_left _ _)

/-- As an integer the side of a block is the scale, or one. -/
theorem coe_blockSide (scale : Int) : (blockSide scale : Int) = max 1 scale := by
  unfold blockSide
  omega

/-- A scale of at least one is the side itself. -/
theorem blockSide_of_pos (positive : 0 < scale) : blockSide scale = scale.toNat := by
  unfold blockSide
  omega

theorem coe_blockSide_of_le (positive : 1 ≤ scale) : (blockSide scale : Int) = scale := by
  rw [coe_blockSide]
  omega

/-- In one block for each pixel the display keeps its size. -/
theorem image_of_le_one (small : scale ≤ 1) :
    display.image scale palette = display.colored palette := by
  have side : blockSide scale = 1 := by
    unfold blockSide
    omega
  rw [image, side, Grid.enlarge_one]

theorem cell?_image (display : Display) (scale : Int) (palette : Palette) (x y : Nat) :
    (display.image scale palette).cell? x y =
      (display.cell? (x / blockSide scale) (y / blockSide scale)).map fun lit =>
        if lit then palette.on else palette.off := by
  rw [image, Grid.cell?_enlarge _ _ _ _ (blockSide_pos scale), colored, Grid.cell?_map]

theorem cell?_eq_some_lit {x y : Nat} (inside : x < display.width) (below : y < display.height) :
    display.cell? x y = some (display.lit x y) := by
  simp [lit, Grid.cell?, inside, below]

/-- A pixel of the image has the colour of the pixel whose block it lies in. -/
theorem cell?_image_of_lt {x y : Nat} (inside : x < display.width * blockSide scale)
    (below : y < display.height * blockSide scale) :
    (display.image scale palette).cell? x y =
      some (if display.lit (x / blockSide scale) (y / blockSide scale) then palette.on
        else palette.off) := by
  have positive := blockSide_pos scale
  rw [cell?_image, cell?_eq_some_lit ((Nat.div_lt_iff_lt_mul positive).mpr inside)
    ((Nat.div_lt_iff_lt_mul positive).mpr below), Option.map_some]

/-- The first pixel of each block tells its colour, so the image determines the display. -/
theorem image_inj (distinct : palette.on ≠ palette.off) :
    display.image scale palette = other.image scale palette ↔ display = other := by
  have positive := blockSide_pos scale
  refine ⟨fun same => ?_, fun same => congrArg (image · scale palette) same⟩
  have width : display.width * blockSide scale = other.width * blockSide scale :=
    congrArg Grid.width same
  have height : display.height * blockSide scale = other.height * blockSide scale :=
    congrArg Grid.height same
  have colors : Function.Injective fun lit : Bool => if lit then palette.on else palette.off := by
    intro left right alike
    cases left <;> cases right <;> simp_all [eq_comm]
  refine Grid.ext_rows (Nat.eq_of_mul_eq_mul_right positive width)
    (Nat.eq_of_mul_eq_mul_right positive height) fun x y => ?_
  have cells := congrArg (Grid.cell? · (x * blockSide scale) (y * blockSide scale)) same
  simp only [cell?_image, Nat.mul_div_cancel _ positive] at cells
  exact Option.map_injective colors cells

end Display

namespace ArrayLibrary

/-- The library refuses no image of so many bytes, three for each pixel. -/
def HasRoom (arrays : ArrayLibrary) (bytes : Nat) : Prop :=
  ∀ axis height width (count : Nat), 0 < height → 0 < width → 0 < count →
    3 * (height * width * count) ≤ bytes → arrays.refusal? axis height width count = none

/-- The count of the copies is no larger than the number of bytes. -/
theorem hasRoom_roomy {bytes : Nat} (few : bytes < 0x8000000000000000) : roomy.HasRoom bytes := by
  intro axis height width count tall wide _ room
  have many : count ≤ height * width * count := Nat.le_mul_of_pos_left count (Nat.mul_pos tall wide)
  have fits : fitsLong count := ⟨by omega, by omega⟩
  simp only [roomy, fits, if_true]

end ArrayLibrary

namespace Display

variable {display other : Display} {arrays : ArrayLibrary} {scale : Int} {palette : Palette}

/-- The rows of the image are repeated before its columns, if it has to be repeated at all. -/
def refusal? (display : Display) (arrays : ArrayLibrary) (scale : Int) : Option PictureError :=
  if 1 < scale then
    (arrays.refusal? .rows display.height display.width scale).or
      (arrays.refusal? .columns (display.height * scale.toNat) display.width scale)
  else none

/-- An image that the array library does not refuse is exact. -/
theorem image?_eq (display : Display) (arrays : ArrayLibrary) (scale : Int) (palette : Palette) :
    display.image? arrays scale palette =
      match display.refusal? arrays scale with
      | some error => .error error
      | none => .ok (display.image scale palette) := by
  unfold image? refusal?
  split
  · rename_i large
    rw [image, blockSide_of_pos (by omega)]
    have rows : arrays.repeated .rows (display.colored palette) scale =
        match arrays.refusal? .rows display.height display.width scale with
        | some error => .error error
        | none => .ok ((display.colored palette).repeatRows scale.toNat) := rfl
    have columns : arrays.repeated .columns ((display.colored palette).repeatRows scale.toNat)
          scale =
        match arrays.refusal? .columns (display.height * scale.toNat) display.width scale with
        | some error => .error error
        | none => .ok ((display.colored palette).enlarge scale.toNat) := rfl
    rw [rows]
    cases arrays.refusal? .rows display.height display.width scale with
    | some error => rfl
    | none =>
        rw [Option.none_or]
        exact columns
  · rw [image_of_le_one (by omega)]

theorem image?_eq_error_iff {error : PictureError} :
    display.image? arrays scale palette = .error error ↔
      display.refusal? arrays scale = some error := by
  rw [image?_eq]
  cases display.refusal? arrays scale <;> simp

theorem image?_eq_ok_iff {image : Image} :
    display.image? arrays scale palette = .ok image ↔
      display.refusal? arrays scale = none ∧ image = display.image scale palette := by
  rw [image?_eq]
  cases display.refusal? arrays scale <;> simp [eq_comm]

/-- A library with room for the image has room for its rows alone, too. -/
theorem refusal?_of_room {bytes : Nat} (wide : 0 < display.width) (tall : 0 < display.height)
    (room : arrays.HasRoom bytes)
    (few : 3 * (display.height * blockSide scale) * (display.width * blockSide scale) ≤ bytes) :
    display.refusal? arrays scale = none := by
  unfold refusal?
  split
  · rename_i large
    have count : ((scale.toNat : Nat) : Int) = scale := by omega
    rw [blockSide_of_pos (by omega)] at few
    generalize scale.toNat = times at few count
    subst count
    have positive : 0 < times := by omega
    have lengthened : 0 < display.height * times := Nat.mul_pos tall positive
    have whole : 3 * (display.height * times * display.width * times) ≤ bytes := by
      rw [Nat.mul_assoc (display.height * times), ← Nat.mul_assoc 3]
      exact few
    have half : 3 * (display.height * display.width * times) ≤ bytes := by
      refine Nat.le_trans (Nat.mul_le_mul_left 3 ?_) whole
      rw [Nat.mul_right_comm display.height]
      exact Nat.le_mul_of_pos_right _ positive
    rw [room .rows _ _ _ tall wide positive half, Option.none_or]
    exact room .columns _ _ _ lengthened wide positive whole
  · rfl

/-- An image is refused only by the array library, when its rows or its columns are to be repeated.
An image that is made shows each pixel as a square block of its colour, and with distinct colours
the images of two displays are the same only if the displays are. -/
theorem image_exact {display : Display} (wide : 0 < display.width) (tall : 0 < display.height)
    (arrays : ArrayLibrary) (scale : Int) (palette : Palette) :
    let side := (max scale 1).toNat
    (∀ error, display.image? arrays scale palette = .error error ↔
      1 < scale ∧ (arrays.refusal? .rows display.height display.width scale).or
        (arrays.refusal? .columns (display.height * side) display.width scale) = some error) ∧
    (∀ bytes, arrays.HasRoom bytes →
      3 * (display.height * side) * (display.width * side) ≤ bytes →
        ∃ image, display.image? arrays scale palette = .ok image) ∧
    ∀ image, display.image? arrays scale palette = .ok image →
      (image.height = display.height * side ∧ image.width = display.width * side ∧
        ∀ x y, x < image.width → y < image.height →
          image.cell? x y = some (if display.lit (x / side) (y / side) then palette.on
            else palette.off)) ∧
      ∀ other image', palette.on ≠ palette.off → other.image? arrays scale palette = .ok image' →
        (image = image' ↔ display = other) := by
  intro side
  have same : side = blockSide scale := by
    unfold side blockSide
    omega
  refine ⟨fun error => ?_, fun bytes room few => ?_, fun image made => ?_⟩
  · rw [image?_eq_error_iff, refusal?]
    by_cases large : 1 < scale
    · rw [if_pos large, same, blockSide_of_pos (by omega)]
      exact ⟨fun refused => ⟨large, refused⟩, And.right⟩
    · rw [if_neg large]
      exact iff_of_false nofun fun refused => large refused.1
  · rw [same] at few
    exact ⟨_, image?_eq_ok_iff.mpr ⟨refusal?_of_room wide tall room few, rfl⟩⟩
  · obtain ⟨_, rfl⟩ := image?_eq_ok_iff.mp made
    rw [same]
    refine ⟨⟨rfl, rfl, fun x y inside below => cell?_image_of_lt inside below⟩, ?_⟩
    intro other image' distinct made'
    obtain ⟨_, rfl⟩ := image?_eq_ok_iff.mp made'
    exact image_inj distinct

/-- In blocks of three by three pixels the lit pixel on the right reaches to the corner. -/
theorem image_exact_of_twoPixels :
    let display : Display := Grid.ofFn 2 1 fun x _ => x == 1
    (0 < display.width ∧ 0 < display.height) ∧
      ∃ image, display.image? .roomy 3 Scheme.amber.palette = .ok image ∧
        image.cell? 5 2 = some ⟨255, 176, 0⟩ ∧ image.cell? 2 2 = some ⟨0, 0, 0⟩ := by
  intro display
  have wide : 0 < display.width := by decide
  have tall : 0 < display.height := by decide
  obtain ⟨_, made, shows⟩ := image_exact wide tall .roomy 3 Scheme.amber.palette
  obtain ⟨image, exact⟩ := made 54 (ArrayLibrary.hasRoom_roomy (by decide)) (by decide)
  obtain ⟨⟨height, width, pixels⟩, _⟩ := shows image exact
  refine ⟨⟨wide, tall⟩, image, exact, ?_, ?_⟩
  · exact pixels 5 2 (by rw [width]; decide) (by rw [height]; decide)
  · exact pixels 2 2 (by rw [width]; decide) (by rw [height]; decide)

/-- Even a library with ample room has no image of a pixel in a block whose side is no word. -/
theorem image_refused_without_word :
    image? (Grid.fill 1 1 true) .roomy 0x8000000000000000 Scheme.classic.palette =
        .error .wideScale ∧
      ¬∀ (display : Display) (scale : Int) (palette : Palette),
        0 < display.width → 0 < display.height →
          ∃ image, display.image? .roomy scale palette = .ok image := by
  have refused : image? (Grid.fill 1 1 true) .roomy 0x8000000000000000 Scheme.classic.palette =
      .error .wideScale := image?_eq_error_iff.mpr (by decide)
  refine ⟨refused, fun returns => ?_⟩
  obtain ⟨image, made⟩ := returns (Grid.fill 1 1 true) 0x8000000000000000 Scheme.classic.palette
    (by decide) (by decide)
  rw [refused] at made
  cases made

end Display

end Chip8
