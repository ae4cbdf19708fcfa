import Chip8.Picture

/-!
This file reads a display back from its text, by the places of the symbols and not by their looks.
-/

namespace Chip8

/-- Symbols of one length stand at the multiples of this length. -/
theorem take_drop_flatMap {α β : Type} {symbol : α → List β} {size : Nat}
    (same : ∀ value, (symbol value).length = size) (values : List α) (rest : List β)
    {place : Nat} (inside : place < values.length) :
    ((values.flatMap symbol ++ rest).drop (place * size)).take size = symbol values[place] := by
  induction values generalizing place with
  | nil => cases inside
  | cons value later ih =>
      rw [List.flatMap_cons, List.append_assoc]
      cases place with
      | zero =>
          rw [Nat.zero_mul, List.drop_zero, List.getElem_cons_zero, ← same value, List.take_left]
      | succ place =>
          have front : (symbol value ++ (later.flatMap symbol ++ rest)).drop size =
              later.flatMap symbol ++ rest := by
            rw [← same value, List.drop_left]
          rw [Nat.succ_mul, Nat.add_comm, ← List.drop_drop, front, List.getElem_cons_succ]
          exact ih (Nat.lt_of_succ_lt_succ inside)

namespace Display

variable {display other : Display} {on off : String} {x y : Nat}

/-- A lit pixel has one symbol and a dark pixel another one. -/
def symbol (on off : String) (lit : Bool) : String := if lit then on else off

/-- The states of a row run from the left. -/
def row (display : Display) (y : Nat) : List Bool :=
  (List.range display.width).map (display.lit · y)

/-- The line of a row has its symbols between two bars. -/
def line (display : Display) (on off : String) (y : Nat) : String :=
  "│" ++ String.join ((display.row y).map (symbol on off)) ++ "│"

/-- The lines of a text stand between its newlines. -/
def linesOf (text : String) : List String := (text.split '\n').toList.map (·.copy)

/-- Behind the bar of a line, symbols stand at the multiples of their length. -/
def symbolAt (size : Nat) (line : String) (x : Nat) : String :=
  String.ofList ((line.toList.drop (1 + x * size)).take size)

/-- The frame tells the size of the display, and the symbols tell the states of the pixels. -/
def ofText (on text : String) : Display :=
  let lines := linesOf text
  Grid.ofFn ((lines.headD "").length - 2) (lines.length - 2) fun x y =>
    symbolAt on.length (lines.getD (y + 1) "") x == on

theorem toList_rows (below : y < display.height) : display.rows[y].toList = display.row y := by
  apply List.ext_getElem
  · simp [row]
  · intro x inside inside'
    have inside : x < display.width := by simpa using inside
    simp [row, lit, Grid.cell?, inside, below]

theorem length_lines (display : Display) (on off : String) :
    (display.lines on off).length = display.height + 2 := by
  simp [lines]

theorem getElem?_lines (below : y < display.height) :
    (display.lines on off)[y + 1]? = some (display.line on off y) := by
  have row : (display.lines on off)[y + 1]? =
      some ("│" ++ textRow on off display.rows[y] ++ "│") := by
    simp [lines, below, List.getElem?_append_left]
  rw [row, textRow, toList_rows below]
  rfl

theorem length_symbol (same : on.length = off.length) (lit : Bool) :
    (symbol on off lit).toList.length = on.length := by
  cases lit with
  | true => rfl
  | false => exact same.symm

theorem length_line (same : on.length = off.length) (display : Display) (y : Nat) :
    (display.line on off y).length = display.width * on.length + 2 := by
  have lengths : ((display.row y).map (symbol on off)).map String.length =
      List.replicate display.width on.length := by
    apply List.eq_replicate_iff.mpr
    simp [row, ← String.length_toList, length_symbol same]
  have bar : "│".length = 1 := rfl
  simp only [line, String.length_append, String.length_join, lengths, List.sum_replicate_nat, bar]
  omega

theorem newline_notMem_symbol (plain : '\n' ∉ on.toList) (plain' : '\n' ∉ off.toList)
    (lit : Bool) : '\n' ∉ (symbol on off lit).toList := by
  cases lit with
  | true => exact plain
  | false => exact plain'

/-- No line holds a newline of its own. -/
theorem newline_notMem_lines (plain : '\n' ∉ on.toList) (plain' : '\n' ∉ off.toList)
    {line : String} (inside : line ∈ display.lines on off) : '\n' ∉ line.toList := by
  have symbols {width : Nat} (row : Vector Bool width) : '\n' ∉ (textRow on off row).toList := by
    simp only [textRow, String.toList_join, List.mem_flatMap, List.mem_map]
    rintro ⟨_, ⟨lit, _, rfl⟩, newline⟩
    exact newline_notMem_symbol plain plain' lit newline
  have dashes : '\n' ∉ display.border.toList := by
    simp [border, List.mem_replicate]
  simp only [lines, List.mem_append, List.mem_map, List.mem_singleton] at inside
  rcases inside with (rfl | ⟨row, _, rfl⟩) | rfl
  · simp [dashes]
  · simp [symbols row]
  · simp [dashes]

theorem linesOf_text (plain : '\n' ∉ on.toList) (plain' : '\n' ∉ off.toList) :
    linesOf (display.text on off) = display.lines on off := by
  have parted := String.toList_split_intercalate (c := '\n') (l := display.lines on off)
    fun line inside => newline_notMem_lines plain plain' inside
  rw [if_neg (by simp [lines])] at parted
  exact parted

theorem symbolAt_line (same : on.length = off.length) (inside : x < display.width) :
    symbolAt on.length (display.line on off y) x = symbol on off (display.lit x y) := by
  have counted : x < (display.row y).length := by simpa [row] using inside
  have sizes (lit : Bool) : (symbol on off lit).toList.length = on.length := length_symbol same lit
  have symbols := take_drop_flatMap sizes (display.row y) "│".toList counted
  have barred : (display.line on off y).toList =
      '│' :: ((display.row y).flatMap (fun lit => (symbol on off lit).toList) ++ "│".toList) := by
    simp [line, List.flatMap_map]
  rw [symbolAt, barred, Nat.add_comm, List.drop_succ_cons, symbols, String.ofList_toList]
  simp [row]

/-- Reading a text gives back the display that it shows. -/
theorem ofText_text (same : on.length = off.length) (distinct : on ≠ off)
    (plain : '\n' ∉ on.toList) (plain' : '\n' ∉ off.toList) (display : Display) :
    ofText on (display.text on off) = display := by
  have first : (display.lines on off).headD "" = "┌" ++ display.border ++ "┐" := rfl
  have dashes : ("┌" ++ display.border ++ "┐").length - 2 = display.width := by
    have corners : "┌".length = 1 ∧ "┐".length = 1 := ⟨rfl, rfl⟩
    simp only [String.length_append, corners, border, String.length_ofList, List.length_replicate]
    omega
  simp only [ofText, linesOf_text plain plain', first, dashes, length_lines, Nat.add_sub_cancel]
  refine Display.ext_lit rfl rfl fun x y => ?_
  by_cases valid : x < display.width ∧ y < display.height
  · obtain ⟨inside, below⟩ := valid
    have told : (symbol on off (display.lit x y) == on) = display.lit x y := by
      cases display.lit x y with
      | true => exact beq_self_eq_true on
      | false => exact beq_false_of_ne distinct.symm
    rw [lit, Grid.cell?_ofFn, if_pos ⟨inside, below⟩, Option.getD_some, List.getD_eq_getElem?_getD,
      getElem?_lines below, Option.getD_some, symbolAt_line same inside, told]
  · rw [lit, Grid.cell?_ofFn, if_neg valid]
    simp [lit, Grid.cell?, valid]

/-- The text of a display has a line for each row between its borders, and a line has a symbol for
each pixel. Symbols of one length determine the display, whatever they look like. -/
theorem text_determines_display {on off : String} (same : on.length = off.length)
    (distinct : on ≠ off) (plain : '\n' ∉ on.toList) (plain' : '\n' ∉ off.toList) :
    (∀ display : Display,
      let lines := ((display.text on off).split '\n').toList.map (·.copy)
      let dashes := String.ofList (List.replicate display.width '─')
      lines.length = display.height + 2 ∧
        lines[0]? = some ("┌" ++ dashes ++ "┐") ∧
        lines[display.height + 1]? = some ("└" ++ dashes ++ "┘") ∧
        ∀ y < display.height, ∃ line, lines[y + 1]? = some line ∧
          line = "│" ++ String.join ((List.range display.width).map fun x =>
            if display.lit x y then on else off) ++ "│" ∧
          line.length = display.width * on.length + 2) ∧
    (∀ display, ofText on (display.text on off) = display) ∧
    ∀ display other : Display, display.text on off = other.text on off → display = other := by
  have recovers := ofText_text same distinct plain plain'
  refine ⟨fun display => ?_, recovers, fun display other alike => ?_⟩
  · intro lines dashes
    have parted : lines = display.lines on off := linesOf_text plain plain'
    rw [parted]
    refine ⟨length_lines display on off, rfl, ?_, fun y below => ?_⟩
    · simp [Display.lines, dashes, border]
    · refine ⟨_, getElem?_lines below, ?_, length_line same display y⟩
      simp [line, row, symbol, Function.comp_def]
  · rw [← recovers display, alike, recovers other]

/-- Symbols of bars and corners do not hide a display of three pixels. -/
theorem text_determines_threePixels :
    let display : Display := Grid.ofFn 3 1 fun x _ => x == 1
    ("│┐".length = "┌─".length ∧ "│┐" ≠ "┌─" ∧ '\n' ∉ "│┐".toList ∧ '\n' ∉ "┌─".toList) ∧
      display.text "│┐" "┌─" = "┌───┐\n│┌─│┐┌─│\n└───┘" ∧
      ofText "│┐" "┌───┐\n│┌─│┐┌─│\n└───┘" = display := by
  intro display
  have same : "│┐".length = "┌─".length := by decide +kernel
  have distinct : "│┐" ≠ "┌─" := by simp
  have plain : '\n' ∉ "│┐".toList := by simp
  have plain' : '\n' ∉ "┌─".toList := by simp
  have text : display.text "│┐" "┌─" = "┌───┐\n│┌─│┐┌─│\n└───┘" := by decide +kernel
  obtain ⟨_, recovers, _⟩ := text_determines_display same distinct plain plain'
  refine ⟨⟨same, distinct, plain, plain'⟩, text, ?_⟩
  rw [← text]
  exact recovers display

end Display

end Chip8
