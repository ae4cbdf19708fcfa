/-!
This file defines the arithmetic and logic operations on two integers.
-/

namespace Chip8

/-- The bits of the first number that the second one lacks. -/
def bitsWithout (first second : Nat) : Nat := first ^^^ (first &&& second)

/-- The bits of an integer are those of its two's complement, which has no end on the left. -/
def bitAnd : Int → Int → Int
  | .ofNat first, .ofNat second => .ofNat (first &&& second)
  | .ofNat first, .negSucc second => .ofNat (bitsWithout first second)
  | .negSucc first, .ofNat second => .ofNat (bitsWithout second first)
  | .negSucc first, .negSucc second => .negSucc (first ||| second)

def bitOr : Int → Int → Int
  | .ofNat first, .ofNat second => .ofNat (first ||| second)
  | .ofNat first, .negSucc second => .negSucc (bitsWithout second first)
  | .negSucc first, .ofNat second => .negSucc (bitsWithout first second)
  | .negSucc first, .negSucc second => .negSucc (first &&& second)

def bitXor : Int → Int → Int
  | .ofNat first, .ofNat second => .ofNat (first ^^^ second)
  | .ofNat first, .negSucc second => .negSucc (first ^^^ second)
  | .negSucc first, .ofNat second => .negSucc (first ^^^ second)
  | .negSucc first, .negSucc second => .ofNat (first ^^^ second)

/-- The operations differ in the result and in the flag. -/
inductive AluOperation where
  | set
  | or
  | and
  | xor
  | add
  | subtract
  | shiftRight
  | subtractReversed
  | shiftLeft
  deriving DecidableEq, Repr

/-- An operation is found by its name. -/
def AluOperation.ofName? : String → Option AluOperation
  | "set" => some .set
  | "or" => some .or
  | "and" => some .and
  | "xor" => some .xor
  | "add" => some .add
  | "sub_xy" => some .subtract
  | "shift_right" => some .shiftRight
  | "sub_yx" => some .subtractReversed
  | "shift_left" => some .shiftLeft
  | _ => none

/-- An outcome may leave the flag alone. -/
structure AluOutcome where
  result : Int
  flag? : Option Int
  deriving DecidableEq, Repr

/-- Only the arithmetic operations and the left shift cut their result down to a byte. -/
def AluOperation.compute (operation : AluOperation) (x y : Int) : AluOutcome :=
  match operation with
  | .set => ⟨y, none⟩
  | .or => ⟨bitOr x y, none⟩
  | .and => ⟨bitAnd x y, none⟩
  | .xor => ⟨bitXor x y, none⟩
  | .add => ⟨(x + y) % 0x100, some (if 0xFF < x + y then 1 else 0)⟩
  | .subtract => ⟨(x - y) % 0x100, some (if y ≤ x then 1 else 0)⟩
  | .shiftRight => ⟨x / 2, some (x % 2)⟩
  | .subtractReversed => ⟨(y - x) % 0x100, some (if x ≤ y then 1 else 0)⟩
  | .shiftLeft => ⟨x * 2 % 0x100, some (x / 0x80 % 2)⟩

end Chip8
