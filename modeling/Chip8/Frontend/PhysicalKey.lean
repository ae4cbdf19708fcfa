import Chip8.Keypad

/-!
This file maps the keys of a keyboard to the hexadecimal keypad.
-/

namespace Chip8

/-- Character keys carry their character, and the keys without a role carry a name. -/
inductive PhysicalKey where
  | character (c : Char)
  | up
  | down
  | left
  | right
  | space
  | escape
  | f1
  | named (name : String)
  deriving DecidableEq, Repr

namespace PhysicalKey

/-- A key of one character has this character for its name. -/
def ofName (name : String) : PhysicalKey :=
  match name, name.toList with
  | "UP", _ => .up
  | "DOWN", _ => .down
  | "LEFT", _ => .left
  | "RIGHT", _ => .right
  | "SPACE", _ => .space
  | "ESCAPE", _ => .escape
  | "F1", _ => .f1
  | _, [c] => .character c
  | _, _ => .named name

/-- A digit key stands for its digit. -/
def digit? (c : Char) : Option (Fin keyCount) :=
  match c with
  | '0' => some 0x0
  | '1' => some 0x1
  | '2' => some 0x2
  | '3' => some 0x3
  | '4' => some 0x4
  | '5' => some 0x5
  | '6' => some 0x6
  | '7' => some 0x7
  | '8' => some 0x8
  | '9' => some 0x9
  | 'a' => some 0xA
  | 'b' => some 0xB
  | 'c' => some 0xC
  | 'd' => some 0xD
  | 'e' => some 0xE
  | 'f' => some 0xF
  | _ => none

/-- The arrows and the space bar lie where their digits lie on a number pad. -/
def hex? : PhysicalKey → Option (Fin keyCount)
  | .character c => digit? c
  | .up => some 0x2
  | .down => some 0x8
  | .left => some 0x4
  | .right => some 0x6
  | .space => some 0x5
  | .escape | .f1 | .named _ => none

end PhysicalKey

end Chip8
