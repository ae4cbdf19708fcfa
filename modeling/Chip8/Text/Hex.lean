/-!
This file writes integers in hexadecimal.
-/

namespace Chip8.Hex

/-- The digits have no leading zero, and their letters are capitals. -/
def digits (value : Nat) : List Char := (Nat.toDigits 16 value).map Char.toUpper

/-- A negative number starts with a minus sign. -/
def sign (value : Int) : String := if value < 0 then "-" else ""

/-- The text is filled with zeros to the width, and the sign counts towards the width. -/
def padded (width : Nat) (value : Int) : String :=
  let body := digits value.natAbs
  sign value ++
    String.ofList (List.replicate (width - (sign value).length - body.length) '0' ++ body)

/-- The shortest text has no filling. -/
def upper (value : Int) : String := padded 0 value

/-- A literal has small letters after its mark, and sign and mark count towards the width. -/
def literal (width : Nat) (value : Int) : String :=
  let body := Nat.toDigits 16 value.natAbs
  sign value ++ "0x" ++
    String.ofList (List.replicate (width - (sign value).length - 2 - body.length) '0' ++ body)

end Chip8.Hex
