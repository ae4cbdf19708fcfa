/-!
This file reads integers in decimal.
-/

namespace Chip8.Decimal

/-- Each of these codes is a zero, and the digits from one to nine follow it. -/
def zeros : List Nat :=
  [0x30, 0x660, 0x6F0, 0x7C0, 0x966, 0x9E6, 0xA66, 0xAE6, 0xB66, 0xBE6, 0xC66, 0xCE6, 0xD66, 0xDE6,
   0xE50, 0xED0, 0xF20, 0x1040, 0x1090, 0x17E0, 0x1810, 0x1946, 0x19D0, 0x1A80, 0x1A90, 0x1B50,
   0x1BB0, 0x1C40, 0x1C50, 0xA620, 0xA8D0, 0xA900, 0xA9D0, 0xA9F0, 0xAA50, 0xABF0, 0xFF10, 0x104A0,
   0x10D30, 0x11066, 0x110F0, 0x11136, 0x111D0, 0x112F0, 0x11450, 0x114D0, 0x11650, 0x116C0,
   0x11730, 0x118E0, 0x11950, 0x11C50, 0x11D50, 0x11DA0, 0x16A60, 0x16AC0, 0x16B50, 0x1D7CE,
   0x1D7D8, 0x1D7E2, 0x1D7EC, 0x1D7F6, 0x1E140, 0x1E2F0, 0x1E950, 0x1FBF0]

/-- Every script may bring its own ten digits. -/
def digit? (c : Char) : Option Nat :=
  (zeros.find? fun first => first ≤ c.toNat && c.toNat < first + 10).map fun first =>
    c.toNat - first

/-- The blanks above the first 127 codes. -/
def farBlanks : List Nat :=
  [0x85, 0xA0, 0x1680, 0x2000, 0x2001, 0x2002, 0x2003, 0x2004, 0x2005, 0x2006, 0x2007, 0x2008,
   0x2009, 0x200A, 0x2028, 0x2029, 0x202F, 0x205F, 0x3000]

/-- Blanks may stand around a number. -/
def isBlank (c : Char) : Bool :=
  c == ' ' || (0x9 ≤ c.toNat && c.toNat ≤ 0xD) || farBlanks.contains c.toNat

/-- One underscore may stand between two digits. -/
def digits? : List Char → Option (List Nat)
  | [] => none
  | [c] => (digit? c).map fun digit => [digit]
  | c :: '_' :: rest => do return (← digit? c) :: (← digits? rest)
  | c :: rest => do return (← digit? c) :: (← digits? rest)

/-- A number is negative or not, and it has at least one digit. -/
structure Numeral where
  negative : Bool
  digits : List Nat
  deriving DecidableEq, Repr

def Numeral.value (numeral : Numeral) : Int :=
  let size : Nat := numeral.digits.foldl (fun value digit => value * 10 + digit) 0
  if numeral.negative then -size else size

/-- Only digits and underscores can belong to a number. -/
def isPart (c : Char) : Bool := c == '_' || (digit? c).isSome

/-- A sign may stand before the digits, and other characters end them. -/
def signed? (body : List Char) : Option (Numeral × List Char) :=
  let after (negative : Bool) (body : List Char) : Option (Numeral × List Char) :=
    (digits? (body.takeWhile isPart)).map fun digits =>
      (⟨negative, digits⟩, body.dropWhile isPart)
  match body with
  | '-' :: rest => after true rest
  | '+' :: rest => after false rest
  | digits => after false digits

/-- The number at the beginning of a text comes with all that follows it. -/
def leading? (text : String) : Option (Numeral × List Char) :=
  signed? (text.toList.dropWhile isBlank)

end Chip8.Decimal
