import Chip8.Text.Hidden

/-!
This file writes a text in quotes, so that each of its characters can be seen.
-/

namespace Chip8.Quoted

/-- The code has as many digits as its escape needs. -/
def escapeCode (code : Nat) : List Char :=
  let filled (width : Nat) : List Char :=
    let body := Nat.toDigits 16 code
    List.replicate (width - body.length) '0' ++ body
  if code < 0x100 then '\\' :: 'x' :: filled 2
  else if code < 0x10000 then '\\' :: 'u' :: filled 4
  else '\\' :: 'U' :: filled 8

/-- A character stands for itself unless it is hidden, a backslash or the mark in use. -/
def encodeChar (mark c : Char) : List Char :=
  if c = mark || c = '\\' then ['\\', c]
  else if c = '\n' then ['\\', 'n']
  else if c = '\r' then ['\\', 'r']
  else if c = '\t' then ['\\', 't']
  else if isHidden c.toNat then escapeCode c.toNat
  else [c]

/-- The double mark serves only a text that holds the single mark and not the double one. -/
def mark (body : List Char) : Char :=
  if body.contains '\'' && !body.contains '"' then '"' else '\''

/-- The text stands between two equal marks. -/
def quote (body : String) : String :=
  let m := mark body.toList
  String.ofList (m :: body.toList.flatMap (encodeChar m) ++ [m])

end Chip8.Quoted
