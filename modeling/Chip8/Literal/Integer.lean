import Chip8.Literal
import Chip8.Text.Decimal

/-!
This file reads literals as integers.
-/

namespace Chip8

/-- A literal may stand for no integer. -/
inductive IntegerError where
  | wrongKind (value : Literal)
  | malformed (text : String)
  | tooLong (digits : Nat)
  deriving DecidableEq, Repr

/-- A text with more digits is not read. -/
def digitLimit : Nat := 4300

/-- Only the beginning of a long text is shown. -/
def IntegerError.message : IntegerError → String
  | .wrongKind value =>
      "int() argument must be a string, a bytes-like object or a real number, not '" ++
        value.kind ++ "'"
  | .malformed text =>
      "invalid literal for int() with base 10: " ++
        String.ofList ((Quoted.quote text).toList.take 200)
  | .tooLong digits =>
      "Exceeds the limit (" ++ toString digitLimit ++
        " digits) for integer string conversion: value has " ++ toString digits ++
        " digits; use sys.set_int_max_str_digits() to increase the limit"

/-- A text in decimal stands for an integer, and too many digits are reported before other faults
behind them. -/
def Literal.integer : Literal → Except IntegerError Int
  | .number value => .ok value
  | .flag value => .ok (if value then 1 else 0)
  | .text body =>
      match Decimal.leading? body with
      | some (numeral, rest) =>
          if digitLimit < numeral.digits.length then .error (.tooLong numeral.digits.length)
          else if rest.all Decimal.isBlank then .ok numeral.value
          else .error (.malformed body)
      | none => .error (.malformed body)
  | other => .error (.wrongKind other)

end Chip8
