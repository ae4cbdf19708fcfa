import Chip8.Text.Quoted

/-!
This file defines plain values that may stand where something else is expected.
-/

namespace Chip8

/-- A literal is a basic value or a list of literals. -/
inductive Literal where
  | nothing
  | flag (value : Bool)
  | number (value : Int)
  | text (value : String)
  | list (values : List Literal)
  deriving Repr

namespace Literal

mutual

/-- Two literals are equal when they are of one kind and their contents are equal. -/
def decideEq : (left right : Literal) → Decidable (left = right)
  | .nothing, .nothing => isTrue rfl
  | .flag left, .flag right => decidable_of_iff (left = right) (by simp)
  | .number left, .number right => decidable_of_iff (left = right) (by simp)
  | .text left, .text right => decidable_of_iff (left = right) (by simp)
  | .list left, .list right =>
      match decideAllEq left right with
      | isTrue same => isTrue (by rw [same])
      | isFalse other => isFalse (by simpa using other)
  | .nothing, .flag _ | .nothing, .number _ | .nothing, .text _ | .nothing, .list _
  | .flag _, .nothing | .flag _, .number _ | .flag _, .text _ | .flag _, .list _
  | .number _, .nothing | .number _, .flag _ | .number _, .text _ | .number _, .list _
  | .text _, .nothing | .text _, .flag _ | .text _, .number _ | .text _, .list _
  | .list _, .nothing | .list _, .flag _ | .list _, .number _ | .list _, .text _ =>
      isFalse (by simp)

def decideAllEq : (left right : List Literal) → Decidable (left = right)
  | [], [] => isTrue rfl
  | [], _ :: _ => isFalse (by simp)
  | _ :: _, [] => isFalse (by simp)
  | left :: lefts, right :: rights =>
      match decideEq left right, decideAllEq lefts rights with
      | isTrue same, isTrue sames => isTrue (by rw [same, sames])
      | isFalse other, _ => isFalse (by simp [other])
      | _, isFalse others => isFalse (by simp [others])

end

instance : DecidableEq Literal := decideEq

mutual

/-- A text is shown in quotes. -/
def describe : Literal → String
  | .nothing => "None"
  | .flag value => if value then "True" else "False"
  | .number value => toString value
  | .text value => Quoted.quote value
  | .list values => "[" ++ ", ".intercalate (describeAll values) ++ "]"

def describeAll : List Literal → List String
  | [] => []
  | value :: rest => value.describe :: describeAll rest

end

/-- A text alone is shown without quotes. -/
def plain : Literal → String
  | .text value => value
  | other => other.describe

/-- The empty values of each kind count as false. -/
def holds : Literal → Bool
  | .nothing => false
  | .flag value => value
  | .number value => value ≠ 0
  | .text value => value ≠ ""
  | .list values => !values.isEmpty

mutual

/-- The nothing may lie deep inside a list. -/
def hasNothing : Literal → Bool
  | .nothing => true
  | .list values => anyNothing values
  | _ => false

def anyNothing : List Literal → Bool
  | [] => false
  | value :: rest => value.hasNothing || anyNothing rest

end

def kind : Literal → String
  | .nothing => "NoneType"
  | .flag _ => "bool"
  | .number _ => "int"
  | .text _ => "str"
  | .list _ => "list"

end Literal

end Chip8
