import Chip8.Fault

/-!
This file describes errors of any kind by their arguments.
-/

namespace Chip8

/-- An error has a kind, and its arguments tell more. -/
structure Cause where
  kind : String
  arguments : List Item
  deriving DecidableEq, Repr

/-- The arguments may be too few, too many or of a wrong type for the kind. -/
inductive CauseError where
  | missing (kind : String) (parameters : List String)
  | surplus (kind : String) (taken given : Nat)
  | textAsNumber
  | notNumber (type : String)
  deriving DecidableEq, Repr

/-- The error itself counts as the first argument. -/
def CauseError.message : CauseError → String
  | .missing kind parameters =>
      kind ++ ".__init__() missing " ++ toString parameters.length ++ " required positional " ++
        (if parameters.length = 1 then "argument: " else "arguments: ") ++
        " and ".intercalate (parameters.map Quoted.quote)
  | .surplus kind taken given =>
      kind ++ ".__init__() takes " ++ toString (taken + 1) ++ " positional arguments but " ++
        toString (given + 1) ++ " were given"
  | .textAsNumber => "Unknown format code 'X' for object of type 'str'"
  | .notNumber type => "unsupported format string passed to " ++ type ++ ".__format__"

namespace Cause

/-- The first of these kinds stands for all errors of the host. -/
def hostKinds : List String :=
  ["OSError", "FileNotFoundError", "IsADirectoryError", "NotADirectoryError", "PermissionError",
   "FileExistsError", "InterruptedError", "BlockingIOError", "ProcessLookupError",
   "ChildProcessError", "BrokenPipeError", "TimeoutError", "ConnectionError",
   "ConnectionAbortedError", "ConnectionRefusedError", "ConnectionResetError"]

/-- An error number of the host may have a kind of its own. -/
def kindOfNumber? : Int → Option String
  | 1 | 13 => some "PermissionError"
  | 2 => some "FileNotFoundError"
  | 3 => some "ProcessLookupError"
  | 4 => some "InterruptedError"
  | 10 => some "ChildProcessError"
  | 11 | 114 | 115 => some "BlockingIOError"
  | 17 => some "FileExistsError"
  | 20 => some "NotADirectoryError"
  | 21 => some "IsADirectoryError"
  | 32 | 108 => some "BrokenPipeError"
  | 103 => some "ConnectionAbortedError"
  | 104 => some "ConnectionResetError"
  | 110 => some "TimeoutError"
  | 111 => some "ConnectionRefusedError"
  | _ => none

/-- A truth value counts as a number. -/
def numberOf (item : Item) : Except CauseError Int :=
  match item with
  | .literal (.number value) => .ok value
  | .literal (.flag value) => .ok value.toNat
  | .literal (.text _) => .error .textAsNumber
  | other => .error (.notNumber other.type)

/-- Some kinds have a second word, which is still understood. -/
def canonicalKind : String → String
  | "IOError" | "EnvironmentError" => "OSError"
  | "InvalidInstruction" => "InvalidOpcode"
  | kind => kind

/-- An error of the host takes its kind from the number, unless it has a narrower one. -/
def name (cause : Cause) : String :=
  match canonicalKind cause.kind, cause.arguments with
  | "OSError", number :: _ :: rest =>
      if 3 < rest.length then "OSError"
      else ((numberOf number).toOption.bind kindOfNumber?).getD "OSError"
  | kind, _ => kind

/-- An error of the host shows its number, its text and one or two paths, if there are any. -/
def hostMessage (arguments : List Item) : String :=
  let told (number text : Item) : String := "[Errno " ++ number.plain ++ "] " ++ text.plain
  match arguments with
  | [number, text] => told number text
  | [number, text, path] | [number, text, path, _]
  | [number, text, path, _, .literal .nothing] =>
      if path = .literal .nothing then told number text
      else told number text ++ ": " ++ path.describe
  | [number, text, path, _, other] =>
      if path = .literal .nothing then told number text
      else told number text ++ ": " ++ path.describe ++ " -> " ++ other.describe
  | arguments => Item.describeAll arguments

/-- A missing key is shown like a value, and other single arguments like a text. -/
def generalMessage (kind : String) (arguments : List Item) : String :=
  if hostKinds.contains kind then hostMessage arguments
  else
    match kind, arguments with
    | "KeyError", [key] => key.describe
    | _, arguments => Item.describeAll arguments

/-- Each kind of fault has a fixed list of arguments. -/
def parameters? : String → Option (List String)
  | "InvalidOpcode" => some ["opcode"]
  | "UnhandledInstruction" => some ["instruction"]
  | "StackUnderflow" => some ["pc"]
  | "StackOverflow" => some ["pc", "depth"]
  | "ProgramTooLarge" => some ["size", "capacity"]
  | _ => none

/-- Opcodes and places must be numbers, and other arguments are only shown. -/
def faultMessage (kind : String) (arguments : List Item) : Except CauseError String :=
  match kind, arguments with
  | "InvalidOpcode", [opcode] => do return (Fault.invalidOpcode (← numberOf opcode)).message
  | "UnhandledInstruction", [item] => .ok (Fault.unhandledInstruction item).message
  | "StackUnderflow", [pc] => do return (Fault.stackUnderflow (← numberOf pc)).message
  | "StackOverflow", [pc, depth] => do
      return Fault.overflowMessage (← numberOf pc) depth.plain
  | "ProgramTooLarge", [size, capacity] => .ok (Fault.sizeMessage size.plain capacity.plain)
  | kind, arguments => .ok (generalMessage kind arguments)

/-- The number of arguments is checked first. -/
def message (cause : Cause) : Except CauseError String :=
  let kind := canonicalKind cause.kind
  match parameters? kind with
  | none => .ok (generalMessage kind cause.arguments)
  | some parameters =>
      let given := cause.arguments.length
      if given < parameters.length then .error (.missing kind (parameters.drop given))
      else if parameters.length < given then .error (.surplus kind parameters.length given)
      else faultMessage kind cause.arguments

end Cause

end Chip8
