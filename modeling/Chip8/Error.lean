import Chip8.Fault
import Chip8.Literal.Integer
import Chip8.Literal.Shape
import Chip8.Text.ByteCount

/-!
This file lists the reasons for which an operation is refused.
-/

namespace Chip8

/-- A clock difference may be no number of ticks. -/
inductive ClockError where
  | notANumber
  | infinite
  deriving DecidableEq, Repr

def ClockError.message : ClockError → String
  | .notANumber => "cannot convert float NaN to integer"
  | .infinite => "cannot convert float infinity to integer"

/-- A file cannot be read for one of these reasons. It is named by its path or by a descriptor,
which is told only where no file is opened. -/
inductive FileError where
  | notFound (path : String)
  | isDirectory (path : String)
  | notDirectory (path : String)
  | denied (path : String)
  | nameTooLong (path : String)
  | badDescriptor (told? : Option Literal)
  deriving DecidableEq, Repr

def FileError.name : FileError → String
  | .notFound _ => "FileNotFoundError"
  | .isDirectory _ => "IsADirectoryError"
  | .notDirectory _ => "NotADirectoryError"
  | .denied _ => "PermissionError"
  | .nameTooLong _ | .badDescriptor _ => "OSError"

def FileError.message : FileError → String
  | .notFound path => "[Errno 2] No such file or directory: " ++ Quoted.quote path
  | .isDirectory path => "[Errno 21] Is a directory: " ++ Quoted.quote path
  | .notDirectory path => "[Errno 20] Not a directory: " ++ Quoted.quote path
  | .denied path => "[Errno 13] Permission denied: " ++ Quoted.quote path
  | .nameTooLong path => "[Errno 36] File name too long: " ++ Quoted.quote path
  | .badDescriptor none => "[Errno 9] Bad file descriptor"
  | .badDescriptor (some told) => "[Errno 9] Bad file descriptor: " ++ told.describe

/-- The bytes of a program may be too many to be listed, or no bytes at all. -/
inductive BytesError where
  | outOfRange
  | negativeCount
  | wideCount
  | wideBlock
  | noMemory
  deriving DecidableEq, Repr

def BytesError.message : BytesError → String
  | .outOfRange => "bytes must be in range(0, 256)"
  | .negativeCount => "negative count"
  | .wideCount => "cannot fit 'int' into an index-sized integer"
  | .wideBlock => "byte string is too large"
  | .noMemory => ""

/-- A keypad is set from sixteen states in a row, and the nothing is no state. -/
inductive KeypadError where
  | outOfRange (key : Int)
  | notIterable (value : Literal)
  | nothing
  | ragged (cause : Ragged)
  | wrongShape (shape : List Nat)
  deriving DecidableEq, Repr

def KeypadError.message : KeypadError → String
  | .outOfRange key => "Key out of range: " ++ toString key
  | .notIterable value => "'" ++ value.kind ++ "' object is not iterable"
  | .nothing => "None is not a valid value for jnp.array"
  | .ragged cause => cause.message
  | .wrongShape shape => "Expected 16 key states, got " ++ describeShape shape

/-- A window needs a scale and a number of cycles, it has a size that the window system accepts, and
a picture must fill it. -/
inductive WindowError where
  | noScale
  | noCycles
  | wideSize
  | negativeSize
  | largeSize
  | wrongSize
  deriving DecidableEq, Repr

def WindowError.message : WindowError → String
  | .noScale => "unsupported operand type(s) for *: 'int' and 'NoneType'"
  | .noCycles => "'NoneType' object cannot be interpreted as an integer"
  | .wideSize => "size must be two numbers"
  | .largeSize => "Window is too large."
  | .negativeSize => "Cannot set negative sized display mode"
  | .wrongSize => "array must match surface dimensions"

/-- The bytes of an array fill its sides. -/
def byteCount (sides : List Nat) : Nat := sides.foldl (· * ·) 1

/-- The array library may find that a count is too wide for a word, that a side is lost in its word,
or that an image is too large for its size or for the memory of the host. -/
inductive PictureError where
  | wideScale
  | negativeSide
  | tooBig
  | noRoom (sides : List Nat)
  deriving DecidableEq, Repr

def PictureError.message : PictureError → String
  | .wideScale => "Python int too large to convert to C long"
  | .negativeSide => "negative dimensions are not allowed"
  | .tooBig =>
      "array is too big; `arr.size * arr.dtype.itemsize` is larger than the maximum possible size."
  | .noRoom sides =>
      "Unable to allocate " ++ ByteCount.text (byteCount sides) ++ " for an array with shape " ++
        describeShape sides ++ " and data type uint8"

/-- An operation that is refused leaves its machine alone. -/
inductive Error where
  | fault (fault : Fault)
  | clock (error : ClockError)
  | file (error : FileError)
  | zeroInPath
  | negativeDescriptor
  | notPath (value : Literal)
  | bytes (error : BytesError)
  | integer (error : IntegerError)
  | keypad (error : KeypadError)
  | window (error : WindowError)
  | picture (error : PictureError)
  | wideDepth
  | wideOperand (value : Int)
  | notArithmetic (item : Item)
  deriving DecidableEq, Repr

def Error.message : Error → String
  | .fault cause => cause.message
  | .clock error => error.message
  | .file error => error.message
  | .zeroInPath => "embedded null byte"
  | .negativeDescriptor => "negative file descriptor"
  | .notPath value => "expected str, bytes or os.PathLike object, not " ++ value.kind
  | .bytes error => error.message
  | .integer error => error.message
  | .keypad error => error.message
  | .window error => error.message
  | .picture error => error.message
  | .wideDepth => "Python int too large to convert to C long"
  | .wideOperand value => "Python int " ++ toString value ++ " too large to convert to int32"
  | .notArithmetic item => "Not an ALU instruction: " ++ item.describe

end Chip8
