import Chip8.FileSystem
import Chip8.Host
import Chip8.Machine

/-!
This file loads programs into the memory of a machine.
-/

namespace Chip8

/-- A program is given as bytes, as numbers that should be bytes, or as a count of zeros, for which
the memory of the host has a room of so many bytes. -/
inductive ProgramSource where
  | bytes (values : List UInt8)
  | numbers (values : List Int)
  | zeros (count : Int) (room : Nat)
  deriving DecidableEq, Repr

/-- The bytes are listed only up to one more than the capacity, but the size is exact. -/
structure ProgramImage where
  size : Nat
  bytes : List UInt8
  deriving DecidableEq, Repr

def ProgramImage.ofBytes (bytes : List UInt8) : ProgramImage := ⟨bytes.length, bytes⟩

/-- A list of bytes has a head of this size in front of it. -/
def blockHead : Nat := 33

/-- A number that is no byte, a negative count and a count without room are refused. -/
def ProgramSource.image : ProgramSource → Except BytesError ProgramImage
  | .bytes values => .ok (.ofBytes values)
  | .numbers values =>
      if values.all fun value => decide (0 ≤ value ∧ value < 0x100) then
        .ok (.ofBytes (values.map UInt8.ofInt))
      else .error .outOfRange
  | .zeros count room =>
      if ¬fitsLong count then .error .wideCount
      else if count < 0 then .error .negativeCount
      else if ¬fitsLong (count + blockHead) then .error .wideBlock
      else if room ≤ count then .error .noMemory
      else .ok ⟨count.toNat, List.replicate (min count.toNat (programCapacity + 1)) 0⟩

namespace Machine

/-- A program that is too large is refused, and an empty one changes nothing. -/
def loadImage (machine : Machine) (image : ProgramImage) : Except Error Machine :=
  if programCapacity < image.size then
    .error (.fault (.programTooLarge image.size programCapacity))
  else .ok { machine with memory := machine.memory.writeBlock programStart image.bytes }

/-- The bytes of the program follow each other from its start. -/
def loadProgram (machine : Machine) (program : List UInt8) : Except Error Machine :=
  machine.loadImage (.ofBytes program)

def loadSource (machine : Machine) (source : ProgramSource) : Except Error Machine :=
  match source.image with
  | .ok image => machine.loadImage image
  | .error error => .error (.bytes error)

/-- The file may be missing, and its contents may be too large. -/
def loadFile (machine : Machine) (files : FileSystem) (path : String) : Except Error Machine := do
  machine.loadProgram (← files.read path)

end Machine

end Chip8
