import Chip8.Error
import Chip8.Host

/-!
This file reads files by their paths and by their descriptors.
-/

namespace Chip8

/-- A file system tells for each path and for each descriptor what the file holds, or why it cannot
be read. -/
structure FileSystem where
  atPath : String → Except FileError (List UInt8)
  behind : Nat → Except FileError (List UInt8)

namespace FileSystem

/-- The character zero would end the path. -/
def read (files : FileSystem) (path : String) : Except Error (List UInt8) :=
  if path.contains '\x00' then .error .zeroInPath
  else
    match files.atPath path with
    | .ok contents => .ok contents
    | .error error => .error (.file error)

/-- A number beyond a signed 32-bit word is taken for no descriptor. -/
def readDescriptor (files : FileSystem) (number : Int) : Except Error (List UInt8) :=
  if ¬fitsWord number then .error (.notPath (.number number))
  else if number < 0 then .error .negativeDescriptor
  else
    match files.behind number.toNat with
    | .ok contents => .ok contents
    | .error error => .error (.file error)

/-- A text names a file by its path, and a number or a truth value by its descriptor. -/
def readNamed (files : FileSystem) (name : Literal) : Except Error (List UInt8) :=
  match name with
  | .text path => files.read path
  | .number number => files.readDescriptor number
  | .flag value => files.readDescriptor (if value then 1 else 0)
  | .nothing | .list _ => .error (.notPath name)

end FileSystem

/-- A place is a file, or a directory with the names that lead to it, the innermost one first. -/
inductive Place where
  | file (contents : List UInt8)
  | directory (names : List String)
  deriving DecidableEq, Repr

/-- A tree tells what stands under a name in a directory, and where a relative path starts. -/
structure FileTree where
  working : List String
  entry? : List String → String → Option Place

namespace FileTree

/-- A name may have this many bytes. -/
def nameLimit : Nat := 255

/-- A path must have fewer bytes than this. -/
def pathLimit : Nat := 4096

/-- A point stands for the directory itself, and two points for the one around it. -/
def enter (tree : FileTree) (path : String) (place : Place) (name : String) :
    Except FileError Place :=
  match place with
  | .file _ => .error (.notDirectory path)
  | .directory names =>
      if name = "" ∨ name = "." then .ok place
      else if name = ".." then .ok (.directory names.tail)
      else if nameLimit < name.utf8ByteSize then .error (.nameTooLong path)
      else
        match tree.entry? names name with
        | some inner => .ok inner
        | none => .error (.notFound path)

/-- The names of a path are entered one by one, from the root if a slash comes first. -/
def find (tree : FileTree) (path : String) : Except FileError (List UInt8) := do
  if path.isEmpty then throw (.notFound path)
  if pathLimit ≤ path.utf8ByteSize then throw (.nameTooLong path)
  let start := if path.startsWith "/" then [] else tree.working
  match ← (path.splitOn "/").foldlM (tree.enter path) (.directory start) with
  | .file contents => return contents
  | .directory _ => throw (.isDirectory path)

/-- No file is open, so there is nothing behind a descriptor. -/
def files (tree : FileTree) : FileSystem := ⟨tree.find, fun _ => .error (.badDescriptor none)⟩

end FileTree

end Chip8
