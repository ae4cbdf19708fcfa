/-!
This file defines the random stream. It takes the splitting of a key and the draw of a byte from a
library, and the usual library is a keyed mixing of 32-bit words.
-/

namespace Chip8

/-- A key is a pair of words, and each draw replaces it. -/
structure RandomKey where
  high : UInt32
  low : UInt32
  deriving DecidableEq, Repr

/-- A key splits into two, and a key that is used up gives a byte. -/
class RandomLibrary where
  split : RandomKey → RandomKey × RandomKey
  draw : RandomKey → UInt8

namespace RandomKey

def rotateLeft (word : UInt32) (count : UInt32) : UInt32 :=
  (word <<< count) ||| (word >>> (32 - count))

/-- A round adds, rotates and mixes the two halves of a block. -/
def mix (block : UInt32 × UInt32) (count : UInt32) : UInt32 × UInt32 :=
  let sum := block.1 + block.2
  (sum, rotateLeft block.2 count ^^^ sum)

/-- The third key word makes the schedule depend on both key words at once. -/
def schedule (key : RandomKey) (index : Nat) : UInt32 :=
  match index % 3 with
  | 0 => key.high
  | 1 => key.low
  | _ => key.high ^^^ key.low ^^^ 0x1BD11BDA

/-- Four rounds are followed by an injection of the key schedule. -/
def group (key : RandomKey) (block : UInt32 × UInt32) (index : Nat) : UInt32 × UInt32 :=
  let counts : List UInt32 := if index % 2 = 0 then [13, 15, 26, 6] else [17, 29, 16, 24]
  let mixed := counts.foldl mix block
  (mixed.1 + key.schedule (index + 1),
    mixed.2 + key.schedule (index + 2) + UInt32.ofNat (index + 1))

/-- The cipher runs five groups of rounds over the block. -/
def cipher (key : RandomKey) (first second : UInt32) : UInt32 × UInt32 :=
  [0, 1, 2, 3, 4].foldl key.group (first + key.high, second + key.low)

/-- A child of a key is the cipher of its number. -/
def child (key : RandomKey) (number : UInt32) : RandomKey :=
  let block := key.cipher 0 number
  ⟨block.1, block.2⟩

/-- The seed fills the low word. -/
def ofSeed (seed : Int) : RandomKey := ⟨0, UInt32.ofInt seed⟩

/-- The first half of the split takes the place of the key. -/
def next [RandomLibrary] (key : RandomKey) : RandomKey := (RandomLibrary.split key).1

/-- The second half of the split is used up for one byte. -/
def byte [RandomLibrary] (key : RandomKey) : UInt8 :=
  RandomLibrary.draw (RandomLibrary.split key).2

end RandomKey

/-- The halves are the first two children, and a byte is folded from the word of a grandchild. -/
instance : RandomLibrary where
  split key := (key.child 0, key.child 1)
  draw key :=
    let word := (key.child 1).child 0
    (word.high ^^^ word.low).toUInt8

end Chip8
