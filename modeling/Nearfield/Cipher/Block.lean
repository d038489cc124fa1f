/-
# The 16 byte block

A block is four words of four bytes: the columns of the cipher's state, in
order. Blocks are also keys, random challenges and full length MACs, all of
which have exactly 16 bytes by type.

Key definitions: `Word`, `Block`, `Block.toBytes`, `Block.ofBytes?`,
`Block.split`.
Key theorems: `Block.ofBytes?_toBytes`, `Block.toBytes_inj`, `Block.length_toBytes`.
-/
import Nearfield.Bytes

namespace Nearfield

/-- Four bytes: one column of the cipher's state. -/
structure Word where
  b0 : UInt8
  b1 : UInt8
  b2 : UInt8
  b3 : UInt8
  deriving DecidableEq, Repr, Inhabited

namespace Word

def toBytes (w : Word) : Bytes := [w.b0, w.b1, w.b2, w.b3]

def map (f : UInt8 → UInt8) (w : Word) : Word := ⟨f w.b0, f w.b1, f w.b2, f w.b3⟩

def xor (v w : Word) : Word := ⟨v.b0 ^^^ w.b0, v.b1 ^^^ w.b1, v.b2 ^^^ w.b2, v.b3 ^^^ w.b3⟩

end Word

/-- Sixteen bytes, as four columns. -/
structure Block where
  w0 : Word
  w1 : Word
  w2 : Word
  w3 : Word
  deriving DecidableEq, Repr, Inhabited

/-- A 128 bit key. -/
abbrev Key := Block

namespace Block

/-- Bytes in a block. -/
def size : Nat := 16

def toBytes (b : Block) : Bytes :=
  b.w0.toBytes ++ b.w1.toBytes ++ b.w2.toBytes ++ b.w3.toBytes

/-- Reads exactly sixteen bytes. -/
def ofBytes? : Bytes → Option Block
  | [a0, a1, a2, a3, a4, a5, a6, a7, a8, a9, a10, a11, a12, a13, a14, a15] =>
    some ⟨⟨a0, a1, a2, a3⟩, ⟨a4, a5, a6, a7⟩, ⟨a8, a9, a10, a11⟩, ⟨a12, a13, a14, a15⟩⟩
  | _ => none

/-- Reads the first sixteen bytes, with zeros where there are none. -/
def zeroFilled (d : Bytes) : Block :=
  ⟨⟨d.getD 0 0, d.getD 1 0, d.getD 2 0, d.getD 3 0⟩,
   ⟨d.getD 4 0, d.getD 5 0, d.getD 6 0, d.getD 7 0⟩,
   ⟨d.getD 8 0, d.getD 9 0, d.getD 10 0, d.getD 11 0⟩,
   ⟨d.getD 12 0, d.getD 13 0, d.getD 14 0, d.getD 15 0⟩⟩

/-- The whole blocks at the front of a byte string, and the bytes left over,
fewer than sixteen. -/
def split : Bytes → List Block × Bytes
  | a0 :: a1 :: a2 :: a3 :: a4 :: a5 :: a6 :: a7 :: a8 :: a9 :: a10 :: a11 :: a12 :: a13
      :: a14 :: a15 :: rest =>
    let (blocks, left) := split rest
    (⟨⟨a0, a1, a2, a3⟩, ⟨a4, a5, a6, a7⟩, ⟨a8, a9, a10, a11⟩, ⟨a12, a13, a14, a15⟩⟩ :: blocks, left)
  | left => ([], left)

/-- The bytes of a list of blocks. -/
def join (blocks : List Block) : Bytes := blocks.flatMap toBytes

def zero : Block := ⟨⟨0, 0, 0, 0⟩, ⟨0, 0, 0, 0⟩, ⟨0, 0, 0, 0⟩, ⟨0, 0, 0, 0⟩⟩

def map (f : UInt8 → UInt8) (b : Block) : Block := ⟨b.w0.map f, b.w1.map f, b.w2.map f, b.w3.map f⟩

def mapWords (f : Word → Word) (b : Block) : Block := ⟨f b.w0, f b.w1, f b.w2, f b.w3⟩

def xor (a b : Block) : Block := ⟨a.w0.xor b.w0, a.w1.xor b.w1, a.w2.xor b.w2, a.w3.xor b.w3⟩

/-- The block with its first byte moved to the end. -/
def rotateLeft (b : Block) : Block :=
  ⟨⟨b.w0.b1, b.w0.b2, b.w0.b3, b.w1.b0⟩, ⟨b.w1.b1, b.w1.b2, b.w1.b3, b.w2.b0⟩,
   ⟨b.w2.b1, b.w2.b2, b.w2.b3, b.w3.b0⟩, ⟨b.w3.b1, b.w3.b2, b.w3.b3, b.w0.b0⟩⟩

@[simp] theorem length_toBytes (b : Block) : b.toBytes.length = size := rfl

@[simp] theorem ofBytes?_toBytes (b : Block) : ofBytes? b.toBytes = some b := rfl

/-- A block is its bytes. -/
theorem toBytes_inj {a b : Block} : a.toBytes = b.toBytes ↔ a = b :=
  ⟨fun h => Option.some.inj (by rw [← ofBytes?_toBytes a, ← ofBytes?_toBytes b, h]), congrArg _⟩

end Block
end Nearfield
