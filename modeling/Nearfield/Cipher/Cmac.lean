/-
# The cipher based message authentication code

AES-CMAC of RFC 4493: the text is chained through the cipher, and the last
block is combined with a key dependent mask, which tells a full last block
from a padded one. A truncated code keeps every second of the sixteen bytes.

Key definitions: `Cmac.full`, `Cmac.truncated`.
Key theorem: `Cmac.length_truncated`.
-/
import Nearfield.Cipher.Aes

namespace Nearfield
namespace Cmac

open Aes (Schedule)

/-- A word shifted left by one bit, with the high bit of `next` shifted in. -/
def shiftWord (w : Word) (next : UInt8) : Word :=
  ⟨(w.b0 <<< 1) ||| (w.b1 >>> 7), (w.b1 <<< 1) ||| (w.b2 >>> 7), (w.b2 <<< 1) ||| (w.b3 >>> 7),
   (w.b3 <<< 1) ||| (next >>> 7)⟩

/-- A block shifted left by one bit, reduced by the polynomial of the field of
order 2¹²⁸ when a bit falls out. -/
def doubled (b : Block) : Block :=
  let w3 := shiftWord b.w3 0
  ⟨shiftWord b.w0 b.w1.b0, shiftWord b.w1 b.w2.b0, shiftWord b.w2 b.w3.b0,
   { w3 with b3 := w3.b3 ^^^ ((b.w0.b0 >>> 7) * 0x87) }⟩

/-- The masks for a full and for a padded last block. -/
structure Masks where
  full : Block
  padded : Block

def masks (s : Schedule) : Masks :=
  let full := doubled (s.encrypt Block.zero)
  ⟨full, doubled full⟩

/-- Chains blocks, then the last block: the last of the whole ones if no byte
is left over, otherwise the padded rest. -/
def chain (s : Schedule) (m : Masks) (left : Bytes) : Block → List Block → Block
  | acc, [] => s.encrypt ((acc.xor m.padded).xor (Block.zeroFilled (left ++ [0x80])))
  | acc, [b] =>
    if left.isEmpty then s.encrypt ((acc.xor m.full).xor b)
    else s.encrypt (((s.encrypt (acc.xor b)).xor m.padded).xor (Block.zeroFilled (left ++ [0x80])))
  | acc, b :: bs => chain s m left (s.encrypt (acc.xor b)) bs

/-- The 16 byte code of `text` under `key`. -/
def full (key : Key) (text : Bytes) : Block :=
  let s := Aes.schedule key
  let (blocks, left) := Block.split text
  chain s (masks s) left Block.zero blocks

/-- Bytes in a truncated code. -/
def truncatedSize : Nat := 8

/-- The second, fourth, … byte of the code. -/
def truncated (key : Key) (text : Bytes) : Bytes :=
  let c := full key text
  [c.w0.b1, c.w0.b3, c.w1.b1, c.w1.b3, c.w2.b1, c.w2.b3, c.w3.b1, c.w3.b3]

@[simp] theorem length_truncated (key : Key) (text : Bytes) :
    (truncated key text).length = truncatedSize := rfl

end Cmac
end Nearfield
