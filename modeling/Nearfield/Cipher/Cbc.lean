/-
# Cipher block chaining and its padding

Chaining runs over a list of blocks; each plain block is combined with the
cipher block before it, the first with a start value. Text of any length
becomes whole blocks by ISO 7816 padding: one byte `0x80`, then zeros up to the
end of the block, so that there is always at least one padding byte.

Key definitions: `Cbc.encryptBlocks`, `Cbc.decryptBlocks`, `Cbc.pad`,
`Cbc.unpad?`, `Cbc.encrypt`, `Cbc.decrypt?`.
-/
import Nearfield.Cipher.Aes

namespace Nearfield
namespace Cbc

open Aes (Schedule)

/-- Encrypts a chain of blocks that starts from `iv`. -/
def encryptBlocks (s : Schedule) : Block → List Block → List Block
  | _, [] => []
  | iv, b :: bs =>
    let c := s.encrypt (b.xor iv)
    c :: encryptBlocks s c bs

/-- Decrypts a chain of blocks that starts from `iv`. -/
def decryptBlocks (s : Schedule) : Block → List Block → List Block
  | _, [] => []
  | iv, c :: cs => (s.decrypt c).xor iv :: decryptBlocks s c cs

/-- The byte that ends the text. -/
def endMark : UInt8 := 0x80

/-- The text as padded blocks. -/
def pad (text : Bytes) : List Block :=
  let (blocks, left) := Block.split text
  blocks ++ [Block.zeroFilled (left ++ [endMark])]

/-- The text of a block that ends with the mark and zeros. -/
def unpadBlock? (b : Block) : Option Bytes :=
  match b.toBytes.reverse.dropWhile (· == 0) with
  | [] => none
  | c :: text => if c = endMark then some text.reverse else none

/-- The text of padded blocks. Only the last block may hold padding, and it
must. -/
def unpad? : List Block → Option Bytes
  | [] => none
  | [b] => unpadBlock? b
  | b :: bs => (unpad? bs).map (b.toBytes ++ ·)

/-- Pads and encrypts a text. -/
def encrypt (key : Key) (iv : Block) (text : Bytes) : Bytes :=
  Block.join (encryptBlocks (Aes.schedule key) iv (pad text))

/-- Decrypts whole blocks and strips the padding, `none` if it is malformed. -/
def decrypt? (key : Key) (iv : Block) (data : Bytes) : Option Bytes :=
  unpad? (decryptBlocks (Aes.schedule key) iv (Block.split data).1)

end Cbc
end Nearfield
