/-
# AES with a 128 bit key

The block cipher of FIPS 197 on `Block`. A round is a byte substitution, a row
rotation, a column mix and the addition of a round key; decryption undoes the
steps in reverse order. The column mix is written with doublings in the field
of 256 elements only, and its inverse is itself after one more linear step.

Key definitions: `Aes.encrypt`, `Aes.decrypt`, `Aes.Schedule`.
-/
import Nearfield.Cipher.Block

namespace Nearfield
namespace Aes

/-- The substitution of the cipher: a row for each high half of the byte, a
column for each low half. -/
def substitutionTable : List (List UInt8) :=
  [[0x63, 0x7c, 0x77, 0x7b, 0xf2, 0x6b, 0x6f, 0xc5, 0x30, 0x01, 0x67, 0x2b, 0xfe, 0xd7, 0xab, 0x76],
  [0xca, 0x82, 0xc9, 0x7d, 0xfa, 0x59, 0x47, 0xf0, 0xad, 0xd4, 0xa2, 0xaf, 0x9c, 0xa4, 0x72, 0xc0],
  [0xb7, 0xfd, 0x93, 0x26, 0x36, 0x3f, 0xf7, 0xcc, 0x34, 0xa5, 0xe5, 0xf1, 0x71, 0xd8, 0x31, 0x15],
  [0x04, 0xc7, 0x23, 0xc3, 0x18, 0x96, 0x05, 0x9a, 0x07, 0x12, 0x80, 0xe2, 0xeb, 0x27, 0xb2, 0x75],
  [0x09, 0x83, 0x2c, 0x1a, 0x1b, 0x6e, 0x5a, 0xa0, 0x52, 0x3b, 0xd6, 0xb3, 0x29, 0xe3, 0x2f, 0x84],
  [0x53, 0xd1, 0x00, 0xed, 0x20, 0xfc, 0xb1, 0x5b, 0x6a, 0xcb, 0xbe, 0x39, 0x4a, 0x4c, 0x58, 0xcf],
  [0xd0, 0xef, 0xaa, 0xfb, 0x43, 0x4d, 0x33, 0x85, 0x45, 0xf9, 0x02, 0x7f, 0x50, 0x3c, 0x9f, 0xa8],
  [0x51, 0xa3, 0x40, 0x8f, 0x92, 0x9d, 0x38, 0xf5, 0xbc, 0xb6, 0xda, 0x21, 0x10, 0xff, 0xf3, 0xd2],
  [0xcd, 0x0c, 0x13, 0xec, 0x5f, 0x97, 0x44, 0x17, 0xc4, 0xa7, 0x7e, 0x3d, 0x64, 0x5d, 0x19, 0x73],
  [0x60, 0x81, 0x4f, 0xdc, 0x22, 0x2a, 0x90, 0x88, 0x46, 0xee, 0xb8, 0x14, 0xde, 0x5e, 0x0b, 0xdb],
  [0xe0, 0x32, 0x3a, 0x0a, 0x49, 0x06, 0x24, 0x5c, 0xc2, 0xd3, 0xac, 0x62, 0x91, 0x95, 0xe4, 0x79],
  [0xe7, 0xc8, 0x37, 0x6d, 0x8d, 0xd5, 0x4e, 0xa9, 0x6c, 0x56, 0xf4, 0xea, 0x65, 0x7a, 0xae, 0x08],
  [0xba, 0x78, 0x25, 0x2e, 0x1c, 0xa6, 0xb4, 0xc6, 0xe8, 0xdd, 0x74, 0x1f, 0x4b, 0xbd, 0x8b, 0x8a],
  [0x70, 0x3e, 0xb5, 0x66, 0x48, 0x03, 0xf6, 0x0e, 0x61, 0x35, 0x57, 0xb9, 0x86, 0xc1, 0x1d, 0x9e],
  [0xe1, 0xf8, 0x98, 0x11, 0x69, 0xd9, 0x8e, 0x94, 0x9b, 0x1e, 0x87, 0xe9, 0xce, 0x55, 0x28, 0xdf],
  [0x8c, 0xa1, 0x89, 0x0d, 0xbf, 0xe6, 0x42, 0x68, 0x41, 0x99, 0x2d, 0x0f, 0xb0, 0x54, 0xbb, 0x16]]

/-- The inverse substitution, laid out in the same way. -/
def inverseTable : List (List UInt8) :=
  [[0x52, 0x09, 0x6a, 0xd5, 0x30, 0x36, 0xa5, 0x38, 0xbf, 0x40, 0xa3, 0x9e, 0x81, 0xf3, 0xd7, 0xfb],
  [0x7c, 0xe3, 0x39, 0x82, 0x9b, 0x2f, 0xff, 0x87, 0x34, 0x8e, 0x43, 0x44, 0xc4, 0xde, 0xe9, 0xcb],
  [0x54, 0x7b, 0x94, 0x32, 0xa6, 0xc2, 0x23, 0x3d, 0xee, 0x4c, 0x95, 0x0b, 0x42, 0xfa, 0xc3, 0x4e],
  [0x08, 0x2e, 0xa1, 0x66, 0x28, 0xd9, 0x24, 0xb2, 0x76, 0x5b, 0xa2, 0x49, 0x6d, 0x8b, 0xd1, 0x25],
  [0x72, 0xf8, 0xf6, 0x64, 0x86, 0x68, 0x98, 0x16, 0xd4, 0xa4, 0x5c, 0xcc, 0x5d, 0x65, 0xb6, 0x92],
  [0x6c, 0x70, 0x48, 0x50, 0xfd, 0xed, 0xb9, 0xda, 0x5e, 0x15, 0x46, 0x57, 0xa7, 0x8d, 0x9d, 0x84],
  [0x90, 0xd8, 0xab, 0x00, 0x8c, 0xbc, 0xd3, 0x0a, 0xf7, 0xe4, 0x58, 0x05, 0xb8, 0xb3, 0x45, 0x06],
  [0xd0, 0x2c, 0x1e, 0x8f, 0xca, 0x3f, 0x0f, 0x02, 0xc1, 0xaf, 0xbd, 0x03, 0x01, 0x13, 0x8a, 0x6b],
  [0x3a, 0x91, 0x11, 0x41, 0x4f, 0x67, 0xdc, 0xea, 0x97, 0xf2, 0xcf, 0xce, 0xf0, 0xb4, 0xe6, 0x73],
  [0x96, 0xac, 0x74, 0x22, 0xe7, 0xad, 0x35, 0x85, 0xe2, 0xf9, 0x37, 0xe8, 0x1c, 0x75, 0xdf, 0x6e],
  [0x47, 0xf1, 0x1a, 0x71, 0x1d, 0x29, 0xc5, 0x89, 0x6f, 0xb7, 0x62, 0x0e, 0xaa, 0x18, 0xbe, 0x1b],
  [0xfc, 0x56, 0x3e, 0x4b, 0xc6, 0xd2, 0x79, 0x20, 0x9a, 0xdb, 0xc0, 0xfe, 0x78, 0xcd, 0x5a, 0xf4],
  [0x1f, 0xdd, 0xa8, 0x33, 0x88, 0x07, 0xc7, 0x31, 0xb1, 0x12, 0x10, 0x59, 0x27, 0x80, 0xec, 0x5f],
  [0x60, 0x51, 0x7f, 0xa9, 0x19, 0xb5, 0x4a, 0x0d, 0x2d, 0xe5, 0x7a, 0x9f, 0x93, 0xc9, 0x9c, 0xef],
  [0xa0, 0xe0, 0x3b, 0x4d, 0xae, 0x2a, 0xf5, 0xb0, 0xc8, 0xeb, 0xbb, 0x3c, 0x83, 0x53, 0x99, 0x61],
  [0x17, 0x2b, 0x04, 0x7e, 0xba, 0x77, 0xd6, 0x26, 0xe1, 0x69, 0x14, 0x63, 0x55, 0x21, 0x0c, 0x7d]]

/-- The entry of a table at the row and column that a byte names. -/
def lookup (table : List (List UInt8)) (b : UInt8) : UInt8 :=
  (table.getD (b.toNat / 16) []).getD (b.toNat % 16) 0

def substitute (b : UInt8) : UInt8 := lookup substitutionTable b

def unsubstitute (b : UInt8) : UInt8 := lookup inverseTable b

/-- Multiplication by the field's generator of degree one: a left shift,
reduced by the field polynomial when a bit falls out. -/
def double (b : UInt8) : UInt8 := (b <<< 1) ^^^ ((b >>> 7) * 0x1b)

/-- The column mix: each byte becomes twice itself, three times its successor
and the other two. -/
def mix (w : Word) : Word :=
  ⟨double (w.b0 ^^^ w.b1) ^^^ w.b1 ^^^ w.b2 ^^^ w.b3,
   double (w.b1 ^^^ w.b2) ^^^ w.b2 ^^^ w.b3 ^^^ w.b0,
   double (w.b2 ^^^ w.b3) ^^^ w.b3 ^^^ w.b0 ^^^ w.b1,
   double (w.b3 ^^^ w.b0) ^^^ w.b0 ^^^ w.b1 ^^^ w.b2⟩

/-- The square of the column mix: each byte becomes five times itself and four
times the one opposite. -/
def mixTwice (w : Word) : Word :=
  let even := double (double (w.b0 ^^^ w.b2))
  let odd := double (double (w.b1 ^^^ w.b3))
  ⟨w.b0 ^^^ even, w.b1 ^^^ odd, w.b2 ^^^ even, w.b3 ^^^ odd⟩

/-- The inverse column mix. The mix has order four, so its cube undoes it. -/
def unmix (w : Word) : Word := mix (mixTwice w)

/-- Row `r` is rotated left by `r` columns. -/
def shiftRows (b : Block) : Block :=
  ⟨⟨b.w0.b0, b.w1.b1, b.w2.b2, b.w3.b3⟩, ⟨b.w1.b0, b.w2.b1, b.w3.b2, b.w0.b3⟩,
   ⟨b.w2.b0, b.w3.b1, b.w0.b2, b.w1.b3⟩, ⟨b.w3.b0, b.w0.b1, b.w1.b2, b.w2.b3⟩⟩

def unshiftRows (b : Block) : Block :=
  ⟨⟨b.w0.b0, b.w3.b1, b.w2.b2, b.w1.b3⟩, ⟨b.w1.b0, b.w0.b1, b.w3.b2, b.w2.b3⟩,
   ⟨b.w2.b0, b.w1.b1, b.w0.b2, b.w3.b3⟩, ⟨b.w3.b0, b.w2.b1, b.w1.b2, b.w0.b3⟩⟩

/-- The round keys: one before the first round, one for each middle round and
one for the last round, which mixes no columns. -/
structure Schedule where
  first : Block
  middle : List Block
  last : Block

/-- The round key after `k`, for the round constant `c`. -/
def nextRoundKey (k : Block) (c : UInt8) : Block :=
  let g : Word := ⟨substitute k.w3.b1 ^^^ c, substitute k.w3.b2, substitute k.w3.b3, substitute k.w3.b0⟩
  let w0 := k.w0.xor g
  let w1 := k.w1.xor w0
  let w2 := k.w2.xor w1
  let w3 := k.w3.xor w2
  ⟨w0, w1, w2, w3⟩

/-- The round keys after `k`, for these round constants: all but the last, and
the last. -/
def roundKeys (k : Block) : List UInt8 → List Block × Block
  | [] => ([], k)
  | c :: cs =>
    let (middle, last) := roundKeys (nextRoundKey k c) cs
    (k :: middle, last)

/-- The round constants, successive doublings of one. -/
def roundConstants : List UInt8 := [0x02, 0x04, 0x08, 0x10, 0x20, 0x40, 0x80, 0x1b, 0x36]

def schedule (key : Key) : Schedule :=
  let (middle, last) := roundKeys (nextRoundKey key 0x01) roundConstants
  ⟨key, middle, last⟩

def round (b k : Block) : Block := ((shiftRows (b.map substitute)).mapWords mix).xor k

def unround (k b : Block) : Block := (unshiftRows ((b.xor k).mapWords unmix)).map unsubstitute

def lastRound (b k : Block) : Block := (shiftRows (b.map substitute)).xor k

def unlastRound (k b : Block) : Block := (unshiftRows (b.xor k)).map unsubstitute

/-- Encryption under given round keys. -/
def Schedule.encrypt (s : Schedule) (b : Block) : Block :=
  lastRound (s.middle.foldl round (b.xor s.first)) s.last

/-- Decryption under given round keys. -/
def Schedule.decrypt (s : Schedule) (b : Block) : Block :=
  (s.middle.foldr unround (unlastRound s.last b)).xor s.first

/-- Encryption of one block. -/
def encrypt (key : Key) (b : Block) : Block := (schedule key).encrypt b

/-- Decryption of one block. -/
def decrypt (key : Key) (b : Block) : Block := (schedule key).decrypt b

end Aes
end Nearfield
