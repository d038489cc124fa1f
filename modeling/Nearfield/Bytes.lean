/-
# Byte strings

Frames, memory contents, keys and payloads are all lists of bytes. This module
names that type and the few operations on it that have no name in core.

Key definitions: `Bytes`, `Bytes.xor`, `Bytes.zeroFilled`, `Bytes.littleEndian`.
-/

namespace Nearfield

/-- A byte string. -/
abbrev Bytes := List UInt8

namespace Bytes

/-- Bytewise exclusive or, as long as the shorter of the two. -/
def xor (a b : Bytes) : Bytes := List.zipWith (· ^^^ ·) a b

/-- The first `n` bytes, with zeros where there are none. -/
def zeroFilled (n : Nat) (data : Bytes) : Bytes :=
  data.take n ++ List.replicate (n - data.length) 0

/-- A 16 bit number as two bytes, low byte first. -/
def littleEndian (n : UInt16) : Bytes := [n.toUInt8, (n >>> 8).toUInt8]

@[simp] theorem length_xor (a b : Bytes) : (xor a b).length = min a.length b.length := by
  simp [xor]

@[simp] theorem length_zeroFilled (n : Nat) (data : Bytes) : (zeroFilled n data).length = n := by
  simp only [zeroFilled, List.length_append, List.length_take, List.length_replicate]; omega

@[simp] theorem length_littleEndian (n : UInt16) : (littleEndian n).length = 2 := rfl

end Bytes
end Nearfield
