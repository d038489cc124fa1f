/-
# The memory of a tag

Forty pages of four bytes. Pages 0 to 3 hold the identifier with its two check
bytes and locked data, pages `0x04` to `0x23` the payload area, pages `0x24` to
`0x27` a scratch area for tests of the keys.

Key definitions: `Page`, `Uid`, `Memory`, `Memory.factory`, `Memory.pages`,
`splitPages`.
-/
import Nearfield.Cipher.Block

namespace Nearfield

/-- Four bytes of memory. -/
abbrev Page := Word

namespace Page

/-- Bytes in a page. -/
def size : Nat := 4

def zero : Page := ⟨0, 0, 0, 0⟩

/-- Reads exactly four bytes. -/
def ofBytes? : Bytes → Option Page
  | [b0, b1, b2, b3] => some ⟨b0, b1, b2, b3⟩
  | _ => none

end Page

/-- A byte string in pages, with zeros up to the end of the last one. -/
def splitPages : Bytes → List Page
  | [] => []
  | [b0] => [⟨b0, 0, 0, 0⟩]
  | [b0, b1] => [⟨b0, b1, 0, 0⟩]
  | [b0, b1, b2] => [⟨b0, b1, b2, 0⟩]
  | b0 :: b1 :: b2 :: b3 :: rest => ⟨b0, b1, b2, b3⟩ :: splitPages rest

/-- The seven byte identifier of a tag. -/
structure Uid where
  u0 : UInt8
  u1 : UInt8
  u2 : UInt8
  u3 : UInt8
  u4 : UInt8
  u5 : UInt8
  u6 : UInt8
  deriving DecidableEq, Repr

namespace Uid

/-- Bytes in an identifier. -/
def size : Nat := 7

def toBytes (u : Uid) : Bytes := [u.u0, u.u1, u.u2, u.u3, u.u4, u.u5, u.u6]

/-- Reads exactly seven bytes. -/
def ofBytes? : Bytes → Option Uid
  | [u0, u1, u2, u3, u4, u5, u6] => some ⟨u0, u1, u2, u3, u4, u5, u6⟩
  | _ => none

/-- The identifier of a tag that was given none. -/
def default : Uid := ⟨0x04, 0xA2, 0x3B, 0x1C, 0x5D, 0x6E, 0x80⟩

/-- Stands in front of the identifier when the first check byte is formed. -/
def cascadeTag : UInt8 := 0x88

/-- The check byte of the first three bytes. -/
def check0 (u : Uid) : UInt8 := cascadeTag ^^^ u.u0 ^^^ u.u1 ^^^ u.u2

/-- The check byte of the last four bytes. -/
def check1 (u : Uid) : UInt8 := u.u3 ^^^ u.u4 ^^^ u.u5 ^^^ u.u6

end Uid

/-- Pages on a tag. -/
def pageCount : Nat := 40

def lastPage : UInt8 := 0x27

/-- The first page that can be written. -/
def firstUserPage : UInt8 := 0x04

/-- The first page of the payload area. -/
def payloadStart : UInt8 := 0x04

/-- Pages in the payload area. -/
def payloadPages : UInt8 := 32

/-- The first page of the scratch area. -/
def scratchStart : UInt8 := 0x24

/-- Pages in the scratch area. -/
def scratchPages : Nat := 4

/-- Pages in the answer to one READ. -/
def pagesPerRead : Nat := 4

abbrev Memory := Vector Page pageCount

namespace Memory

/-- The contents of a page, `none` past the last one. -/
def page? (m : Memory) (page : UInt8) : Option Page := m[page.toNat]?

/-- Overwrites a page; nothing happens past the last one. -/
def setPage (m : Memory) (page : UInt8) (data : Page) : Memory := m.setIfInBounds page.toNat data

/-- Overwrites consecutive pages, counting on from page 255 to page 0. -/
def setPages (m : Memory) (start : UInt8) : List Page → Memory
  | [] => m
  | p :: ps => setPages (m.setPage start p) (start + 1) ps

/-- The contents of `count` pages from `start`, as far as they exist. -/
def pages (m : Memory) (start count : UInt8) : List Page :=
  (List.range' start.toNat count.toNat).filterMap fun n => m[n]?

/-- The page at a number counted modulo the number of pages. -/
def wrapped (m : Memory) (n : Nat) : Page := m.get ⟨n % pageCount, Nat.mod_lt n (by decide)⟩

/-- A new tag: the identifier with its check bytes, then zeros. -/
def factory (u : Uid) : Memory :=
  let blank : Memory := Vector.replicate pageCount Page.zero
  setPages blank 0 [⟨u.u0, u.u1, u.u2, u.check0⟩, ⟨u.u3, u.u4, u.u5, u.u6⟩, ⟨u.check1, 0x48, 0, 0⟩]

end Memory
end Nearfield
