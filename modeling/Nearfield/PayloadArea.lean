/-
# The payload area

The area opens with two bytes, a format and the length of the body that
follows; the rest is fill. A plain body is the payload itself. A sealed body is
a start value, the encrypted payload and a MAC, under two keys derived from the
data key and the tag's identifier: copied to another tag it no longer verifies.

Key definitions: `PayloadArea.Stored`, `PayloadArea.decode`,
`PayloadArea.encodePlain`, `PayloadArea.encodeSealed`, `PayloadArea.decodeSealed`.
-/
import Nearfield.Cipher.Cbc
import Nearfield.Derivation
import Nearfield.Failure
import Nearfield.Memory
import Nearfield.Random

namespace Nearfield
namespace PayloadArea

/-- Bytes in the area. -/
def size : Nat := payloadPages.toNat * Page.size

/-- Bytes in front of the body. -/
def headerSize : Nat := 2

/-- The largest payload that can be stored in the clear: one that fills the
area. -/
def plainCapacity : Nat := size - headerSize

/-- The largest payload that can be sealed. Its padding fills whole blocks and
takes at least one byte. -/
def sealedCapacity : Nat :=
  (plainCapacity - Block.size - Cmac.truncatedSize) / Block.size * Block.size - 1

/-- The smallest sealed body: a start value, one block and a MAC. -/
def smallestSealed : Nat := Block.size + Block.size + Cmac.truncatedSize

def emptyFormat : UInt8 := 0x00

def plainFormat : UInt8 := 0x01

def sealedFormat : UInt8 := 0x02

/-- The first page of an area that holds nothing. -/
def emptyHeader : Page := ⟨emptyFormat, 0, 0, 0⟩

/-- What an area holds. -/
inductive Stored where
  | empty
  | plain (body : Bytes)
  | sealed (body : Bytes)
  deriving DecidableEq, Repr

/-- Reads an area. The empty format has no body, whatever its length byte. -/
def decode : Bytes → Except TagError Stored
  | format :: length :: rest =>
    if format = emptyFormat then .ok .empty
    else if length.toNat > rest.length then .error .wrongPayloadLength
    else
      let body := rest.take length.toNat
      if format = plainFormat then .ok (.plain body)
      else if format = sealedFormat then .ok (.sealed body)
      else .error .unknownFormat
  | _ => .error .areaTooShort

/-- The header and the body behind it. -/
def withHeader (format : UInt8) (body : Bytes) : Bytes :=
  format :: UInt8.ofNat body.length :: body

/-- The area of a payload in the clear. -/
def encodePlain (data : Bytes) : Except TagError Bytes :=
  if data.length > plainCapacity then .error (.payloadTooLarge data.length plainCapacity)
  else .ok (withHeader plainFormat data)

/-- The MAC of a sealed body's start value and ciphertext. -/
def bodyMac (key : Key) (uid body : Bytes) : Bytes :=
  Cmac.truncated (diversify key .payloadMac uid) (uid ++ body)

/-- The sealed body of a payload, with this start value. -/
def sealedBody (key : Key) (uid : Bytes) (iv : Block) (data : Bytes) : Bytes :=
  let body := iv.toBytes ++ Cbc.encrypt (diversify key .payloadEncryption uid) iv data
  body ++ bodyMac key uid body

/-- The area of a sealed payload. A start value is drawn only if the payload
fits. -/
def encodeSealed {ρ : Type} [RandomSource ρ] (key : Key) (uid data : Bytes) (rng : ρ) :
    Except TagError Bytes × ρ :=
  if data.length > sealedCapacity then (.error (.payloadTooLarge data.length sealedCapacity), rng)
  else
    let (iv, rng) := drawBlock rng
    (.ok (withHeader sealedFormat (sealedBody key uid iv data)), rng)

/-- Verifies a sealed body and recovers the payload. -/
def decodeSealed (key : Key) (uid body : Bytes) : Except TagError Bytes :=
  if body.length < smallestSealed ∨ (body.length - Cmac.truncatedSize) % Block.size ≠ 0 then
    .error .wrongSealedLength
  else
    let authenticated := body.take (body.length - Cmac.truncatedSize)
    let mac := body.drop (body.length - Cmac.truncatedSize)
    if bodyMac key uid authenticated ≠ mac then .error .wrongPayloadMac
    else
      let iv := Block.zeroFilled (authenticated.take Block.size)
      match Cbc.decrypt? (diversify key .payloadEncryption uid) iv (authenticated.drop Block.size) with
      | some data => .ok data
      | none => .error .wrongPadding

end PayloadArea
end Nearfield
