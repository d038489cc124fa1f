/-
# Derived keys

Two kinds of keys are derived by MACing a short text. Session keys come from a
vector that mixes both random numbers of a handshake under a label for their
use. Keys for one tag come from the data key, a purpose and the tag's
identifier, so that what is protected for one tag does not verify on another.

Key definitions: `sessionVector`, `sessionKeys`, `diversifyInput`, `diversify`.
-/
import Nearfield.Cipher.Cmac

namespace Nearfield

/-- The text of a session key: the label, the first two bytes of A, the next
six of A combined with the first six of B, the rest of B and the second half
of A. -/
def sessionVector (label : Bytes) (rndA rndB : Block) : Bytes :=
  let a := rndA.toBytes
  let b := rndB.toBytes
  label ++ a.take 2 ++ Bytes.xor ((a.drop 2).take 6) (b.take 6) ++ b.drop 6 ++ a.drop 8

def encryptionLabel : Bytes := [0xA5, 0x5A, 0x00, 0x01, 0x00, 0x80]

def macLabel : Bytes := [0x5A, 0xA5, 0x00, 0x01, 0x00, 0x80]

/-- The encryption key and the MAC key of a session. -/
def sessionKeys (key : Key) (rndA rndB : Block) : Key × Key :=
  (Cmac.full key (sessionVector encryptionLabel rndA rndB),
   Cmac.full key (sessionVector macLabel rndA rndB))

/-- What a key for one tag is used for. -/
inductive Purpose where
  | payloadEncryption
  | payloadMac
  | probeMac
  deriving DecidableEq, Repr

def Purpose.code : Purpose → UInt8
  | .payloadEncryption => 1
  | .payloadMac => 2
  | .probeMac => 3

/-- The text of a key for one tag. -/
def diversifyInput (purpose : Purpose) (uid : Bytes) : Bytes := purpose.code :: uid

/-- The key for one tag and one purpose. -/
def diversify (key : Key) (purpose : Purpose) (uid : Bytes) : Key :=
  Cmac.full key (diversifyInput purpose uid)

end Nearfield
