/-
# Products and their versions

A tag names its product in eight bytes. Vendor, type and major version decide
whether it is the product that the transactions need.

Key definitions: `Product`, `Version`, `Version.isSupported`,
`Version.describe`.
-/
import Nearfield.Bytes
import Nearfield.Failure

namespace Nearfield

/-- The eight fields of a version answer. -/
structure Version where
  header : UInt8
  vendor : UInt8
  productType : UInt8
  subtype : UInt8
  major : UInt8
  minor : UInt8
  storageSize : UInt8
  protocolType : UInt8
  deriving DecidableEq, Repr

namespace Version

def toBytes (v : Version) : Bytes :=
  [v.header, v.vendor, v.productType, v.subtype, v.major, v.minor, v.storageSize, v.protocolType]

/-- Reads exactly eight bytes. -/
def ofBytes? : Bytes → Option Version
  | [header, vendor, productType, subtype, major, minor, storageSize, protocolType] =>
    some ⟨header, vendor, productType, subtype, major, minor, storageSize, protocolType⟩
  | _ => none

/-- Whether the tag is an Ultralight AES. -/
def isSupported (v : Version) : Bool := v.vendor = 0x04 ∧ v.productType = 0x03 ∧ v.major = 0x04

def productName (v : Version) : String :=
  if v.vendor = 0x04 ∧ v.productType = 0x03 ∧ v.major = 0x04 then "MIFARE Ultralight AES"
  else if v.vendor = 0x04 ∧ v.productType = 0x03 ∧ v.major = 0x01 then "MIFARE Ultralight EV1"
  else if v.vendor = 0x04 ∧ v.productType = 0x04 then "NTAG"
  else "unknown tag"

def describe (v : Version) : String :=
  v.productName ++ " (vendor " ++ Hex.number v.vendor.toNat ++ ", type "
    ++ Hex.number v.productType.toNat ++ ", version " ++ toString v.major.toNat ++ "."
    ++ toString v.minor.toNat ++ ")"

/-- Refuses every other product by its description. -/
def ensureSupported (v : Version) : Except TagError Unit :=
  if v.isSupported then .ok () else .error (.incompatible v.describe)

end Version

/-- The products that can be simulated. -/
inductive Product where
  | ultralightAes
  | ultralightEv1
  | ntag215
  deriving DecidableEq, Repr

namespace Product

/-- The version that a product answers with. -/
def version : Product → Version
  | .ultralightAes => ⟨0x00, 0x04, 0x03, 0x01, 0x04, 0x00, 0x0F, 0x03⟩
  | .ultralightEv1 => ⟨0x00, 0x04, 0x03, 0x01, 0x01, 0x00, 0x0B, 0x03⟩
  | .ntag215 => ⟨0x00, 0x04, 0x04, 0x02, 0x01, 0x00, 0x11, 0x03⟩

def describe : Product → String
  | .ultralightAes => "MIFARE Ultralight AES"
  | .ultralightEv1 => "MIFARE Ultralight EV1"
  | .ntag215 => "NTAG215"

/-- The identifier of a product in one word. -/
def identifier : Product → String
  | .ultralightAes => "UltralightAes"
  | .ultralightEv1 => "UltralightEv1"
  | .ntag215 => "Ntag215"

def all : List Product := [.ultralightAes, .ultralightEv1, .ntag215]

/-- The product that is spelled like this. -/
def ofName? (spelling : Product → String) (name : String) : Option Product :=
  all.find? fun p => spelling p = name

end Product
end Nearfield
