/-
# Tag keys

A tag holds two keys: slot 0 protects the payload, slot 1 unlocks the tag's
real identifier. They reach the program as hexadecimal text, which is decoded
as a whole: the blanks around it are dropped, 32 bytes must remain, and each
must be a digit. A pair is decoded key 0 first, and the first fault carries the
name of its half.

Key definitions: `Key.ofText`, `KeyError`, `IssuedKeys`, `KeyPair`,
`KeyPair.ofIssued`.
-/
import Nearfield.Cipher.Block
import Nearfield.Text.Blank
import Nearfield.Text.Hex

namespace Nearfield

/-- Why key text cannot be used. -/
inductive KeyError where
  | invalidHex (fault : Hex.Fault)
  /-- The trimmed text has this many bytes instead of 32. -/
  | invalidLength (actual : Nat)
  | context (label : String) (inner : KeyError)
  deriving DecidableEq, Repr

namespace KeyError

def message : KeyError → String
  | .invalidHex fault => "Invalid key encoding: " ++ fault.message
  | .invalidLength actual =>
    "Invalid key length: expected 32 hex digits, got " ++ toString actual
  | .context label inner => label ++ ": " ++ inner.message

/-- The error under any contexts. -/
def root : KeyError → KeyError
  | .context _ inner => inner.root
  | e => e

/-- The messages from the outermost error down to the last cause. -/
def causes : KeyError → List String
  | .invalidHex fault => [(KeyError.invalidHex fault).message, fault.message]
  | .invalidLength actual => [(KeyError.invalidLength actual).message]
  | .context label inner => (KeyError.context label inner).message :: inner.causes

end KeyError

/-- Digits in the text of a key. -/
def Key.textLength : Nat := 32

/-- Decodes the text of a key. -/
def Key.ofText (text : String) : Except KeyError Key :=
  let digits := Text.trim text
  if digits.utf8ByteSize ≠ Key.textLength then .error (.invalidLength digits.utf8ByteSize)
  else match Hex.decode digits with
    | .ok bytes => .ok (Block.zeroFilled bytes)
    | .error fault => .error (.invalidHex fault)

/-- A key is never shown. -/
def Key.redacted (_ : Key) : String := "TagKey(..)"

def Key.redacted? : Option Key → String
  | some key => "Some(" ++ Key.redacted key ++ ")"
  | none => "None"

/-- Both keys as text, as they are issued. -/
structure IssuedKeys where
  key0 : String
  key1 : String
  deriving DecidableEq, Repr

/-- Issued keys are never shown either. -/
def IssuedKeys.redacted (_ : IssuedKeys) : String :=
  "TagSecret \x7b key0: \"..\", key1: \"..\" \x7d"

/-- The keys of a host. Either may be absent; an operation that needs an absent
key is refused. -/
structure KeyPair where
  /-- Slot 1: authenticates and unlocks the identifier. -/
  uidKey : Option Key
  /-- Slot 0: protects the payload. -/
  dataKey : Option Key
  deriving DecidableEq, Repr

namespace KeyPair

def empty : KeyPair := ⟨none, none⟩

def isEmpty (keys : KeyPair) : Bool := keys.uidKey.isNone && keys.dataKey.isNone

/-- The fault of one half, under the name of that half. -/
def decodeHalf (label text : String) : Except KeyError Key :=
  (Key.ofText text).mapError (.context label)

/-- Decodes both halves of an issued pair, or neither. -/
def ofIssued (issued : IssuedKeys) : Except KeyError KeyPair := do
  let dataKey ← decodeHalf "key0" issued.key0
  let uidKey ← decodeHalf "key1" issued.key1
  return ⟨some uidKey, some dataKey⟩

def redacted (keys : KeyPair) : String :=
  "TagKeys \x7b uid_retrieval: " ++ Key.redacted? keys.uidKey ++ ", data_protection: "
    ++ Key.redacted? keys.dataKey ++ " \x7d"

end KeyPair
end Nearfield
