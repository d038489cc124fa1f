/-
# Scans: modes, requests and results

A scan is one transaction with the next tag: a read in some mode, a write of a
payload, or a test of the keys. The request that reaches the transport carries
the keys it needs; the result is the tag that was scanned, or a failure.

Key definitions: `ReadMode`, `Request`, `Finding`, `ScanResult`.
-/
import Nearfield.Failure
import Nearfield.Key

namespace Nearfield

/-- How much a read checks. -/
inductive ReadMode where
  /-- Only the identifier from anticollision. -/
  | fast
  /-- Identifier and payload: `auth` reads the real identifier in a session,
  `cmac` verifies the MAC of every answer. -/
  | full (auth cmac : Bool)
  deriving DecidableEq, Repr

namespace ReadMode

def secure : ReadMode := .full true true

/-- Answer MACs use the keys of a session, so verifying them needs one too. -/
def needsSession : ReadMode → Bool
  | .fast => false
  | .full auth cmac => auth || cmac

def verifiesCmac : ReadMode → Bool
  | .fast => false
  | .full _ cmac => cmac

def describe : ReadMode → String
  | .fast => "Fast"
  | .full auth cmac => "Full \x7b auth: " ++ toString auth ++ ", cmac: " ++ toString cmac ++ " \x7d"

end ReadMode

/-- A transaction with the keys it needs. Every request carries the key that
retrieves the identifier; a data key protects the payload. -/
inductive Request where
  | read (mode : ReadMode) (uidKey : Key) (dataKey : Option Key)
  | write (payload : Bytes) (uidKey : Key) (dataKey : Option Key)
  | test (uidKey dataKey : Key)
  deriving DecidableEq, Repr

namespace Request

/-- The name of the operation. -/
def kind : Request → String
  | .read .. => "read"
  | .write .. => "write"
  | .test .. => "test"

def uidKey : Request → Key
  | .read _ k _ | .write _ k _ | .test k _ => k

def dataKey? : Request → Option Key
  | .read _ _ k | .write _ _ k => k
  | .test _ k => some k

/-- Both keys as a pair. -/
def keys (r : Request) : KeyPair := ⟨some r.uidKey, r.dataKey?⟩

def mode? : Request → Option ReadMode
  | .read mode _ _ => some mode
  | _ => none

def payload? : Request → Option Bytes
  | .write payload _ _ => some payload
  | _ => none

/-- The request with its keys redacted. -/
def describe : Request → String
  | .read mode uidKey dataKey =>
    "Read \x7b mode: " ++ mode.describe ++ ", uid_retrieval_key: " ++ Key.redacted uidKey
      ++ ", data_protection_key: " ++ Key.redacted? dataKey ++ " \x7d"
  | .write payload uidKey dataKey =>
    "Write \x7b payload: " ++ Text.quotedBytes payload ++ ", uid_retrieval_key: "
      ++ Key.redacted uidKey ++ ", data_protection_key: " ++ Key.redacted? dataKey ++ " \x7d"
  | .test uidKey dataKey =>
    "Test \x7b uid_retrieval_key: " ++ Key.redacted uidKey ++ ", data_protection_key: "
      ++ Key.redacted dataKey ++ " \x7d"

end Request

/-- Whether the integrity of a payload was established. -/
inductive Protection where
  | verified
  | unprotected
  deriving DecidableEq, Repr

structure Payload where
  data : Bytes
  protection : Protection
  deriving DecidableEq, Repr

def Payload.isVerified (p : Payload) : Bool := p.protection = .verified

/-- What a successful scan found. -/
structure Finding where
  uid : Bytes
  payload : Option Payload
  deriving DecidableEq, Repr

/-- An identifier as a number, most significant byte first, if it fits 64
bits. -/
def uidNumber? (uid : Bytes) : Option Nat :=
  if uid.length > 8 then none else some (uid.foldl (fun n b => n * 256 + b.toNat) 0)

abbrev ScanResult := Except ScanError Finding

end Nearfield
