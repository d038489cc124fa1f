/-
# What can go wrong

Three layers of failure. A `LinkError` is a failure of the link or of the
wait for a tag. A `TagError` is how one exchange with a tag fails. A
`ScanError` is what the caller of a scan sees: every tag error falls into one
of its classes, and only a missing key has no tag error behind it.

Key definitions: `LinkError`, `TagError`, `ScanError`,
`TagError.classify`, and the `message` of each.
Key theorem: `TagError.classify_ne_noKey`.
-/
import Nearfield.Text.Hex

namespace Nearfield

/-- The wording of a negative acknowledge. -/
def nakMessage (code : UInt8) : String := "Tag returned NAK " ++ Hex.numberUpper 1 code.toNat

/-- Failures below the commands. -/
inductive LinkError where
  | tagRemoved
  | nak (code : UInt8)
  | protocol (reason : String)
  | payloadTooLarge (size capacity : Nat)
  | cancelled
  deriving DecidableEq, Repr

def LinkError.message : LinkError → String
  | .tagRemoved => "Tag left the field"
  | .nak code => nakMessage code
  | .protocol reason => "Protocol error: " ++ reason
  | .payloadTooLarge size capacity =>
    "Payload of " ++ toString size ++ " bytes exceeds tag capacity of " ++ toString capacity ++ " bytes"
  | .cancelled => "Operation cancelled"

/-- Failures of an exchange with a tag. -/
inductive TagError where
  | link (error : LinkError)
  | nak (code : UInt8)
  | incompatible (reason : String)
  | authentication (reason : String)
  | integrity (reason : String)
  | invalidResponse (reason : String)
  | pageRange (start pages : UInt8)
  | payloadTooLarge (size capacity : Nat)
  deriving DecidableEq, Repr

namespace TagError

def message : TagError → String
  | .link error => error.message
  | .nak code => nakMessage code
  | .incompatible reason => "Unsupported tag: " ++ reason
  | .authentication reason => "Authentication failed: " ++ reason
  | .integrity reason => "Integrity check failed: " ++ reason
  | .invalidResponse reason => "Invalid response: " ++ reason
  | .pageRange start pages =>
    "Range of " ++ toString pages.toNat ++ " pages from page " ++ Hex.numberUpper 2 start.toNat
      ++ " exceeds the address space"
  | .payloadTooLarge size capacity =>
    "Payload of " ++ toString size ++ " bytes exceeds capacity of " ++ toString capacity ++ " bytes"

/-! ### The causes, by name -/

def accessDenied : TagError := .authentication "access denied by tag"
def slotRejected : TagError := .authentication "key slot rejected"
def hostRejected : TagError := .authentication "host cryptogram rejected"
def tagRejected : TagError := .authentication "tag cryptogram mismatch"
def counterExhausted : TagError := .authentication "session counter exhausted"

def wrongAnswerMac : TagError := .integrity "response MAC mismatch"
def wrongPadding : TagError := .integrity "invalid payload padding"
def wrongPayloadLength : TagError := .integrity "payload length exceeds area"
def unknownFormat : TagError := .integrity "unknown payload format"
def wrongSealedLength : TagError := .integrity "sealed payload has invalid length"
def wrongPayloadMac : TagError := .integrity "payload MAC mismatch"
def notSealed : TagError := .integrity "payload is not sealed"
def wrongReadBack : TagError := .integrity "diagnostic probe read back differs"

def answerTooShort : TagError := .invalidResponse "answer too short for MAC"
def areaTooShort : TagError := .invalidResponse "payload area too short"
def wrongVersionLength : TagError := .invalidResponse "GET_VERSION answer has wrong length"
def wrongReadLength : TagError := .invalidResponse "READ answer has wrong length"
def noAcknowledge : TagError := .invalidResponse "expected acknowledge"
def wrongHandshakeMark : TagError := .invalidResponse "unexpected authentication prefix"
def wrongHandshakeLength : TagError := .invalidResponse "authentication block has wrong length"
def wrongCheckBytes : TagError := .invalidResponse "UID check bytes mismatch"

def noVersion : TagError := .incompatible "GET_VERSION not supported"

end TagError

/-- Why a scan did not succeed. -/
inductive ScanError where
  /-- A key that the operation needs is not set; no tag was contacted. -/
  | noKey
  | incompatible (reason : String)
  | authFailed
  | integrityFailed
  | link (error : LinkError)
  deriving DecidableEq, Repr

def ScanError.message : ScanError → String
  | .noKey => "No key available for this operation"
  | .incompatible reason => "Incompatible tag: " ++ reason
  | .authFailed => "Tag authentication failed"
  | .integrityFailed => "Tag data integrity check failed"
  | .link error => "Communication error: " ++ error.message

def ScanError.isNoKey : ScanError → Bool
  | .noKey => true
  | _ => false

/-- The class of a tag error. -/
def TagError.classify : TagError → ScanError
  | .link error => .link error
  | .nak code => .link (.nak code)
  | .incompatible reason => .incompatible reason
  | .authentication _ => .authFailed
  | .integrity _ => .integrityFailed
  | .invalidResponse reason => .link (.protocol reason)
  | .pageRange _ _ => .link (.protocol "page range exceeds address space")
  | .payloadTooLarge size capacity => .link (.payloadTooLarge size capacity)

/-- A missing key is noticed before any tag is contacted. -/
theorem TagError.classify_ne_noKey : ∀ e : TagError, e.classify ≠ .noKey := by
  intro e; cases e <;> simp [classify]

end Nearfield
