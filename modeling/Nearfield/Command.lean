/-
# Native commands

The frames a host sends and how it reads the answers. A single byte is an
acknowledge or a negative acknowledge; every other answer has a fixed length.
The handshake has two frames, and each answer opens with a mark of its own.

Key definitions: `Command.read`, `Command.write`, `Command.authenticate`,
`Command.continuation`, `Answer.nak?`, `Answer.acknowledge`, `Answer.pages`,
`Answer.version`, `Answer.challenge`, `Answer.final`.
-/
import Nearfield.Memory
import Nearfield.Product

namespace Nearfield

/-! ### Codes -/

namespace Code

def getVersion : UInt8 := 0x60
def read : UInt8 := 0x30
def write : UInt8 := 0xA2
def authenticate : UInt8 := 0x1A
/-- Opens the continuation of a handshake, and the challenge. -/
def authenticateMore : UInt8 := 0xAF
/-- Opens the last answer of a handshake. -/
def authenticateDone : UInt8 := 0x00
def ack : UInt8 := 0x0A
/-- The negative acknowledge of a malformed command or a bad address. -/
def nakArgument : UInt8 := 0x00
/-- The negative acknowledge of a failed handshake or a denied access. -/
def nakAuth : UInt8 := 0x04

end Code

/-! ### Key slots -/

def dataSlot : UInt8 := 0

def uidSlot : UInt8 := 1

namespace Command

def getVersion : Bytes := [Code.getVersion]

/-- Asks for four pages from `page`. -/
def read (page : UInt8) : Bytes := [Code.read, page]

def write (page : UInt8) (data : Page) : Bytes := Code.write :: page :: data.toBytes

/-- Asks for the challenge of a key slot. -/
def authenticate (slot : UInt8) : Bytes := [Code.authenticate, slot]

/-- Answers the challenge. -/
def continuation (token : Bytes) : Bytes := Code.authenticateMore :: token

end Command

namespace Answer

/-- The code of a negative acknowledge. -/
def nak? : Bytes → Option UInt8
  | [code] => if code = Code.ack then none else some code
  | _ => none

/-- What a negative acknowledge means. -/
def nakError (code : UInt8) : TagError :=
  if code = Code.nakAuth then .accessDenied else .nak code

def acknowledge : Bytes → Except TagError Unit
  | [code] => if code = Code.ack then .ok () else .error (nakError code)
  | _ => .error .noAcknowledge

def version (answer : Bytes) : Except TagError Version :=
  match Version.ofBytes? answer with
  | some v => .ok v
  | none => .error .wrongVersionLength

/-- Four pages. -/
def pages (answer : Bytes) : Except TagError Block :=
  match Block.ofBytes? answer with
  | some b => .ok b
  | none => .error .wrongReadLength

/-- The block of a handshake answer behind its mark; a denied access is
reported as `rejected`. -/
def handshakeBlock (mark : UInt8) (rejected : TagError) (answer : Bytes) : Except TagError Block :=
  match nak? answer with
  | some code => .error (if code = Code.nakAuth then rejected else .nak code)
  | none =>
    match answer with
    | m :: block =>
      if m = mark then
        match Block.ofBytes? block with
        | some b => .ok b
        | none => .error .wrongHandshakeLength
      else .error .wrongHandshakeMark
    | [] => .error .wrongHandshakeMark

/-- The encrypted challenge. -/
def challenge : Bytes → Except TagError Block := handshakeBlock Code.authenticateMore .slotRejected

/-- The tag's proof that it holds the key. -/
def final : Bytes → Except TagError Block := handshakeBlock Code.authenticateDone .hostRejected

end Answer
end Nearfield
