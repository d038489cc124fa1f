/-
# Sessions

After a handshake both sides hold the same MAC key, key slot and counter. A
command carries a MAC over its frame and the counter, which then advances; the
answer carries one over its data and the advanced counter. The counter never
wraps: a session whose counter is used up cannot advance.

Key definitions: `Session`, `Session.establish`, `Session.protect`,
`Session.check?`, `Session.advance?`, `Session.openAnswer`, `commandInput`,
`answerInput`.
-/
import Nearfield.Derivation
import Nearfield.Failure

namespace Nearfield

/-- The text of a command's MAC: the counter stands after the first byte. -/
def commandInput (counter : UInt16) : Bytes → Bytes
  | [] => Bytes.littleEndian counter
  | instruction :: rest => instruction :: (Bytes.littleEndian counter ++ rest)

/-- The text of an answer's MAC: the counter stands in front. -/
def answerInput (counter : UInt16) (data : Bytes) : Bytes := Bytes.littleEndian counter ++ data

structure Session where
  macKey : Key
  /-- The key slot of the handshake. -/
  slot : UInt8
  counter : UInt16
  deriving DecidableEq, Repr

namespace Session

/-- The session of a handshake. Frames are MACed and not encrypted, so only
the MAC key is kept. -/
def establish (key : Key) (slot : UInt8) (rndA rndB : Block) : Session :=
  ⟨(sessionKeys key rndA rndB).2, slot, 0⟩

def commandMac (s : Session) (frame : Bytes) : Bytes :=
  Cmac.truncated s.macKey (commandInput s.counter frame)

def answerMac (s : Session) (data : Bytes) : Bytes :=
  Cmac.truncated s.macKey (answerInput s.counter data)

/-- The frame with its MAC. -/
def protect (s : Session) (frame : Bytes) : Bytes := frame ++ s.commandMac frame

/-- The frame in front of a valid MAC. -/
def check? (s : Session) (received : Bytes) : Option Bytes :=
  if received.length < Cmac.truncatedSize then none
  else
    let frame := received.take (received.length - Cmac.truncatedSize)
    let mac := received.drop (received.length - Cmac.truncatedSize)
    if s.commandMac frame = mac then some frame else none

/-- The session with the next counter, if there is one. -/
def advance? (s : Session) : Option Session :=
  if s.counter = 0xFFFF then none else some { s with counter := s.counter + 1 }

/-- The data in front of an answer's MAC, which is checked when `verify` is
set. -/
def openAnswer (s : Session) (verify : Bool) (answer : Bytes) : Except TagError Bytes :=
  if answer.length < Cmac.truncatedSize then .error .answerTooShort
  else
    let data := answer.take (answer.length - Cmac.truncatedSize)
    let mac := answer.drop (answer.length - Cmac.truncatedSize)
    if verify = true ∧ s.answerMac data ≠ mac then .error .wrongAnswerMac else .ok data

end Session
end Nearfield
