/-
# The tag's side

A simulated tag answers native frames. Outside a session it reads; a handshake
opens a session for one key slot, and inside it every frame must carry a MAC
for the current counter. Whatever it refuses it answers with a negative
acknowledge, and is idle afterwards.

A tag may show a random identifier until a session on slot 1 is open, may
append wrong MACs, and may leave after a number of frames.

Key definitions: `Tag`, `TagState`, `Tag.activate`, `Tag.process`.
-/
import Nearfield.Cipher.Cbc
import Nearfield.Command
import Nearfield.Random
import Nearfield.Session

namespace Nearfield

/-- How far a tag is with authentication. -/
inductive TagState where
  | idle
  /-- The challenge `rndB` was sent for a key slot. -/
  | challenged (slot : UInt8) (rndB : Block)
  | authenticated (session : Session)
  deriving DecidableEq, Repr

structure Tag where
  model : Product
  uid : Uid
  /-- Shows a random identifier and hides the identifier pages. -/
  randomId : Bool
  /-- The data key. -/
  key0 : Key
  /-- The identifier's key. -/
  key1 : Key
  memory : Memory
  state : TagState
  /-- Spoils the MACs of its answers. -/
  forges : Bool
  /-- Frames that the tag still answers, if it is to leave. -/
  allowance : Option Nat
  deriving DecidableEq

namespace Tag

/-- A new Ultralight AES: zero keys and empty memory. -/
def new (uid : Uid) : Tag :=
  { model := .ultralightAes, uid, randomId := false, key0 := Block.zero, key1 := Block.zero,
    memory := Memory.factory uid, state := .idle, forges := false, allowance := none }

/-- The key of a slot. -/
def key (t : Tag) (slot : UInt8) : Key := if slot = dataSlot then t.key0 else t.key1

/-- Whether the tag has used up its allowance and left. -/
def hasDeparted (t : Tag) : Bool := t.allowance = some 0

/-- The first byte of a random identifier. -/
def randomIdMark : UInt8 := 0x08

/-- Ends whatever session there was and reports an identifier: the real one, or
a new random one. -/
def activate {ρ : Type} [RandomSource ρ] (t : Tag) (rng : ρ) : Bytes × Tag × ρ :=
  let idle := { t with state := .idle }
  if t.randomId then
    let (id, rng) := drawBytes 3 rng
    (randomIdMark :: id, idle, rng)
  else (t.uid.toBytes, idle, rng)

/-- One frame less to answer. -/
def spend (t : Tag) : Tag := { t with allowance := t.allowance.map (· - 1) }

/-- Four pages from `start`, counting on from the last page to the first. The
identifier pages read as zeros while they are hidden. -/
def readPages (t : Tag) (slot : Option UInt8) (start : UInt8) : Bytes :=
  let hidden := t.randomId ∧ slot ≠ some uidSlot
  (List.range' start.toNat pagesPerRead).flatMap fun n =>
    if hidden ∧ n % pageCount < 3 then Page.zero.toBytes else (t.memory.wrapped n).toBytes

/-- Runs a command, in the session of a slot or outside. Only the user pages
can be written, and only in a session. -/
def runCommand (t : Tag) (slot : Option UInt8) : Bytes → Bytes × Tag
  | [c] => if c = Code.getVersion then (t.model.version.toBytes, t) else ([Code.nakArgument], t)
  | [c, page] =>
    if c = Code.read ∧ page ≤ lastPage then (t.readPages slot page, t) else ([Code.nakArgument], t)
  | [c, page, b0, b1, b2, b3] =>
    if c ≠ Code.write ∨ page < firstUserPage ∨ page > lastPage then ([Code.nakArgument], t)
    else if slot = none then ([Code.nakAuth], t)
    else ([Code.ack], { t with memory := t.memory.setPage page ⟨b0, b1, b2, b3⟩ })
  | _ => ([Code.nakArgument], t)

/-- Sends the challenge of a key slot. -/
def challenge {ρ : Type} [RandomSource ρ] (t : Tag) (frame : Bytes) (rng : ρ) : Bytes × Tag × ρ :=
  match frame with
  | [_, slot] =>
    if t.model ≠ .ultralightAes ∨ slot > uidSlot then ([Code.nakArgument], t, rng)
    else
      let (rndB, rng) := drawBlock rng
      (Code.authenticateMore :: (Aes.encrypt (t.key slot) rndB).toBytes,
       { t with state := .challenged slot rndB }, rng)
  | _ => ([Code.nakArgument], t, rng)

/-- The two blocks that answer a challenge, decrypted. -/
def openToken? (key : Key) : Bytes → Option (Block × Block)
  | mark :: token =>
    match Block.split token with
    | ([c0, c1], []) =>
      if mark = Code.authenticateMore then
        let s := Aes.schedule key
        some (s.decrypt c0, (s.decrypt c1).xor c0)
      else none
    | _ => none
  | [] => none

/-- Checks the answer to a challenge and opens a session. -/
def prove (t : Tag) (slot : UInt8) (rndB : Block) (frame : Bytes) : Bytes × Tag :=
  match openToken? (t.key slot) frame with
  | some (rndA, rotated) =>
    if rotated = rndB.rotateLeft then
      (Code.authenticateDone :: (Aes.encrypt (t.key slot) rndA.rotateLeft).toBytes,
       { t with state := .authenticated (Session.establish (t.key slot) slot rndA rndB) })
    else ([Code.nakAuth], t)
  | none => ([Code.nakAuth], t)

/-- The MAC of an answer, with its first byte inverted by a tag that forges. -/
def answerMac (t : Tag) (s : Session) (data : Bytes) : Bytes :=
  let mac := s.answerMac data
  if t.forges then mac.modifyHead (· ^^^ 0xFF) else mac

/-- Runs a frame that must carry a MAC for the session's counter. -/
def runSecure (t : Tag) (s : Session) (frame : Bytes) : Bytes × Tag :=
  match s.check? frame with
  | none => ([Code.nakAuth], t)
  | some command =>
    let (data, t) := t.runCommand (some s.slot) command
    if (Answer.nak? data).isSome then (data, t)
    else
      match s.advance? with
      | none => ([Code.nakAuth], t)
      | some next => (data ++ t.answerMac next data, { t with state := .authenticated next })

/-- Answers one frame. The frame after a challenge must answer it, whatever it
looks like; otherwise a handshake may start at any time. -/
def process {ρ : Type} [RandomSource ρ] (t : Tag) (frame : Bytes) (rng : ρ) : Bytes × Tag × ρ :=
  let idle := { t.spend with state := .idle }
  match t.state with
  | .challenged slot rndB =>
    let (answer, t) := idle.prove slot rndB frame
    (answer, t, rng)
  | .authenticated s =>
    if frame.head? = some Code.authenticate then idle.challenge frame rng
    else
      let (answer, t) := idle.runSecure s frame
      (answer, t, rng)
  | .idle =>
    if frame.head? = some Code.authenticate then idle.challenge frame rng
    else
      let (answer, t) := idle.runCommand none frame
      (answer, t, rng)

/-- The state, for inspection. Keys are not shown. -/
def describeState : TagState → String
  | .idle => "Idle"
  | .challenged slot rndB =>
    "Challenged \x7b key_no: " ++ toString slot.toNat ++ ", rnd_b: ["
      ++ ", ".intercalate (rndB.toBytes.map fun b => toString b.toNat) ++ "] \x7d"
  | .authenticated s =>
    "Authenticated(Session \x7b key_no: " ++ toString s.slot.toNat ++ ", counter: "
      ++ toString s.counter.toNat ++ ", .. \x7d)"

/-- The tag, for inspection. -/
def describe (t : Tag) : String :=
  "SimulatedTag \x7b model: " ++ t.model.identifier ++ ", uid: \"" ++ Hex.encodeUpper t.uid.toBytes
    ++ "\", random_id: " ++ toString t.randomId ++ ", state: " ++ describeState t.state ++ ", .. \x7d"

end Tag
end Nearfield
