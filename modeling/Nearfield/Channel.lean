/-
# The channel to a tag

A channel is the host's side of a link: the identifier from anticollision, the
session if one is established, and whether answers are verified in it. Every
command goes through `transceive`, which adds and strips MACs inside a session;
a negative acknowledge ends the session.

Key definitions: `Channel`, `Channel.authenticate`, `Channel.transceive`,
`Channel.readUid`, `Channel.readRange`, `Channel.writeRange`,
`Channel.writeRangeCommitted`.
-/
import Nearfield.Cipher.Cbc
import Nearfield.Command
import Nearfield.FrameLink
import Nearfield.Session

namespace Nearfield

structure Channel (σ : Type) where
  link : σ
  /-- The identifier that the tag reported when it was activated. -/
  uid : Bytes
  session : Option Session
  /-- Whether the answers of the session must carry a valid MAC. -/
  verify : Bool

/-- An action on a channel. It changes the channel also when it fails. -/
abbrev ChannelM (σ : Type) := EStateM TagError (Channel σ)

namespace Channel

/-- A channel on a newly activated link. -/
def new {σ : Type} (uid : Bytes) (link : σ) : Channel σ := ⟨link, uid, none, false⟩

variable {σ : Type} [FrameLink σ]

/-- Turns a result into an action that changes nothing. -/
def lift {α : Type} : Except TagError α → ChannelM σ α
  | .ok a => pure a
  | .error e => throw e

/-- Sends a frame as it is. -/
def exchange (frame : Bytes) : ChannelM σ Bytes := fun c =>
  match FrameLink.exchange frame c.link with
  | (.ok answer, link) => .ok answer { c with link }
  | (.error e, link) => .error (.link e) { c with link }

/-- Draws from the link's random bytes. -/
def draw {α : Type} (take : σ → α × σ) : ChannelM σ α := fun c =>
  let (a, link) := take c.link
  .ok a { c with link }

def setSession (session : Option Session) : ChannelM σ Unit := modify fun c => { c with session }

/-- The frame as it is sent: with a MAC inside a session. -/
def outgoing (c : Channel σ) (frame : Bytes) : Bytes :=
  match c.session with
  | some s => s.protect frame
  | none => frame

/-- Proves to the tag and lets the tag prove that both hold the key of a slot,
and starts a session. Any earlier session is given up first. -/
def authenticate (slot : UInt8) (key : Key) (verify : Bool) : ChannelM σ Unit := do
  setSession none
  let answer ← exchange (Command.authenticate slot)
  let rndB := Aes.decrypt key (← lift (Answer.challenge answer))
  let rndA ← draw drawBlock
  let token := Cbc.encryptBlocks (Aes.schedule key) Block.zero [rndA, rndB.rotateLeft]
  let answer ← exchange (Command.continuation (Block.join token))
  let final ← lift (Answer.final answer)
  if Aes.decrypt key final = rndA.rotateLeft then
    modify fun c => { c with session := some (Session.establish key slot rndA rndB), verify }
  else
    throw .tagRejected

/-- Opens an answer in the session, whose counter it advances. -/
def receive (session : Session) (answer : Bytes) : ChannelM σ Bytes := do
  match session.advance? with
  | none => throw .counterExhausted
  | some next =>
    setSession (some next)
    lift (next.openAnswer (← get).verify answer)

/-- Sends a command and returns the data of its answer. -/
def transceive (frame : Bytes) : ChannelM σ Bytes := do
  let c ← get
  let answer ← exchange (c.outgoing frame)
  match Answer.nak? answer with
  | some code => do
    setSession none
    throw (Answer.nakError code)
  | none =>
    match c.session with
    | none => return answer
    | some session => receive session answer

def getVersion : ChannelM σ Version := do
  lift (Answer.version (← transceive Command.getVersion))

/-- Reads the four pages from `page`. -/
def readPages (page : UInt8) : ChannelM σ Block := do
  lift (Answer.pages (← transceive (Command.read page)))

/-- Reads `n` times four pages, one group after the other. -/
def readGroups (page : UInt8) : Nat → ChannelM σ Bytes
  | 0 => return []
  | n + 1 => do
    let group ← readPages page
    let rest ← readGroups (page + 4) n
    return group.toBytes ++ rest

/-- Reads `pages` pages from `start`. -/
def readRange (start pages : UInt8) : ChannelM σ Bytes := do
  if start.toNat + pages.toNat > 256 then throw (.pageRange start pages)
  let data ← readGroups start ((pages.toNat + pagesPerRead - 1) / pagesPerRead)
  return data.take (pages.toNat * Page.size)

def writePage (page : UInt8) (data : Page) : ChannelM σ Unit := do
  lift (Answer.acknowledge (← transceive (Command.write page data)))

/-- Writes consecutive pages. -/
def writePages (page : UInt8) : List Page → ChannelM σ Unit
  | [] => return
  | p :: ps => do
    writePage page p
    writePages (page + 1) ps

/-- The pages that a byte string fills from `start`, if all of them can be
numbered. -/
def pagesFrom (start : UInt8) (data : Bytes) : Except TagError (List Page) :=
  let pages := splitPages data
  if start.toNat + pages.length > 256 then
    .error (.payloadTooLarge data.length ((256 - start.toNat) * Page.size))
  else .ok pages

/-- Writes a byte string to the pages from `start`. -/
def writeRange (start : UInt8) (data : Bytes) : ChannelM σ Unit := do
  writePages start (← lift (pagesFrom start data))

/-- Writes a byte string with its first page as a commit mark: that page holds
`invalid` while the others are written, and gets its contents last. -/
def writeRangeCommitted (start : UInt8) (data : Bytes) (invalid : Page) : ChannelM σ Unit := do
  match ← lift (pagesFrom start data) with
  | [] => return
  | first :: rest =>
    writePage start invalid
    writePages (start + 1) rest
    writePage start first

/-- Reads the identifier pages and checks both check bytes. -/
def readUid : ChannelM σ Bytes := do
  let b ← readPages 0
  let uid : Uid := ⟨b.w0.b0, b.w0.b1, b.w0.b2, b.w1.b0, b.w1.b1, b.w1.b2, b.w1.b3⟩
  if b.w0.b3 = uid.check0 ∧ b.w2.b0 = uid.check1 then return uid.toBytes
  else throw .wrongCheckBytes

end Channel
end Nearfield
