/-
# Transactions

One request, run from start to end on a fresh channel. Every transaction first
asks for the version and stops at a tag of another product. A read in a session
and every write and test authenticate with the identifier's key and take the
identifier from memory; a test authenticates with the data key before.

Key definitions: `Transaction.execute`, `Transaction.read`, `Transaction.write`,
`Transaction.test`, `Transaction.run`.
-/
import Nearfield.Channel
import Nearfield.PayloadArea
import Nearfield.Scan

namespace Nearfield
namespace Transaction

variable {σ : Type} [FrameLink σ]

open Channel

/-- Stops at a tag of another product. A tag that refuses to name its product
is one. -/
def checkProduct : ChannelM σ Unit := do
  let version ← tryCatch getVersion fun
    | .nak _ => throw .noVersion
    | .authentication _ => throw .noVersion
    | e => throw e
  lift version.ensureSupported

/-- The payload of what an area holds: verified with a data key, as it is
stored without one. With a data key nothing but a sealed payload is accepted. -/
def payloadOf (dataKey : Option Key) (uid : Bytes) :
    PayloadArea.Stored → Except TagError (Option Payload)
  | .empty => .ok none
  | .plain body =>
    match dataKey with
    | some _ => .error .notSealed
    | none => .ok (some ⟨body, .unprotected⟩)
  | .sealed body =>
    match dataKey with
    | some key => do return some ⟨← PayloadArea.decodeSealed key uid body, .verified⟩
    | none => .ok (some ⟨body, .unprotected⟩)

/-- The identifier in a given mode: from memory in a session, otherwise from
anticollision. -/
def identify (mode : ReadMode) (uidKey : Key) : ChannelM σ Bytes := do
  if mode.needsSession then
    authenticate uidSlot uidKey mode.verifiesCmac
    readUid
  else
    return (← get).uid

/-- Reads the identifier and, in a full mode, the payload. -/
def read (mode : ReadMode) (uidKey : Key) (dataKey : Option Key) : ChannelM σ Finding := do
  match mode with
  | .fast => return ⟨(← get).uid, none⟩
  | .full _ _ =>
    let uid ← identify mode uidKey
    let area ← readRange payloadStart payloadPages
    let stored ← lift (PayloadArea.decode area)
    let payload ← lift (payloadOf dataKey uid stored)
    return ⟨uid, payload⟩

/-- The area of a payload: sealed with a data key, otherwise in the clear. -/
def encodeArea (dataKey : Option Key) (uid payload : Bytes) : ChannelM σ Bytes := do
  match dataKey with
  | some key => lift (← draw (PayloadArea.encodeSealed key uid payload))
  | none => lift (PayloadArea.encodePlain payload)

/-- Writes a payload; its header page is written last. -/
def write (payload : Bytes) (uidKey : Key) (dataKey : Option Key) : ChannelM σ Finding := do
  authenticate uidSlot uidKey true
  let uid ← readUid
  let area ← encodeArea dataKey uid payload
  writeRangeCommitted payloadStart area PayloadArea.emptyHeader
  return ⟨uid, none⟩

/-- Random bytes in a probe. -/
def probeSize : Nat := 8

/-- The record of a test: a probe and a MAC that binds it to the tag. -/
def probeRecord (dataKey : Key) (uid probe : Bytes) : Bytes :=
  probe ++ Cmac.truncated (diversify dataKey .probeMac uid) (uid ++ probe)

/-- Proves both keys, then writes a probe record to the scratch area and reads
it back. -/
def test (uidKey dataKey : Key) : ChannelM σ Finding := do
  authenticate dataSlot dataKey true
  authenticate uidSlot uidKey true
  let uid ← readUid
  let record := probeRecord dataKey uid (← draw (drawBytes probeSize))
  writeRange scratchStart record
  let readBack ← readPages scratchStart
  if readBack.toBytes = record then return ⟨uid, none⟩ else throw .wrongReadBack

/-- Runs a request. -/
def execute (request : Request) : ChannelM σ Finding := do
  checkProduct
  match request with
  | .read mode uidKey dataKey => read mode uidKey dataKey
  | .write payload uidKey dataKey => write payload uidKey dataKey
  | .test uidKey dataKey => test uidKey dataKey

/-- Runs a request on a newly activated link and classifies a failure. The
state of the link afterwards is returned too. -/
def run (uid : Bytes) (request : Request) (link : σ) : ScanResult × σ :=
  match execute request (Channel.new uid link) with
  | .ok tag c => (.ok tag, c.link)
  | .error e c => (.error e.classify, c.link)

end Transaction
end Nearfield
