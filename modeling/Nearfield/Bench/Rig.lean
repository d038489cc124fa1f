/-
# A rig around a field

The rig is a field whose links can be disturbed, or replaced by a script that
knows its answers in advance, and that keeps a journal of what happens on its
links. To the scans it is a field like any other.

Key definitions: `Rig`, `RigLink`, `RigContact`, `Entry`.
-/
import Nearfield.Bench.Disturbance

namespace Nearfield
namespace Bench

/-- What a rig writes down. -/
inductive Entry where
  /-- A link was activated and reported this identifier. -/
  | activated (uid : Bytes)
  /-- The host sent a frame and got an answer. -/
  | exchanged (sent : Bytes) (received : Except LinkError Bytes)

/-- The far end of a link. -/
inductive FarEnd where
  /-- The tag in the field, since this generation. -/
  | tag (generation : Nat)
  /-- Answers that are given out one by one. -/
  | script (answers : List (Except LinkError Bytes))

/-- What a link remembers. -/
structure RigLink where
  farEnd : FarEnd
  disturbances : List Disturbance
  /-- Frames sent so far. -/
  sent : Nat

structure Rig where
  field : Field
  rng : ByteStream
  /-- For the next link. -/
  disturbances : List Disturbance
  /-- The identifier and the answers of the next link, in place of a tag's. -/
  script : Option (Bytes × List (Except LinkError Bytes))
  /-- Newest entry first. -/
  journal : List Entry

namespace Rig

def new (field : Field) (rng : ByteStream) : Rig := ⟨field, rng, [], none, []⟩

def write (r : Rig) (e : Entry) : Rig := { r with journal := e :: r.journal }

end Rig

/-- A rig while one of its links is in use. -/
structure RigContact where
  rig : Rig
  link : RigLink

namespace RigContact

def nextByte (c : RigContact) : UInt8 × RigContact :=
  let (b, rng) := c.rig.rng.nextByte
  (b, { c with rig := { c.rig with rng } })

/-- Carries a frame to the far end. -/
def send (frame : Bytes) (c : RigContact) : Except LinkError Bytes × RigContact :=
  match c.link.farEnd with
  | .tag generation =>
    let (answer, field, rng) := c.rig.field.exchange generation frame c.rig.rng
    (answer, { c with rig := { c.rig with field, rng } })
  | .script [] => (.error .tagRemoved, c)
  | .script (answer :: rest) => (answer, { c with link := { c.link with farEnd := .script rest } })

/-- Carries a frame with the disturbances that are due, and writes down what
the host sent and got. A link that fails by itself is not disturbed further. -/
def exchange (frame : Bytes) (c : RigContact) : Except LinkError Bytes × RigContact :=
  let due := c.link.disturbances.filter fun d => d.frame = c.link.sent
  let (field, sent) := Disturbance.beforeAll due c.rig.field frame
  let c := { c with rig := { c.rig with field }, link := { c.link with sent := c.link.sent + 1 } }
  let (answer, c) := if due.any (·.skips) then (.ok [], c) else c.send sent
  let received := answer.bind (Disturbance.afterAll due)
  (received, { c with rig := c.rig.write (.exchanged frame received) })

instance : FrameLink RigContact where
  nextByte := nextByte
  exchange := exchange

end RigContact

namespace Rig

/-- Puts a new link into use. The disturbances in store are for it. -/
def engage (r : Rig) (uid : Bytes) (farEnd : FarEnd) : RigContact :=
  ⟨{ r with disturbances := [] }.write (.activated uid), ⟨farEnd, r.disturbances, 0⟩⟩

/-- A script in store is used by whoever looks first; a wait that has begun is
for a tag. -/
def activate (since : Option Nat) (r : Rig) : Activation RigContact :=
  match since, r.script with
  | none, some (uid, answers) => .found uid ({ r with script := none }.engage uid (.script answers))
  | _, _ =>
    match Station.activate since (⟨r.field, r.rng⟩ : Station ByteStream) with
    | .found uid c => .found uid ({ r with field := c.field, rng := c.rng }.engage uid (.tag c.generation))
    | .cancelled => .cancelled
    | .waiting since => .waiting since

instance : TagSource Rig RigContact where
  activate := activate
  release c := c.rig
  stopListening r := { r with field := r.field.stopListening }

end Rig
end Bench
end Nearfield
