/-
# The reader's field

A field holds at most one tag. Its generation counts the arrivals and
departures, so that a link, which remembers the generation of its activation,
notices that its tag is gone even if a tag is there again. A wait for a tag
remembers how many cancellations there had been when it began.

Key definitions: `Field`, `Contact`, `Activation`, `TagSource`.
-/
import Nearfield.FrameLink
import Nearfield.Tag

namespace Nearfield

structure Field where
  tag : Option Tag
  generation : Nat
  /-- The number of times that waiting for a tag was stopped. -/
  cancels : Nat
  deriving DecidableEq

namespace Field

/-- A field with no tag in it. -/
def empty : Field := ⟨none, 0, 0⟩

/-- Brings a tag in, in place of any tag there. -/
def present (f : Field) (t : Tag) : Field := { f with tag := some t, generation := f.generation + 1 }

/-- Takes the tag out. -/
def remove (f : Field) : Field :=
  match f.tag with
  | some _ => { f with tag := none, generation := f.generation + 1 }
  | none => f

def isPresent (f : Field) : Bool := f.tag.isSome

/-- Stops every wait for a tag that has begun. -/
def stopListening (f : Field) : Field := { f with cancels := f.cancels + 1 }

/-- Changes the tag in place: neither an arrival nor a departure. -/
def updateTag (f : Field) (g : Tag → Tag) : Field := { f with tag := f.tag.map g }

/-- Carries a frame on a link of this generation. -/
def exchange {ρ : Type} [RandomSource ρ] (f : Field) (generation : Nat) (frame : Bytes) (rng : ρ) :
    Except LinkError Bytes × Field × ρ :=
  match f.tag with
  | none => (.error .tagRemoved, f, rng)
  | some t =>
    if f.generation ≠ generation ∨ t.hasDeparted then (.error .tagRemoved, f, rng)
    else
      let (answer, t, rng) := t.process frame rng
      (.ok answer, { f with tag := some t }, rng)

end Field

/-- A field in contact with the tag of one activation, and the random bytes
that both sides draw from. -/
structure Contact (ρ : Type) where
  field : Field
  generation : Nat
  rng : ρ

namespace Contact

variable {ρ : Type} [RandomSource ρ]

def nextByte (c : Contact ρ) : UInt8 × Contact ρ :=
  let (b, rng) := RandomSource.nextByte c.rng
  (b, { c with rng })

def exchange (frame : Bytes) (c : Contact ρ) : Except LinkError Bytes × Contact ρ :=
  let (answer, field, rng) := c.field.exchange c.generation frame c.rng
  (answer, { c with field, rng })

instance : FrameLink (Contact ρ) where
  nextByte := nextByte
  exchange := exchange

end Contact

/-- What a look for a tag comes to. -/
inductive Activation (σ : Type) where
  /-- A tag was activated and reported this identifier. -/
  | found (uid : Bytes) (link : σ)
  /-- The wait was stopped. -/
  | cancelled
  /-- No tag yet; the wait began after this many cancellations. -/
  | waiting (since : Nat)

/-- Where scans find their tags: `σ` is the state while a link is in use. -/
class TagSource (φ : Type) (σ : outParam Type) where
  /-- Looks for a tag, first (`none`) or again in a wait that has begun. -/
  activate : Option Nat → φ → Activation σ
  /-- Gives the link back. -/
  release : σ → φ
  stopListening : φ → φ

/-- A field with the random bytes that its tags draw from. -/
structure Station (ρ : Type) where
  field : Field
  rng : ρ

namespace Station

variable {ρ : Type} [RandomSource ρ]

/-- Activates the tag in the field, if there is one. -/
def contact? (s : Station ρ) : Option (Bytes × Contact ρ) :=
  s.field.tag.map fun t =>
    let (uid, t, rng) := t.activate s.rng
    (uid, ⟨{ s.field with tag := some t }, s.field.generation, rng⟩)

/-- A cancellation since the wait began comes before a tag. -/
def activate (since : Option Nat) (s : Station ρ) : Activation (Contact ρ) :=
  let since := since.getD s.field.cancels
  if s.field.cancels ≠ since then .cancelled
  else
    match s.contact? with
    | some (uid, link) => .found uid link
    | none => .waiting since

instance : TagSource (Station ρ) (Contact ρ) where
  activate := activate
  release c := ⟨c.field, c.rng⟩
  stopListening s := { s with field := s.field.stopListening }

end Station
end Nearfield
