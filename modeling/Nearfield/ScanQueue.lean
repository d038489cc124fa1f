/-
# The queue of scans: one transaction at a time

Scans take turns in the order in which they were started. The first pending
scan has the field: it waits for a tag, runs its whole transaction when there
is one, and only then the next scan gets its turn. A cancellation ends the wait
of the scan that has the field and of no other.

Key definitions: `Pending`, `ScanQueue`, `ScanQueue.start`, `ScanQueue.poll`,
`ScanQueue.drop`, `ScanQueue.cancel`.
-/
import Nearfield.Field
import Nearfield.Transaction

namespace Nearfield

/-- A scan that has not finished. -/
structure Pending where
  id : Nat
  request : Request
  /-- When its wait for a tag began; `none` before its turn. -/
  since : Option Nat
  deriving DecidableEq, Repr

/-- A scan that has finished. -/
structure Finished where
  id : Nat
  result : ScanResult

/-- A field and the scans that wait for it, first come first served. -/
structure ScanQueue (φ : Type) where
  field : φ
  pending : List Pending

namespace ScanQueue

variable {φ σ : Type} [FrameLink σ] [TagSource φ σ]

/-- Runs the pending scans in order until one has to go on waiting. -/
def serve : φ → List Pending → List Finished × ScanQueue φ
  | field, [] => ([], ⟨field, []⟩)
  | field, p :: rest =>
    match TagSource.activate p.since field with
    | .found uid link =>
      let (result, link) := Transaction.run uid p.request link
      let (done, t) := serve (TagSource.release link : φ) rest
      (⟨p.id, result⟩ :: done, t)
    | .cancelled =>
      let (done, t) := serve field rest
      (⟨p.id, .error (.link .cancelled)⟩ :: done, t)
    | .waiting since => ([], ⟨field, { p with since := some since } :: rest⟩)

/-- Lets every pending scan go as far as it can. -/
def poll (t : ScanQueue φ) : List Finished × ScanQueue φ := serve t.field t.pending

/-- Starts a scan. It runs at once if no other scan is pending; otherwise it
queues up. -/
def start (t : ScanQueue φ) (id : Nat) (request : Request) : List Finished × ScanQueue φ :=
  match t.pending with
  | [] => serve t.field [⟨id, request, none⟩]
  | _ :: _ => ([], { t with pending := t.pending ++ [⟨id, request, none⟩] })

/-- Gives up a pending scan, and its place. -/
def drop (t : ScanQueue φ) (id : Nat) : ScanQueue φ :=
  { t with pending := t.pending.filter fun p => p.id ≠ id }

/-- Stops the wait for a tag. -/
def cancel (t : ScanQueue φ) : ScanQueue φ := { t with field := TagSource.stopListening t.field }

end ScanQueue
end Nearfield
