/-
# Disturbances on a link

A disturbance applies to one frame of a link, counted from zero. Before the
frame is sent it may take the tag away, put another in its place, change the
frame or swallow it; afterwards it may change the answer or fail the exchange.

Key definitions: `Disturbance`, `Disturbance.before`, `Disturbance.after`.
-/
import Nearfield.Field

namespace Nearfield
namespace Bench

structure Disturbance where
  /-- The number of the frame. -/
  frame : Nat
  /-- The tag leaves. -/
  removes : Bool
  /-- Another tag arrives. -/
  presents : Option Tag
  /-- The sent frame's byte at an index is combined with a mask. -/
  sendMask : Option (Nat × UInt8)
  /-- The frame is not sent; the answer starts empty. -/
  skips : Bool
  /-- The answer becomes this one. -/
  replaces : Option Bytes
  /-- The answer's byte at an index is combined with a mask. -/
  answerMask : Option (Nat × UInt8)
  /-- The answer is cut to a length. -/
  truncates : Option Nat
  /-- Bytes are added to the answer. -/
  appends : Option Bytes
  /-- The host gets an error in place of the answer. -/
  fails : Option LinkError

/-- Combines the byte at an index with a mask, if there is one. -/
def applyMask (data : Bytes) : Option (Nat × UInt8) → Bytes
  | some (index, mask) => data.modify index (· ^^^ mask)
  | none => data

namespace Disturbance

/-- What it does to the field and the frame. -/
def before (d : Disturbance) (field : Field) (frame : Bytes) : Field × Bytes :=
  let field := if d.removes then field.remove else field
  let field :=
    match d.presents with
    | some t => field.present t
    | none => field
  (field, applyMask frame d.sendMask)

/-- What all of them do to the field and the frame, in order. -/
def beforeAll : List Disturbance → Field → Bytes → Field × Bytes
  | [], field, frame => (field, frame)
  | d :: ds, field, frame =>
    let (field, frame) := d.before field frame
    beforeAll ds field frame

/-- What it does to the answer. -/
def after (d : Disturbance) (answer : Bytes) : Except LinkError Bytes :=
  let answer := applyMask (d.replaces.getD answer) d.answerMask
  let answer :=
    match d.truncates with
    | some n => answer.take n
    | none => answer
  match d.fails with
  | some e => .error e
  | none => .ok (answer ++ d.appends.getD [])

/-- What all of them do to the answer, in order. -/
def afterAll (ds : List Disturbance) (answer : Bytes) : Except LinkError Bytes :=
  ds.foldlM (fun a d => d.after a) answer

end Disturbance
end Bench
end Nearfield
