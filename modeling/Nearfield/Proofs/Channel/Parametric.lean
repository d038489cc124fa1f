/-
# What commands are made of

Every command is put together from single frames and handshakes. What holds of
these two and is kept when actions follow each other holds of every command.
`Parametric` says what has to be kept, for a relation between the actions on two
channels; a property of one channel is a relation that leaves the other one out.

Key definition: `Channel.Parametric`.
Key theorems: `Channel.Parametric.readRange`,
`Channel.Parametric.writeRangeCommitted`, `Channel.Parametric.run`.
-/
import Nearfield.Bench.Drill

namespace Nearfield
namespace Channel

variable {σ τ : Type} [FrameLink σ] [FrameLink τ]

/-- A relation that single frames satisfy and that is kept when actions follow
each other. -/
structure Parametric (R : ∀ α : Type, ChannelM σ α → ChannelM τ α → Prop) : Prop where
  pure {α : Type} (a : α) : R α (pure a) (pure a)
  throw {α : Type} (e : TagError) : R α (throw e) (throw e)
  bind {α β : Type} {prog : ChannelM σ β} {prog' : ChannelM τ β} {next : β → ChannelM σ α}
    {next' : β → ChannelM τ α} : R β prog prog' → (∀ b, R α (next b) (next' b)) →
      R α (prog >>= next) (prog' >>= next')
  transceive (frame : Bytes) : R Bytes (transceive frame) (transceive frame)

namespace Parametric
variable {R : ∀ α : Type, ChannelM σ α → ChannelM τ α → Prop} (h : Parametric R)
include h

theorem lift {α : Type} (r : Except TagError α) : R α (lift r) (lift r) := by
  cases r with
  | ok a => exact h.pure a
  | error e => exact h.throw e

theorem getVersion : R Version getVersion getVersion :=
  h.bind (h.transceive _) fun _ => h.lift _

theorem readPages (page : UInt8) : R Block (readPages page) (readPages page) :=
  h.bind (h.transceive _) fun _ => h.lift _

theorem readGroups : ∀ (n : Nat) (page : UInt8), R Bytes (readGroups page n) (readGroups page n)
  | 0, _ => h.pure _
  | n + 1, page => h.bind (h.readPages page) fun _ =>
    h.bind (readGroups n (page + 4)) fun _ => h.pure _

theorem readRange (start pages : UInt8) : R Bytes (readRange start pages) (readRange start pages) := by
  unfold Channel.readRange
  split
  · exact h.bind (h.throw _) fun _ => h.bind (h.readGroups _ start) fun _ => h.pure _
  · exact h.bind (h.readGroups _ start) fun _ => h.pure _

theorem readUid : R Bytes readUid readUid := by
  unfold Channel.readUid
  refine h.bind (h.readPages 0) fun b => ?_
  dsimp only
  split
  · exact h.pure _
  · exact h.throw _

theorem writePage (page : UInt8) (data : Page) : R Unit (writePage page data) (writePage page data) :=
  h.bind (h.transceive _) fun _ => h.lift _

theorem writePages : ∀ (ps : List Page) (page : UInt8),
    R Unit (writePages page ps) (writePages page ps)
  | [], _ => h.pure _
  | p :: ps, page => h.bind (h.writePage page p) fun _ => writePages ps (page + 1)

theorem writeRange (start : UInt8) (data : Bytes) :
    R Unit (writeRange start data) (writeRange start data) :=
  h.bind (h.lift _) fun ps => h.writePages ps start

theorem writeRangeCommitted (start : UInt8) (data : Bytes) (invalid : Page) :
    R Unit (writeRangeCommitted start data invalid) (writeRangeCommitted start data invalid) := by
  unfold Channel.writeRangeCommitted
  refine h.bind (h.lift _) fun ps => ?_
  cases ps with
  | nil => exact h.pure _
  | cons first rest =>
    refine h.bind (h.writePage start invalid) fun _ => ?_
    exact h.bind (h.writePages rest (start + 1)) fun _ => h.writePage start first

open Bench in
/-- **Every command is made of frames and handshakes.** -/
theorem run (step : ChannelStep) (hauthenticate : ∀ slot key verify,
      step = .authenticate slot key verify →
        R Unit (authenticate slot key verify) (authenticate slot key verify)) :
    R ChannelValue step.run step.run := by
  cases step with
  | authenticate slot key verify => exact h.bind (hauthenticate slot key verify rfl) fun _ => h.pure _
  | transceive frame => exact h.bind (h.transceive frame) fun _ => h.pure _
  | getVersion => exact h.bind h.getVersion fun _ => h.pure _
  | readPages page => exact h.bind (h.readPages page) fun _ => h.pure _
  | readRange start pages => exact h.bind (h.readRange start pages) fun _ => h.pure _
  | readUid => exact h.bind h.readUid fun _ => h.pure _
  | writePage page data => exact h.bind (h.writePage page data) fun _ => h.pure _
  | writeRange start data => exact h.bind (h.writeRange start data) fun _ => h.pure _
  | writeRangeCommitted start data invalid =>
    exact h.bind (h.writeRangeCommitted start data invalid) fun _ => h.pure _

end Parametric
end Channel
end Nearfield
