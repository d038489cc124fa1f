/-
# Links that write down

A link with a journal carries frames as the link inside it does and writes down
what the host has sent and got, so that the frames of a command can be seen from
outside. Nothing else changes: every command does over such a link what it does
over the link itself (`mirrors_run`).

Key definitions: `Recorded`, `Channel.unrecorded`, `Channel.Mirrors`.
Key theorem: `Channel.mirrors_run`.
-/
import Nearfield.Proofs.Channel.LinkMap

namespace Nearfield

/-- What the host has sent and what it has got. -/
abbrev Exchanged := Bytes × Except LinkError Bytes

/-- A link with a journal. -/
structure Recorded (σ : Type) where
  link : σ
  /-- Newest entry first. -/
  journal : List Exchanged

instance {σ : Type} [FrameLink σ] : FrameLink (Recorded σ) where
  nextByte r :=
    let (b, link) := RandomSource.nextByte r.link
    (b, { r with link })
  exchange frame r :=
    let (answer, link) := FrameLink.exchange frame r.link
    (answer, ⟨link, (frame, answer) :: r.journal⟩)

namespace Recorded
variable {σ : Type} [FrameLink σ]

theorem exchange_eq (frame : Bytes) (r : Recorded σ) :
    FrameLink.exchange frame r = ((FrameLink.exchange frame r.link).1,
      ⟨(FrameLink.exchange frame r.link).2, (frame, (FrameLink.exchange frame r.link).1) :: r.journal⟩) :=
  rfl

/-- Drawing random bytes is no exchange. -/
theorem drawBytes_eq : ∀ (n : Nat) (r : Recorded σ),
    drawBytes n r = ((drawBytes n r.link).1, ⟨(drawBytes n r.link).2, r.journal⟩)
  | 0, _ => rfl
  | n + 1, r => by
    have hrest := drawBytes_eq n (⟨(RandomSource.nextByte r.link).2, r.journal⟩ : Recorded σ)
    exact congrArg (fun x => ((RandomSource.nextByte r.link).1 :: x.1, x.2)) hrest

theorem drawBlock_eq (r : Recorded σ) :
    drawBlock r = ((drawBlock r.link).1, ⟨(drawBlock r.link).2, r.journal⟩) := by
  unfold drawBlock
  rw [drawBytes_eq]

/-- The link inside. -/
def forget : LinkMap (Recorded σ) σ where
  map := Recorded.link
  nextByte_map _ := rfl
  exchange_map _ _ := rfl

end Recorded

/-! ### Writing down changes nothing -/

namespace Channel

section
variable {σ α : Type}

/-- The channel over the link without its journal. -/
def unrecorded (c : Channel (Recorded σ)) : Channel σ := ⟨c.link.link, c.uid, c.session, c.verify⟩

/-- The first action ends over a link that writes down as the second one does
over the link itself. -/
def Mirrors (prog : ChannelM (Recorded σ) α) (plain : ChannelM σ α) : Prop :=
  ∀ c, Ends prog c (fun a c' => plain c.unrecorded = .ok a c'.unrecorded)
    (fun e c' => plain c.unrecorded = .error e c'.unrecorded)

variable [FrameLink σ]

open Bench in
/-- **Every command is mirrored.** -/
theorem mirrors_run (step : ChannelStep) :
    Mirrors (step.run : ChannelM (Recorded σ) ChannelValue) step.run :=
  follows_parametric (f := Recorded.forget).run step fun slot key verify _ =>
    follows_authenticate slot key verify

end
end Channel
end Nearfield
