/-
# Links with a tag behind them

What a channel to a tag can rely on, whatever carries the frames: an answer is
what the tag answered, and the tag has taken that step; a failure means that the
tag never got the frame, or that it took a step and its answer was lost. On a
steady link nothing fails.

Key definition: `TagLink`.
-/
import Nearfield.Field
import Nearfield.Proofs.Tag.Steps

namespace Nearfield

/-- A link with at most one tag behind it. -/
class TagLink (σ : Type) extends FrameLink σ where
  tag? : σ → Option Tag
  /-- The last frame whose answer was lost. -/
  lost? : σ → Option Bytes
  /-- The tag is there and stays. -/
  Steady : σ → Prop
  tag?_nextByte (link : σ) : tag? (RandomSource.nextByte link).2 = tag? link
  steady_nextByte {link : σ} : Steady link → Steady (RandomSource.nextByte link).2
  exchange_ok {frame answer : Bytes} {link link' : σ} :
    FrameLink.exchange frame link = (.ok answer, link') →
      ∃ t t', tag? link = some t ∧ t.Steps frame answer t' ∧ tag? link' = some t'
  exchange_error {frame : Bytes} {e : LinkError} {link link' : σ} :
    FrameLink.exchange frame link = (.error e, link') →
      tag? link' = tag? link ∨ ∃ t answer t', tag? link = some t ∧ t.Steps frame answer t' ∧
        tag? link' = some t' ∧ lost? link' = some frame
  exchange_steady {link : σ} (frame : Bytes) :
    Steady link → ∃ answer link', FrameLink.exchange frame link = (.ok answer, link') ∧ Steady link'

namespace TagLink
variable {σ : Type} [TagLink σ]

/-- Drawing random bytes does nothing to the tag. -/
theorem tag?_drawBytes : ∀ (n : Nat) (link : σ), tag? (drawBytes n link).2 = tag? link
  | 0, _ => rfl
  | n + 1, link => (tag?_drawBytes n _).trans (tag?_nextByte link)

theorem steady_drawBytes : ∀ (n : Nat) {link : σ}, Steady link → Steady (drawBytes n link).2
  | 0, _, h => h
  | n + 1, _, h => steady_drawBytes n (steady_nextByte h)

theorem tag?_drawBlock (link : σ) : tag? (drawBlock link).2 = tag? link :=
  tag?_drawBytes Block.size link

theorem steady_drawBlock {link : σ} (h : Steady link) : Steady (drawBlock link).2 :=
  steady_drawBytes Block.size h

end TagLink

/-! ### Contacts -/

namespace Contact
variable {ρ : Type} [RandomSource ρ]

/-- The contact is with the tag of this activation, which does not leave. -/
def Steady (c : Contact ρ) : Prop :=
  c.field.generation = c.generation ∧ ∃ t, c.field.tag = some t ∧ t.allowance = none

/-- A frame is carried while the tag of this activation is there. -/
theorem exchange_eq (c : Contact ρ) (frame : Bytes) :
    c.exchange frame = match c.field.tag with
      | none => (.error .tagRemoved, c)
      | some t =>
        if c.field.generation ≠ c.generation ∨ t.hasDeparted then (.error .tagRemoved, c)
        else (.ok (t.process frame c.rng).1,
          { c with field := { c.field with tag := some (t.process frame c.rng).2.1 },
                   rng := (t.process frame c.rng).2.2 }) := by
  unfold Contact.exchange Field.exchange
  cases c.field.tag with
  | none => rfl
  | some t =>
    dsimp only
    split <;> rfl

theorem exchange_ok {c c' : Contact ρ} {frame answer : Bytes} (h : c.exchange frame = (.ok answer, c')) :
    ∃ t t', c.field.tag = some t ∧ t.Steps frame answer t' ∧ c'.field.tag = some t' := by
  rw [exchange_eq] at h
  split at h
  · cases h
  · rename_i t ht
    split at h
    · cases h
    · rw [Prod.mk.injEq, Except.ok.injEq] at h
      obtain ⟨rfl, rfl⟩ := h
      exact ⟨t, _, ht, ⟨ρ, _, c.rng, _, rfl⟩, rfl⟩

/-- A contact fails only when the tag is gone, and then nothing happens. -/
theorem exchange_error {c c' : Contact ρ} {frame : Bytes} {e : LinkError}
    (h : c.exchange frame = (.error e, c')) : e = .tagRemoved ∧ c' = c := by
  rw [exchange_eq] at h
  split at h
  · rw [Prod.mk.injEq, Except.error.injEq] at h
    exact ⟨h.1.symm, h.2.symm⟩
  · split at h
    · rw [Prod.mk.injEq, Except.error.injEq] at h
      exact ⟨h.1.symm, h.2.symm⟩
    · cases h

/-- A frame reaches a tag that stays. -/
theorem Steady.exchange_eq {c : Contact ρ} (h : c.Steady) {t : Tag} (ht : c.field.tag = some t)
    (frame : Bytes) : c.exchange frame = (.ok (t.process frame c.rng).1,
      { c with field := { c.field with tag := some (t.process frame c.rng).2.1 },
               rng := (t.process frame c.rng).2.2 }) := by
  obtain ⟨hgeneration, u, hu, hstays⟩ := h
  cases hu.symm.trans ht
  have hpresent : ¬ (c.field.generation ≠ c.generation ∨ t.hasDeparted) := by
    rintro (h | h)
    · exact h hgeneration
    · unfold Tag.hasDeparted at h
      rw [hstays] at h
      cases h
  rw [Contact.exchange_eq, ht]
  exact if_neg hpresent

theorem exchange_steady {c : Contact ρ} (frame : Bytes) (h : c.Steady) :
    ∃ answer c', c.exchange frame = (.ok answer, c') ∧ c'.Steady := by
  obtain ⟨hgeneration, t, ht, hstays⟩ := id h
  have hstays' := (Tag.process_answers c.rng t frame).stays hstays
  exact ⟨_, _, h.exchange_eq ht frame, hgeneration, _, rfl, hstays'⟩

instance : TagLink (Contact ρ) where
  tag? c := c.field.tag
  lost? _ := none
  Steady := Steady
  tag?_nextByte _ := rfl
  steady_nextByte h := h
  exchange_ok := exchange_ok
  exchange_error h := Or.inl (congrArg (fun c : Contact ρ => c.field.tag) (exchange_error h).2)
  exchange_steady := exchange_steady

end Contact
end Nearfield
