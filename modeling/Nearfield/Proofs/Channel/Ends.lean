/-
# How an action on a channel ends

An action returns or fails, and both leave a channel behind. `Ends prog c Q E`
says what holds then: `Q` of the value and the channel if it returns, `E` of the
error and the channel if it fails. There is one rule for each way in which
actions are put together, so the ends of a command are read off its definition.

Key definition: `Channel.Ends`.
Key theorems: `Channel.Ends.bind`, `Channel.Ends.mono`, `Channel.ends_exchange`,
`Channel.ends_tryCatch`.
-/
import Nearfield.Channel

namespace Nearfield
namespace Channel

section
variable {σ α β : Type} {c : Channel σ} {Q : α → Channel σ → Prop} {E : TagError → Channel σ → Prop}

/-- `Q` holds when the action returns, `E` when it fails. -/
def Ends (prog : ChannelM σ α) (c : Channel σ) (Q : α → Channel σ → Prop)
    (E : TagError → Channel σ → Prop) : Prop :=
  match prog c with
  | .ok a c' => Q a c'
  | .error e c' => E e c'

theorem Ends.mono {prog : ChannelM σ α} {Q' : α → Channel σ → Prop} {E' : TagError → Channel σ → Prop}
    (h : Ends prog c Q E) (hQ : ∀ a c', Q a c' → Q' a c') (hE : ∀ e c', E e c' → E' e c') :
    Ends prog c Q' E' := by
  unfold Ends at h ⊢
  split at h
  · exact hQ _ _ h
  · exact hE _ _ h

/-- What is known in two ways holds in both. -/
theorem Ends.and {prog : ChannelM σ α} {Q' : α → Channel σ → Prop} {E' : TagError → Channel σ → Prop}
    (h : Ends prog c Q E) (h' : Ends prog c Q' E') :
    Ends prog c (fun a c' => Q a c' ∧ Q' a c') fun e c' => E e c' ∧ E' e c' := by
  unfold Ends at h h' ⊢
  cases hrun : prog c with
  | ok a c' =>
    rw [hrun] at h h'
    exact ⟨h, h'⟩
  | error e c' =>
    rw [hrun] at h h'
    exact ⟨h, h'⟩

theorem Ends.ok {prog : ChannelM σ α} {a : α} {c' : Channel σ} (h : Ends prog c Q E)
    (hrun : prog c = .ok a c') : Q a c' := by
  unfold Ends at h
  rw [hrun] at h
  exact h

theorem Ends.error {prog : ChannelM σ α} {e : TagError} {c' : Channel σ} (h : Ends prog c Q E)
    (hrun : prog c = .error e c') : E e c' := by
  unfold Ends at h
  rw [hrun] at h
  exact h

theorem Ends.fails {prog : ChannelM σ α} (h : Ends prog c (fun _ _ => False) E) :
    ∃ e c', prog c = .error e c' ∧ E e c' := by
  cases hrun : prog c with
  | ok a c' => exact (h.ok hrun).elim
  | error e c' => exact ⟨e, c', rfl, h.error hrun⟩

theorem Ends.returns {prog : ChannelM σ α} (h : Ends prog c Q fun _ _ => False) :
    ∃ a c', prog c = .ok a c' ∧ Q a c' := by
  cases hrun : prog c with
  | ok a c' => exact ⟨a, c', rfl, h.ok hrun⟩
  | error e c' => exact (h.error hrun).elim

theorem ends_pure {a : α} : Ends (pure a) c Q E ↔ Q a c := Iff.rfl

theorem ends_throw {e : TagError} : Ends (throw e : ChannelM σ α) c Q E ↔ E e c := Iff.rfl

theorem ends_bind {prog : ChannelM σ β} {next : β → ChannelM σ α} :
    Ends (prog >>= next) c Q E ↔ Ends prog c (fun b c' => Ends (next b) c' Q E) E := by
  unfold Ends
  show (match EStateM.bind prog next c with
    | .ok a c' => Q a c'
    | .error e c' => E e c') ↔ _
  unfold EStateM.bind
  cases prog c <;> rfl

/-- What the first action leaves behind, the second one starts from. -/
theorem Ends.bind {prog : ChannelM σ β} {next : β → ChannelM σ α} {R : β → Channel σ → Prop}
    {E' : TagError → Channel σ → Prop} (h : Ends prog c R E')
    (hE : ∀ e c', E' e c' → E e c') (hnext : ∀ b c', R b c' → Ends (next b) c' Q E) :
    Ends (prog >>= next) c Q E :=
  ends_bind.mpr (h.mono hnext hE)

theorem ends_get {Q : Channel σ → Channel σ → Prop} : Ends get c Q E ↔ Q c c := Iff.rfl

theorem ends_modify {f : Channel σ → Channel σ} {Q : Unit → Channel σ → Prop} :
    Ends (modify f) c Q E ↔ Q () (f c) := Iff.rfl

theorem ends_setSession {s : Option Session} {Q : Unit → Channel σ → Prop} :
    Ends (setSession s) c Q E ↔ Q () { c with session := s } := Iff.rfl

theorem ends_draw {take : σ → α × σ} :
    Ends (draw take) c Q E ↔ Q (take c.link).1 { c with link := (take c.link).2 } := Iff.rfl

theorem ends_lift {r : Except TagError α} :
    Ends (lift r) c Q E ↔ (match r with
      | .ok a => Q a c
      | .error e => E e c) := by
  cases r <;> rfl

/-- A lifted result returns what it holds and leaves the channel. -/
theorem Ends.lift {r : Except TagError α} (hok : ∀ a, r = .ok a → Q a c)
    (herror : ∀ e, r = .error e → E e c) : Ends (lift r) c Q E := by
  cases r with
  | ok a => exact hok a rfl
  | error e => exact herror e rfl

/-- A failure is caught with the channel as it is then. -/
theorem ends_tryCatch {prog : ChannelM σ α} {handle : TagError → ChannelM σ α} :
    Ends (tryCatch prog handle) c Q E ↔ Ends prog c Q fun e c' => Ends (handle e) c' Q E := by
  unfold Ends
  show (match EStateM.tryCatch prog handle c with
    | .ok a c' => Q a c'
    | .error e c' => E e c') ↔ _
  unfold EStateM.tryCatch
  cases prog c <;> rfl

theorem ends_exchange [FrameLink σ] {frame : Bytes} {Q : Bytes → Channel σ → Prop} :
    Ends (exchange frame) c Q E ↔ (match FrameLink.exchange frame c.link with
      | (.ok answer, link) => Q answer { c with link }
      | (.error e, link) => E (.link e) { c with link }) := by
  unfold Ends exchange
  rcases FrameLink.exchange frame c.link with ⟨answer | e, link⟩ <;> rfl

end
end Channel
end Nearfield
