/-
# Links that carry something more

A link may keep a journal or carry other things beside what it does to frames. A
map between links that goes along with every exchange and every random byte
(`LinkMap`) forgets them, and every action on a channel goes along with it: the
action ends over the one link as it ends over the other (`Follows`). What is
seen with the help of a journal is therefore true of links without one. In the
same way a property that every exchange keeps is kept by every action
(`LinkProperty`): the links that have it are links themselves.

Key definitions: `LinkMap`, `LinkProperty`, `Channel.Follows`.
Key theorems: `Channel.Follows.bind`, `Channel.follows_authenticate`,
`Channel.follows_parametric`, `Channel.Follows.keeps`.
-/
import Nearfield.Proofs.Channel.Ends
import Nearfield.Proofs.Channel.Parametric

namespace Nearfield

/-- A map between links that goes along with exchanges and with random bytes. -/
structure LinkMap (σ τ : Type) [FrameLink σ] [FrameLink τ] where
  map : σ → τ
  nextByte_map (link : σ) : RandomSource.nextByte (map link)
    = ((RandomSource.nextByte link).1, map (RandomSource.nextByte link).2)
  exchange_map (frame : Bytes) (link : σ) : FrameLink.exchange frame (map link)
    = ((FrameLink.exchange frame link).1, map (FrameLink.exchange frame link).2)

namespace LinkMap
variable {σ τ : Type} [FrameLink σ] [FrameLink τ] (f : LinkMap σ τ)

theorem drawBytes_map : ∀ (n : Nat) (link : σ),
    drawBytes n (f.map link) = ((drawBytes n link).1, f.map (drawBytes n link).2)
  | 0, _ => rfl
  | n + 1, link => by
    simp only [drawBytes, f.nextByte_map link, drawBytes_map n]

theorem drawBlock_map (link : σ) :
    drawBlock (f.map link) = ((drawBlock link).1, f.map (drawBlock link).2) := by
  simp only [drawBlock, f.drawBytes_map]

/-- The channel over the other link. -/
def channel (c : Channel σ) : Channel τ := ⟨f.map c.link, c.uid, c.session, c.verify⟩

theorem channel_session (c : Channel σ) : (f.channel c).session = c.session := rfl

end LinkMap

/-- A property of links that exchanges and random bytes keep. -/
structure LinkProperty (σ : Type) [FrameLink σ] where
  holds : σ → Prop
  nextByte {link : σ} : holds link → holds (RandomSource.nextByte link).2
  exchange {link : σ} (frame : Bytes) : holds link → holds (FrameLink.exchange frame link).2

namespace LinkProperty
variable {σ : Type} [FrameLink σ] (p : LinkProperty σ)

/-- The links that have the property. -/
def Links : Type := { link : σ // p.holds link }

instance : FrameLink p.Links where
  nextByte l := ((RandomSource.nextByte l.val).1, ⟨(RandomSource.nextByte l.val).2, p.nextByte l.property⟩)
  exchange frame l :=
    ((FrameLink.exchange frame l.val).1, ⟨(FrameLink.exchange frame l.val).2, p.exchange frame l.property⟩)

def inclusion : LinkMap p.Links σ where
  map := Subtype.val
  nextByte_map _ := rfl
  exchange_map _ _ := rfl

end LinkProperty

namespace Channel
variable {σ τ α β : Type} [FrameLink σ] [FrameLink τ] {f : LinkMap σ τ}

/-- The second action ends over the image of a link as the first one ends over
the link itself. -/
def Follows (f : LinkMap σ τ) (prog : ChannelM σ α) (image : ChannelM τ α) : Prop :=
  ∀ c, Ends prog c (fun a c' => image (f.channel c) = .ok a (f.channel c'))
    (fun e c' => image (f.channel c) = .error e (f.channel c'))

/-! ### Putting actions together -/

theorem follows_pure (a : α) : Follows f (pure a) (pure a) := fun _ => rfl

theorem follows_throw (e : TagError) : Follows f (throw e : ChannelM σ α) (throw e) := fun _ => rfl

theorem Follows.bind {prog : ChannelM σ β} {image : ChannelM τ β} {next : β → ChannelM σ α}
    {next' : β → ChannelM τ α} (h : Follows f prog image) (hnext : ∀ b, Follows f (next b) (next' b)) :
    Follows f (prog >>= next) (image >>= next') := by
  intro c
  refine (h c).bind ?_ ?_
  · intro e c' herror
    show EStateM.bind image next' (f.channel c) = _
    unfold EStateM.bind
    rw [herror]
  · intro b c₁ hok
    have hrun : (image >>= next') (f.channel c) = next' b (f.channel c₁) := by
      show EStateM.bind image next' (f.channel c) = _
      unfold EStateM.bind
      rw [hok]
    rw [hrun]
    exact hnext b c₁

theorem Follows.tryCatch {prog : ChannelM σ α} {image : ChannelM τ α} {handle : TagError → ChannelM σ α}
    {handle' : TagError → ChannelM τ α} (h : Follows f prog image)
    (hhandle : ∀ e, Follows f (handle e) (handle' e)) :
    Follows f (tryCatch prog handle) (tryCatch image handle') := by
  intro c
  rw [ends_tryCatch]
  refine (h c).mono ?_ ?_
  · intro a c' hok
    show EStateM.tryCatch image handle' (f.channel c) = _
    unfold EStateM.tryCatch
    rw [hok]
  · intro e c₁ herror
    have hrun : (MonadExcept.tryCatch image handle' : ChannelM τ α) (f.channel c)
        = handle' e (f.channel c₁) := by
      show EStateM.tryCatch image handle' (f.channel c) = _
      unfold EStateM.tryCatch
      rw [herror]
      rfl
    rw [hrun]
    exact hhandle e c₁

/-- An action may look at the channel, as far as the map keeps it. -/
theorem Follows.get_bind {next : Channel σ → ChannelM σ α} {next' : Channel τ → ChannelM τ α}
    (hnext : ∀ c, Follows f (next c) (next' (f.channel c))) :
    Follows f (get >>= next) (get >>= next') := fun c => hnext c c

theorem follows_setSession (s : Option Session) : Follows f (setSession s) (setSession s) := fun _ => rfl

theorem follows_lift (r : Except TagError α) : Follows f (lift r) (lift r) := by
  cases r with
  | ok a => exact follows_pure a
  | error e => exact follows_throw e

theorem follows_draw {take : σ → α × σ} {take' : τ → α × τ}
    (h : ∀ link, take' (f.map link) = ((take link).1, f.map (take link).2)) :
    Follows f (draw take) (draw take') := by
  intro c
  have hlink : take' (f.channel c).link = ((take c.link).1, f.map (take c.link).2) := h c.link
  rw [ends_draw]
  unfold draw
  rw [hlink]
  rfl

theorem follows_exchange (frame : Bytes) : Follows f (exchange frame) (exchange frame) := by
  intro c
  have hlink : FrameLink.exchange frame (f.channel c).link
      = ((FrameLink.exchange frame c.link).1, f.map (FrameLink.exchange frame c.link).2) :=
    f.exchange_map frame c.link
  rw [ends_exchange]
  unfold exchange
  rw [hlink]
  rcases FrameLink.exchange frame c.link with ⟨e | answer, link⟩ <;> rfl

/-! ### Frames and handshakes -/

theorem follows_authenticate (slot : UInt8) (key : Key) (verify : Bool) :
    Follows f (authenticate slot key verify) (authenticate slot key verify) := by
  unfold authenticate
  refine (follows_setSession none).bind fun _ => (follows_exchange _).bind fun answer => ?_
  refine (follows_lift _).bind fun block => (follows_draw f.drawBlock_map).bind fun rndA => ?_
  refine (follows_exchange _).bind fun answer => (follows_lift _).bind fun final => ?_
  split
  · exact fun _ => rfl
  · exact follows_throw _

theorem follows_receive (s : Session) (answer : Bytes) : Follows f (receive s answer) (receive s answer) := by
  unfold receive
  split
  · exact follows_throw _
  · exact (follows_setSession _).bind fun _ => .get_bind fun c => follows_lift _

theorem follows_transceive (frame : Bytes) : Follows f (transceive frame) (transceive frame) := by
  unfold transceive
  refine .get_bind fun c => (follows_exchange _).bind fun answer => ?_
  cases Answer.nak? answer with
  | some code => exact (follows_setSession none).bind fun _ => follows_throw _
  | none =>
    dsimp only
    rw [f.channel_session]
    cases c.session with
    | none => exact follows_pure answer
    | some s => exact follows_receive s answer

/-- **Every command goes along with the map.** -/
theorem follows_parametric :
    Parametric fun α (prog : ChannelM σ α) (image : ChannelM τ α) => Follows f prog image where
  pure := follows_pure
  throw := follows_throw
  bind := Follows.bind
  transceive := follows_transceive

/-- **What every exchange keeps, every action keeps**, however it ends. -/
theorem Follows.keeps {p : LinkProperty σ} {prog : ChannelM p.Links α} {image : ChannelM σ α}
    (h : Follows p.inclusion prog image) {c : Channel σ} (hc : p.holds c.link) :
    Ends image c (fun _ c' => p.holds c'.link) (fun _ c' => p.holds c'.link) := by
  have hrun := h ⟨⟨c.link, hc⟩, c.uid, c.session, c.verify⟩
  unfold Ends at hrun ⊢
  split at hrun
  · rw [show image c = _ from hrun]
    exact Subtype.property _
  · rw [show image c = _ from hrun]
    exact Subtype.property _

end Channel
end Nearfield
