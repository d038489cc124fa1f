/-
# Commands in a session and outside

What a channel does to the tag behind its link, command by command. The host and
the tag move through a session together: `InSession c t s n` says that both hold
the session `s` after `n` commands, and every command that the tag accepts takes
them to `n + 1` (`ends_transceive`). A handshake with the key of the slot opens
one (`ends_authenticate`).

A command that fails tells why: the link is not steady, or the tag forges its
MACs and they are verified. It leaves the tag as it was, or as the command would
have left it, in case the answer was lost or forged.

Key definitions: `Channel.Facing`, `Channel.Resting`, `Channel.InSession`,
`Channel.Kept`, `Channel.Blocked`.
Key theorems: `Channel.ends_transceive`, `Channel.ends_transceive_resting`,
`Channel.ends_authenticate`.
-/
import Nearfield.Proofs.Channel.Ends
import Nearfield.Proofs.Channel.TagLink
import Nearfield.Proofs.Tag.Handshake

namespace Nearfield
namespace Channel

variable {σ : Type} {c : Channel σ} {t : Tag} {s : Session} {n : Nat}

/-! ### The host's side -/

theorem outgoing_resting (h : c.session = none) (frame : Bytes) : c.outgoing frame = frame := by
  unfold outgoing
  rw [h]

theorem outgoing_inSession (h : c.session = some s) (frame : Bytes) :
    c.outgoing frame = s.protect frame := by
  unfold outgoing
  rw [h]

/-- The host takes the data out of an answer with a MAC. -/
theorem ends_receive (u : Tag) (data : Bytes) (hn : n < 65535) :
    Ends (receive (s.after n) (data ++ u.answerMac (s.after (n + 1)) data)) c
      (fun d c' => d = data ∧ c' = { c with session := some (s.after (n + 1)) } ∧
        (c.verify = true → u.forges = false))
      (fun _ c' => c' = { c with session := some (s.after (n + 1)) } ∧ c.verify = true ∧
        u.forges = true) := by
  unfold receive
  rw [Session.advance?_after s hn]
  dsimp only
  rw [ends_bind, ends_setSession, ends_bind, ends_get, ends_lift,
    Session.openAnswer_append _ _ _ (Tag.length_answerMac u _ data)]
  cases hforges : u.forges with
  | false =>
    rw [Tag.answerMac_honest hforges, if_neg (fun h => h.2 rfl)]
    exact ⟨rfl, rfl, fun _ => rfl⟩
  | true =>
    by_cases hverify : c.verify = true
    · rw [if_pos ⟨hverify, Tag.answerMac_forged hforges _ _⟩]
      exact ⟨rfl, hverify, rfl⟩
    · rw [if_neg (fun h => hverify h.1)]
      exact ⟨rfl, rfl, fun h => absurd h hverify⟩

/-- A negative acknowledge fails the command and ends the session. -/
theorem ends_transceive_nak [FrameLink σ] {frame : Bytes} {code : UInt8} {link : σ} {Q : Bytes → Channel σ → Prop}
    {E : TagError → Channel σ → Prop} (hcode : code ≠ Code.ack)
    (hex : FrameLink.exchange (c.outgoing frame) c.link = (.ok [code], link))
    (hE : E (Answer.nakError code) { c with link, session := none }) : Ends (transceive frame) c Q E := by
  unfold transceive
  rw [ends_bind, ends_get, ends_bind, ends_exchange, hex]
  dsimp only
  rw [Tag.nak?_refused hcode]
  exact hE

/-! ### Both sides -/

variable [TagLink σ]

/-- The tag behind the link is `t` in all that lasts. -/
def Facing (c : Channel σ) (t : Tag) : Prop :=
  ∃ u, TagLink.tag? c.link = some u ∧ u.settled = t.settled

/-- Neither side has a session. -/
def Resting (c : Channel σ) (t : Tag) : Prop :=
  c.session = none ∧ ∃ u, TagLink.tag? c.link = some u ∧ u.settled = t.settled ∧ u.state = .idle

/-- Both sides hold the session `s` after `n` commands. -/
def InSession (c : Channel σ) (t : Tag) (s : Session) (n : Nat) : Prop :=
  c.session = some (s.after n) ∧ ∃ u, TagLink.tag? c.link = some u ∧ u.settled = t.settled ∧
    u.state = .authenticated (s.after n)

theorem Resting.facing (h : Resting c t) : Facing c t := by
  obtain ⟨-, u, htag, hsettled, -⟩ := h
  exact ⟨u, htag, hsettled⟩

theorem InSession.facing (h : InSession c t s n) : Facing c t := by
  obtain ⟨-, u, htag, hsettled, -⟩ := h
  exact ⟨u, htag, hsettled⟩

/-- Host and tag hold the same session. -/
theorem InSession.of_held (hsession : c.session = some s) (htag : TagLink.tag? c.link = some t)
    (hstate : t.state = .authenticated s) : InSession c t s s.counter.toNat := by
  refine ⟨?_, t, htag, rfl, ?_⟩
  · rw [s.after_counter, hsession]
  · rw [s.after_counter, hstate]

/-- Drawing random bytes is no part of a session. -/
theorem InSession.drawn {link : σ} (h : InSession c t s n)
    (hlink : TagLink.tag? link = TagLink.tag? c.link) : InSession { c with link } t s n := by
  obtain ⟨hsession, u, htag, hu⟩ := h
  exact ⟨hsession, u, hlink.trans htag, hu⟩

/-- What every command leaves alone: the identifier, the choice whether to
verify, and a steady link. -/
structure Kept (c c' : Channel σ) : Prop where
  uid_eq : c'.uid = c.uid
  verify_eq : c'.verify = c.verify
  steady : TagLink.Steady c.link → TagLink.Steady c'.link

theorem Kept.refl (c : Channel σ) : Kept c c := ⟨rfl, rfl, id⟩

theorem Kept.trans {c c' c'' : Channel σ} (h : Kept c c') (h' : Kept c' c'') : Kept c c'' :=
  ⟨h'.uid_eq.trans h.uid_eq, h'.verify_eq.trans h.verify_eq, fun hs => h'.steady (h.steady hs)⟩

/-! ### One frame -/

/-- Steady links carry every frame and its answer. -/
theorem exchange_error_not_steady {link link' : σ} {frame : Bytes} {e : LinkError}
    (h : FrameLink.exchange frame link = (.error e, link')) : ¬ TagLink.Steady link := by
  intro hsteady
  obtain ⟨answer, link'', hok, -⟩ := TagLink.exchange_steady frame hsteady
  rw [hok] at h
  cases h

theorem exchange_ok_steady {link link' : σ} {frame answer : Bytes}
    (h : FrameLink.exchange frame link = (.ok answer, link')) (hsteady : TagLink.Steady link) :
    TagLink.Steady link' := by
  obtain ⟨answer', link'', hok, hsteady'⟩ := TagLink.exchange_steady frame hsteady
  rw [hok, Prod.mk.injEq] at h
  exact h.2 ▸ hsteady'

/-- What becomes of a frame that is sent to the tag `u`: the tag answers it, or
the link fails and the tag has not seen it, or its answer is lost. -/
theorem ends_exchange_of {u : Tag} {frame : Bytes} {Q : Bytes → Channel σ → Prop}
    {E : TagError → Channel σ → Prop} (htag : TagLink.tag? c.link = some u)
    (hok : ∀ answer u' link', u.Steps frame answer u' → TagLink.tag? link' = some u' →
      (TagLink.Steady c.link → TagLink.Steady link') → Q answer { c with link := link' })
    (hunseen : ∀ e link', ¬ TagLink.Steady c.link → TagLink.tag? link' = some u →
      E e { c with link := link' })
    (hlost : ∀ e answer u' link', ¬ TagLink.Steady c.link → u.Steps frame answer u' →
      TagLink.tag? link' = some u' → TagLink.lost? link' = some frame → E e { c with link := link' }) :
    Ends (exchange frame) c Q E := by
  rw [ends_exchange]
  rcases hex : FrameLink.exchange frame c.link with ⟨e | answer, link'⟩
  · have hunsteady := exchange_error_not_steady hex
    rcases TagLink.exchange_error hex with hsame | ⟨v, answer, u', hv, hstep, htag', hlast⟩
    · exact hunseen _ _ hunsteady (hsame.trans htag)
    · cases htag.symm.trans hv
      exact hlost _ _ _ _ hunsteady hstep htag' hlast
  · obtain ⟨v, u', hv, hstep, htag'⟩ := TagLink.exchange_ok hex
    cases htag.symm.trans hv
    exact hok _ _ _ hstep htag' (exchange_ok_steady hex)

/-! ### A command outside a session -/

/-- A command that changes nothing and is not refused. -/
theorem ends_transceive_resting {instruction : UInt8} {rest data : Bytes} (h : Resting c t)
    (hhead : instruction ≠ Code.authenticate)
    (hrun : ∀ u : Tag, u.settled = t.settled → u.runCommand none (instruction :: rest) = (data, u))
    (hnak : Answer.nak? data = none) :
    Ends (transceive (instruction :: rest)) c (fun d c' => d = data ∧ Resting c' t ∧ Kept c c')
      (fun _ c' => Facing c' t ∧ ¬ TagLink.Steady c.link) := by
  obtain ⟨hsession, u, htag, hsettled, hstate⟩ := h
  have htaken : u.taken.settled = t.settled := Tag.taken_of_settled hsettled
  have hstep : ∀ {answer u'}, u.Steps (instruction :: rest) answer u' → answer = data ∧ u' = u.taken :=
    fun hs => hs.plain hstate (fun he => hhead (Option.some.inj he)) (hrun u.taken htaken)
  unfold transceive
  rw [ends_bind, ends_get, ends_bind, outgoing_resting hsession]
  refine ends_exchange_of htag ?_ ?_ ?_
  · intro answer u' link' hs htag' hsteady
    obtain ⟨rfl, rfl⟩ := hstep hs
    rw [hnak, hsession]
    exact ⟨rfl, ⟨rfl, u.taken, htag', htaken, rfl⟩, rfl, rfl, hsteady⟩
  · intro e link' hunsteady htag'
    exact ⟨⟨u, htag', hsettled⟩, hunsteady⟩
  · intro e answer u' link' hunsteady hs htag' _
    obtain ⟨-, rfl⟩ := hstep hs
    exact ⟨⟨u.taken, htag', htaken⟩, hunsteady⟩

/-! ### A command in a session -/

/-- The only reasons for a failure in a session: frames are lost, or the tag
forges its MACs and they are verified. -/
def Blocked (c : Channel σ) (t : Tag) : Prop :=
  TagLink.Steady c.link → c.verify = true ∧ t.forges = true

theorem Blocked.of_kept {c' : Channel σ} (h : Blocked c' t) (hkept : Kept c c') : Blocked c t := by
  intro hsteady
  have := h (hkept.steady hsteady)
  rwa [hkept.verify_eq] at this

/-- A tag that does not forge fails on no steady link. -/
theorem Blocked.not_steady (h : Blocked c t) (hforges : t.forges = false) :
    ¬ TagLink.Steady c.link := by
  intro hsteady
  have := (h hsteady).2
  rw [hforges] at this
  cases this

/-- **A command that the tag runs takes both sides to the next turn.** -/
theorem ends_transceive {instruction : UInt8} {rest data : Bytes} {m : Memory} (h : InSession c t s n)
    (hn : n < 65535) (hhead : instruction ≠ Code.authenticate)
    (hrun : ∀ u : Tag, u.settled = t.settled →
      u.runCommand (some s.slot) (instruction :: rest) = (data, { u with memory := m }))
    (hnak : Answer.nak? data = none) :
    Ends (transceive (instruction :: rest)) c
      (fun d c' => d = data ∧ InSession c' { t with memory := m } s (n + 1) ∧ Kept c c' ∧
        (c.verify = true → t.forges = false))
      (fun _ c' => Blocked c t ∧ (Facing c' t ∨
        (Facing c' { t with memory := m } ∧ ((c.verify = true ∧ t.forges = true) ∨
          TagLink.lost? c'.link = some ((s.after n).protect (instruction :: rest)))))) := by
  obtain ⟨hsession, u, htag, hsettled, hstate⟩ := h
  have hforges : u.forges = t.forges := Tag.forges_of_settled hsettled
  have htaken : u.taken.settled = t.settled := Tag.taken_of_settled hsettled
  have hmemory : Tag.settled { u.taken with memory := m } = Tag.settled { t with memory := m } :=
    (u.settled_written m).trans (congrArg (fun v : Tag => { v with memory := m }) hsettled :)
  have hprotected : ((s.after n).protect (instruction :: rest)).head? ≠ some Code.authenticate := by
    rw [Session.head?_protect]
    exact fun he => hhead (Option.some.inj he)
  have hstep : ∀ {answer u'}, u.Steps ((s.after n).protect (instruction :: rest)) answer u' →
      answer = data ++ Tag.answerMac { u.taken with memory := m } (s.after (n + 1)) data ∧
        u' = { u.taken with memory := m, state := .authenticated (s.after (n + 1)) } := fun hs =>
    hs.secured hstate hprotected (Session.advance?_after s hn) (hrun u.taken htaken) hnak
  unfold transceive
  rw [ends_bind, ends_get, ends_bind, outgoing_inSession hsession]
  refine ends_exchange_of htag ?_ ?_ ?_
  · intro answer u' link' hs htag' hsteady
    obtain ⟨rfl, rfl⟩ := hstep hs
    have hlen :
        (data ++ Tag.answerMac { u.taken with memory := m } (s.after (n + 1)) data).length ≠ 1 := by
      rw [List.length_append, Tag.length_answerMac]
      simp only [Cmac.truncatedSize]
      omega
    rw [Tag.nak?_of_length hlen, hsession]
    have hfacing : InSession { c with link := link', session := some (s.after (n + 1)) }
        { t with memory := m } s (n + 1) := ⟨rfl, _, htag', hmemory, rfl⟩
    refine (ends_receive _ _ hn).mono ?_ ?_
    · intro d c' hend
      obtain ⟨rfl, rfl, hhonest⟩ := hend
      exact ⟨rfl, hfacing, ⟨rfl, rfl, hsteady⟩, fun hv => hforges ▸ hhonest hv⟩
    · intro e c' hend
      obtain ⟨rfl, hverify, hforged⟩ := hend
      exact ⟨fun _ => ⟨hverify, hforges ▸ hforged⟩,
        Or.inr ⟨hfacing.facing, Or.inl ⟨hverify, hforges ▸ hforged⟩⟩⟩
  · intro e link' hunsteady htag'
    exact ⟨fun hs => absurd hs hunsteady, Or.inl ⟨u, htag', hsettled⟩⟩
  · intro e answer u' link' hunsteady hs htag' hlost
    obtain ⟨-, rfl⟩ := hstep hs
    exact ⟨fun h => absurd h hunsteady, Or.inr ⟨⟨_, htag', hmemory⟩, Or.inr hlost⟩⟩

/-! ### A handshake -/

/-- The tag behind the link is not in the middle of a handshake. -/
def Ready (c : Channel σ) (t : Tag) : Prop :=
  ∃ u, TagLink.tag? c.link = some u ∧ u.settled = t.settled ∧ u.Unchallenged

theorem Resting.ready (h : Resting c t) : Ready c t := by
  obtain ⟨-, u, htag, hsettled, hstate⟩ := h
  exact ⟨u, htag, hsettled, .of_idle hstate⟩

theorem InSession.ready (h : InSession c t s n) : Ready c t := by
  obtain ⟨-, u, htag, hsettled, hstate⟩ := h
  exact ⟨u, htag, hsettled, .of_authenticated hstate⟩

/-- A handshake for a slot ended well: whatever the key was, nothing changed
that lasts, and with the key of the slot both sides hold a new session. -/
structure Opened (c c' : Channel σ) (t : Tag) (slot : UInt8) (key : Key) (verify : Bool) : Prop where
  ready : Ready c' t
  session : key = t.key slot → ∃ s : Session, s.slot = slot ∧ InSession c' t s 0
  uid_eq : c'.uid = c.uid
  verify_eq : c'.verify = verify
  steady : TagLink.Steady c.link → TagLink.Steady c'.link

/-- A handshake failed: the host has no session, and on a steady link the key,
the slot or the product was wrong. -/
structure Failed (c c' : Channel σ) (t : Tag) (slot : UInt8) (key : Key) : Prop where
  facing : Facing c' t
  session_eq : c'.session = none
  cause : TagLink.Steady c.link → key = t.key slot → slot ≤ uidSlot → t.model ≠ .ultralightAes

/-- The second half of a handshake, after the challenge `rndB'` that the host
read as `rndB`. -/
theorem ends_prove {u : Tag} {slot : UInt8} {key : Key} {verify : Bool} {rndA rndB rndB' : Block}
    (htag : TagLink.tag? c.link = some u) (hsettled : u.settled = t.settled)
    (hstate : u.state = .challenged slot rndB') (hsession : c.session = none)
    (hread : key = t.key slot → rndB = rndB') :
    Ends (do
        let answer ← exchange (Tag.proofFrame key rndA rndB)
        let final ← lift (Answer.final answer)
        if Aes.decrypt key final = rndA.rotateLeft then
          modify fun c => { c with session := some (Session.establish key slot rndA rndB), verify }
        else throw .tagRejected) c
      (fun _ c' => Opened c c' t slot key verify) (fun _ c' => Failed c c' t slot key) := by
  have htaken : u.taken.settled = t.settled := Tag.taken_of_settled hsettled
  have hkey : u.key slot = t.key slot := Tag.key_of_settled hsettled slot
  rw [ends_bind]
  refine ends_exchange_of htag ?_ ?_ ?_
  · intro answer u' link' hs htag' hsteady
    rw [ends_bind]
    rcases hs.answers.challenged_cases hstate with ⟨hnak, rfl⟩ | ⟨rndA', htoken, rfl, rfl⟩
    · -- the tag refused, so the key was not its own
      obtain ⟨e, hfinal⟩ := Answer.final_nak hnak
      refine Ends.lift (fun b hb => ?_) (fun e _ => ⟨⟨_, htag', htaken⟩, hsession, ?_⟩)
      · rw [hfinal] at hb
        cases hb
      · intro _ hright _ _
        subst hright
        rw [hread rfl, ← hkey] at hs
        exact hnak (by rw [(hs.prove hstate).1]; rfl)
    · -- the tag has opened a session, and the host checks its proof
      rw [ends_lift, Answer.final_mark]
      have hready : ∀ c' : Channel σ, c'.link = link' → Ready c' t := by
        intro c' hlink
        subst hlink
        exact ⟨_, htag', htaken, .of_authenticated rfl⟩
      have hagree : key = t.key slot → rndB = rndB' ∧ rndA' = rndA := by
        intro hright
        rw [hkey, ← hright, Tag.openToken?_proofFrame, Option.some.injEq, Prod.mk.injEq] at htoken
        exact ⟨hread hright, htoken.1.symm⟩
      by_cases hproof : Aes.decrypt key (Aes.encrypt (u.key slot) rndA'.rotateLeft) = rndA.rotateLeft
      · dsimp only
        rw [if_pos hproof, ends_modify]
        refine ⟨hready _ rfl, fun hright => ?_, rfl, rfl, hsteady⟩
        obtain ⟨rfl, rfl⟩ := hagree hright
        refine ⟨Session.establish key slot rndA' rndB, rfl, rfl, _, htag', htaken, ?_⟩
        rw [← Session.establish_eq_after, hkey, ← hright]
      · dsimp only
        rw [if_neg hproof, ends_throw]
        obtain ⟨v, htag'', hsettled'', -⟩ := hready { c with link := link' } rfl
        refine ⟨⟨v, htag'', hsettled''⟩, hsession, fun _ hright _ _ => hproof ?_⟩
        rw [(hagree hright).2, hkey, ← hright, Aes.decrypt_encrypt]
  · intro e link' hunsteady htag'
    exact ⟨⟨u, htag', hsettled⟩, hsession, fun h => absurd h hunsteady⟩
  · intro e answer u' link' hunsteady hs htag' _
    refine ⟨?_, hsession, fun h => absurd h hunsteady⟩
    rcases hs.answers.challenged_cases hstate with ⟨-, rfl⟩ | ⟨rndA', -, -, rfl⟩ <;>
      exact ⟨_, htag', htaken⟩

/-- **A handshake opens a session on both sides**, or leaves the host without
one. -/
theorem ends_authenticate (slot : UInt8) (key : Key) (verify : Bool) (h : Ready c t) :
    Ends (authenticate slot key verify) c
      (fun _ c' => Opened c c' t slot key verify) (fun _ c' => Failed c c' t slot key) := by
  obtain ⟨u, htag, hsettled, hready⟩ := h
  have htaken : u.taken.settled = t.settled := Tag.taken_of_settled hsettled
  have hkey : u.key slot = t.key slot := Tag.key_of_settled hsettled slot
  have hmodel : u.model = t.model := Tag.model_of_settled hsettled
  unfold authenticate
  rw [ends_bind, ends_setSession, ends_bind]
  refine ends_exchange_of htag ?_ ?_ ?_
  · intro answer u' link' hs htag' hsteady
    rw [ends_bind]
    rcases hs.answers.authenticate_cases with ⟨hnak, rfl⟩ | ⟨-, -, rndB, rfl, rfl⟩
    · -- the tag refused, so it does not have the slot
      obtain ⟨e, hchallenge⟩ := Answer.challenge_nak hnak
      refine Ends.lift (fun b hb => ?_) (fun e _ => ⟨⟨_, htag', htaken⟩, rfl, ?_⟩)
      · rw [hchallenge] at hb
        cases hb
      · intro _ _ hslot hproduct
        obtain ⟨rndB, rfl, -⟩ := hs.challenge hready (hmodel.trans hproduct) hslot
        exact hnak rfl
    · rw [ends_lift, Answer.challenge_mark]
      dsimp only
      rw [ends_bind, ends_draw]
      have hdrawn := (TagLink.tag?_drawBlock link').trans htag'
      have hsettled' : Tag.settled { u.taken with state := .challenged slot rndB } = t.settled := htaken
      refine (ends_prove hdrawn hsettled' rfl rfl fun hright => ?_).mono ?_ ?_
      · rw [hkey, ← hright, Aes.decrypt_encrypt]
      · intro _ c' h
        exact ⟨h.ready, h.session, h.uid_eq, h.verify_eq,
          fun hs => h.steady (TagLink.steady_drawBlock (hsteady hs))⟩
      · intro _ c' h
        exact ⟨h.facing, h.session_eq, fun hs => h.cause (TagLink.steady_drawBlock (hsteady hs))⟩
  · intro e link' hunsteady htag'
    exact ⟨⟨u, htag', hsettled⟩, rfl, fun h => absurd h hunsteady⟩
  · intro e answer u' link' hunsteady hs htag' _
    refine ⟨?_, rfl, fun h => absurd h hunsteady⟩
    rcases hs.answers.authenticate_cases with ⟨-, rfl⟩ | ⟨-, -, rndB, -, rfl⟩ <;>
      exact ⟨_, htag', htaken⟩

/-- On a steady link nothing is wrong with a handshake for a slot of the tag but the
key. -/
theorem ends_authenticate_denied {slot : UInt8} (key : Key) (verify : Bool) (h : Ready c t)
    (hsteady : TagLink.Steady c.link) (hmodel : t.model = .ultralightAes) (hslot : slot ≤ uidSlot) :
    Ends (authenticate slot key verify) c (fun _ _ => True) fun e _ => e.classify = .authFailed := by
  obtain ⟨u, htag, hsettled, hready⟩ := h
  have hproduct : u.model = .ultralightAes := (Tag.model_of_settled hsettled).trans hmodel
  unfold authenticate
  rw [ends_bind, ends_setSession, ends_bind]
  refine ends_exchange_of htag ?_ ?_ ?_
  · intro answer u' link' hs htag' hsteady'
    obtain ⟨rndB, rfl, rfl⟩ := hs.challenge hready hproduct hslot
    rw [ends_bind, ends_lift, Answer.challenge_mark]
    dsimp only
    rw [ends_bind, ends_draw, ends_bind]
    have hdrawn := (TagLink.tag?_drawBlock link').trans htag'
    have hsteady'' := TagLink.steady_drawBlock (hsteady' hsteady)
    refine ends_exchange_of hdrawn ?_ ?_ ?_
    · intro answer u'' link'' hs' _ _
      rw [ends_bind]
      rcases hs'.prove_cases rfl with rfl | ⟨b, rfl⟩
      · exact Ends.lift (fun _ hb => nomatch hb) fun e he => by cases he; rfl
      · rw [ends_lift, Answer.final_mark]
        dsimp only
        split
        · trivial
        · rfl
    · intro e link'' hunsteady _
      exact absurd hsteady'' hunsteady
    · intro e answer u'' link'' hunsteady _ _ _
      exact absurd hsteady'' hunsteady
  · intro e link' hunsteady _
    exact absurd hsteady hunsteady
  · intro e answer u' link' hunsteady _ _ _
    exact absurd hsteady hunsteady

end Channel
end Nearfield
