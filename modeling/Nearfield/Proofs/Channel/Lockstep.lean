/-
# Host and tag move in step

Any commands on one channel to a tag that was just activated, with the tag's own
keys: raw frames, pages that do not exist, and handshakes in the middle of a
session included. Whenever the host has a session, the tag is in the same one
(`Paired`). When the tag refuses a frame, that frame is the last of its command,
and neither side has a session afterwards (`Ended`). Both are kept by every
frame, so by every command (`InStep`) and every sequence of them (`lockstep`).

The tag may forge its MACs and may leave. The link writes down what the host has
sent and got, so that refusals can be seen from outside a command; without its
journal every command ends in the same way (`afterSteps_unrecorded`).

Key definitions: `Channel.Paired`, `Channel.InStep`, `Channel.Allowed`,
`Channel.afterSteps`.
Key theorems: `Channel.inStep_transceive`, `Channel.inStep_authenticate`,
`Channel.afterSteps_unrecorded`, `Channel.lockstep`.
-/
import Nearfield.Bench.Drill
import Nearfield.Proofs.Channel.Recorded
import Nearfield.Proofs.Channel.Sessions
import Nearfield.Proofs.Transactions

namespace Nearfield

/-- The tag has refused the frame. -/
def Refusal (e : Exchanged) : Prop := ∃ answer, e.2 = .ok answer ∧ Answer.nak? answer ≠ none

namespace Channel

section
variable {ρ α β : Type} {t : Tag}

/-- Host and tag: the tag has the keys of `t`, and whenever the host has a
session, the tag is in that session. -/
def Paired (t : Tag) (c : Channel (Recorded (Contact ρ))) : Prop :=
  ∃ u, c.link.link.field.tag = some u ∧ (∀ slot, u.key slot = t.key slot) ∧
    ∀ s, c.session = some s → u.state = .authenticated s

/-- No frame has been refused since `c`. -/
def Accepted (c c' : Channel (Recorded (Contact ρ))) : Prop :=
  ∃ sent, c'.link.journal = sent ++ c.link.journal ∧ ∀ e ∈ sent, ¬ Refusal e

/-- The last frame since `c` was refused, none before it was, and neither side
has a session. -/
def Ended (c c' : Channel (Recorded (Contact ρ))) : Prop :=
  ∃ e sent, c'.link.journal = e :: sent ++ c.link.journal ∧ Refusal e ∧ (∀ e ∈ sent, ¬ Refusal e) ∧
    c'.session = none ∧ ∃ u, c'.link.link.field.tag = some u ∧ u.state = .idle

theorem Accepted.refl (c : Channel (Recorded (Contact ρ))) : Accepted c c :=
  ⟨[], rfl, fun _ h => absurd h List.not_mem_nil⟩

/-- One more frame that was not refused. -/
theorem Accepted.cons {c c' : Channel (Recorded (Contact ρ))} {e : Exchanged} (he : ¬ Refusal e)
    (h : c'.link.journal = e :: c.link.journal) : Accepted c c' := by
  refine ⟨[e], h, fun e' he' => ?_⟩
  rw [List.mem_singleton.mp he']
  exact he

theorem Accepted.trans {c c' c'' : Channel (Recorded (Contact ρ))} (h : Accepted c c')
    (h' : Accepted c' c'') : Accepted c c'' := by
  obtain ⟨sent, hsent, haccepted⟩ := h
  obtain ⟨sent', hsent', haccepted'⟩ := h'
  refine ⟨sent' ++ sent, by rw [hsent', hsent, List.append_assoc], fun e he => ?_⟩
  rcases List.mem_append.mp he with he | he
  · exact haccepted' e he
  · exact haccepted e he

theorem Accepted.ended {c c' c'' : Channel (Recorded (Contact ρ))} (h : Accepted c c')
    (h' : Ended c' c'') : Ended c c'' := by
  obtain ⟨sent, hsent, haccepted⟩ := h
  obtain ⟨e, sent', hsent', hrefusal, haccepted', hboth⟩ := h'
  refine ⟨e, sent' ++ sent, ?_, hrefusal, fun e he => ?_, hboth⟩
  · rw [hsent', hsent, List.cons_append, List.cons_append, List.append_assoc]
  · rcases List.mem_append.mp he with he | he
    · exact haccepted' e he
    · exact haccepted e he

/-- An action that keeps both sides in step, and ends with the first refusal. -/
def InStep (t : Tag) (prog : ChannelM (Recorded (Contact ρ)) α) : Prop :=
  ∀ c, Paired t c → Ends prog c (fun _ c' => Paired t c' ∧ Accepted c c')
    (fun _ c' => Paired t c' ∧ (Accepted c c' ∨ Ended c c'))

/-! ### Putting actions together -/

theorem inStep_pure (a : α) : InStep t (pure a : ChannelM (Recorded (Contact ρ)) α) :=
  fun c h => ⟨h, Accepted.refl c⟩

theorem inStep_throw (e : TagError) : InStep t (throw e : ChannelM (Recorded (Contact ρ)) α) :=
  fun c h => ⟨h, Or.inl (Accepted.refl c)⟩

theorem InStep.bind {prog : ChannelM (Recorded (Contact ρ)) β}
    {next : β → ChannelM (Recorded (Contact ρ)) α} (h : InStep t prog)
    (hnext : ∀ b, InStep t (next b)) : InStep t (prog >>= next) := by
  intro c hc
  refine (h c hc).bind (fun _ _ h => h) fun b c₁ h₁ => ?_
  obtain ⟨hpaired, haccepted⟩ := h₁
  refine (hnext b c₁ hpaired).mono ?_ ?_
  · intro a c' h'
    exact ⟨h'.1, haccepted.trans h'.2⟩
  · intro e c' h'
    obtain ⟨hpaired', haccepted' | hended⟩ := h'
    · exact ⟨hpaired', Or.inl (haccepted.trans haccepted')⟩
    · exact ⟨hpaired', Or.inr (haccepted.ended hended)⟩

/-- Without a session the host is in step with any tag that has the keys. -/
theorem Paired.of_none {c : Channel (Recorded (Contact ρ))} {u : Tag} (hsession : c.session = none)
    (htag : c.link.link.field.tag = some u) (hkeys : ∀ slot, u.key slot = t.key slot) : Paired t c := by
  refine ⟨u, htag, hkeys, fun s hs => ?_⟩
  rw [hsession] at hs
  cases hs

/-- A refused frame that leaves the host without a session. -/
theorem Ended.of_refused {c c' : Channel (Recorded (Contact ρ))} {u : Tag} {frame answer : Bytes}
    (hjournal : c'.link.journal = (frame, .ok answer) :: c.link.journal)
    (hnak : Answer.nak? answer ≠ none) (hsession : c'.session = none)
    (htag : c'.link.link.field.tag = some u) (hidle : u.state = .idle) : Ended c c' :=
  ⟨_, [], hjournal, ⟨answer, rfl, hnak⟩, fun _ he => absurd he List.not_mem_nil, hsession, u, htag,
    hidle⟩

/-! ### Frames -/

variable [RandomSource ρ]

/-- What becomes of a frame, and what is written down. -/
theorem ends_exchange_recorded {c : Channel (Recorded (Contact ρ))} {u : Tag} {frame : Bytes}
    {Q : Bytes → Channel (Recorded (Contact ρ)) → Prop}
    {E : TagError → Channel (Recorded (Contact ρ)) → Prop} (htag : c.link.link.field.tag = some u)
    (hok : ∀ answer u' (link' : Recorded (Contact ρ)), u.Steps frame answer u' →
      link'.link.field.tag = some u' → link'.journal = (frame, .ok answer) :: c.link.journal →
      Q answer { c with link := link' })
    (herror : ∀ e (link' : Recorded (Contact ρ)), link'.link.field.tag = some u →
      link'.journal = (frame, .error e) :: c.link.journal → E (.link e) { c with link := link' }) :
    Ends (exchange frame) c Q E := by
  rw [ends_exchange, Recorded.exchange_eq]
  rcases hex : FrameLink.exchange frame c.link.link with ⟨e | answer, contact⟩
  · obtain ⟨-, rfl⟩ := Contact.exchange_error hex
    exact herror e _ htag rfl
  · obtain ⟨v, u', hv, hstep, htag'⟩ := Contact.exchange_ok hex
    cases htag.symm.trans hv
    exact hok answer u' _ hstep htag' rfl

theorem not_refusal_error (frame : Bytes) (e : LinkError) : ¬ Refusal (frame, .error e) := by
  intro h
  obtain ⟨answer, hanswer, -⟩ := h
  cases hanswer

theorem not_refusal_ok {frame answer : Bytes} (h : Answer.nak? answer = none) :
    ¬ Refusal (frame, .ok answer) := by
  intro hrefusal
  obtain ⟨answer', hanswer, hnak⟩ := hrefusal
  cases hanswer
  exact hnak h

/-- None of the answers in a journal without refusals is a refusal. -/
theorem nak?_of_accepted {sent later earlier : List Exchanged} {frame answer : Bytes}
    (h : ∀ e ∈ sent, ¬ Refusal e) (hsent : sent = later ++ (frame, .ok answer) :: earlier) :
    Answer.nak? answer = none := by
  by_contra hnak
  refine h (frame, .ok answer) ?_ ⟨answer, rfl, hnak⟩
  rw [hsent]
  exact List.mem_append_right _ List.mem_cons_self

/-- **One command**, whatever its frame. -/
theorem inStep_transceive (frame : Bytes) :
    InStep t (transceive frame : ChannelM (Recorded (Contact ρ)) Bytes) := by
  intro c hc
  obtain ⟨u, htag, hkeys, hsame⟩ := hc
  unfold transceive
  rw [ends_bind, ends_get, ends_bind]
  refine ends_exchange_recorded htag ?_ ?_
  · intro answer u' link' hstep htag' hjournal
    have hkeys' : ∀ slot, u'.key slot = t.key slot := fun slot =>
      (hstep.answers.key_eq slot).trans (hkeys slot)
    cases hnak : Answer.nak? answer with
    | some code =>
      dsimp only
      have hrefusal : Answer.nak? answer ≠ none := by rw [hnak]; exact Option.some_ne_none code
      have hidle := hstep.answers.idle_of_nak hrefusal
      rw [ends_bind, ends_setSession, ends_throw]
      exact ⟨.of_none rfl htag' hkeys', Or.inr (.of_refused hjournal hrefusal rfl htag' hidle)⟩
    | none =>
      dsimp only
      cases hsession : c.session with
      | none =>
        dsimp only
        rw [ends_pure]
        exact ⟨.of_none rfl htag' hkeys', .cons (not_refusal_ok hnak) hjournal⟩
      | some s =>
        dsimp only
        rw [outgoing_inSession hsession] at hstep
        obtain ⟨next, hnext, hstate⟩ := hstep.answers.advanced (hsame s hsession) hnak
        unfold receive
        rw [hnext]
        dsimp only
        rw [ends_bind, ends_setSession, ends_bind, ends_get]
        have hpaired : Paired t { c with link := link', session := some next } :=
          ⟨u', htag', hkeys', fun s hs => by cases hs; exact hstate⟩
        have haccepted : Accepted c { c with link := link', session := some next } :=
          .cons (not_refusal_ok hnak) hjournal
        exact Ends.lift (fun _ _ => ⟨hpaired, haccepted⟩) fun _ _ => ⟨hpaired, Or.inl haccepted⟩
  · intro e link' htag' hjournal
    exact ⟨⟨u, htag', hkeys, hsame⟩, Or.inl (.cons (not_refusal_error _ e) hjournal)⟩

/-- The second half of a handshake with the key of the slot. -/
theorem inStep_prove {c : Channel (Recorded (Contact ρ))} {u : Tag} {slot : UInt8} {verify : Bool}
    {rndA rndB : Block} (htag : c.link.link.field.tag = some u) (hkeys : ∀ slot, u.key slot = t.key slot)
    (hstate : u.state = .challenged slot rndB) (hsession : c.session = none) :
    Ends (do
        let answer ← exchange (Tag.proofFrame (t.key slot) rndA rndB)
        let final ← lift (Answer.final answer)
        if Aes.decrypt (t.key slot) final = rndA.rotateLeft then
          modify fun c =>
            { c with session := some (Session.establish (t.key slot) slot rndA rndB), verify }
        else throw .tagRejected) c
      (fun _ c' => Paired t c' ∧ Accepted c c')
      (fun _ c' => Paired t c' ∧ (Accepted c c' ∨ Ended c c')) := by
  rw [ends_bind]
  refine ends_exchange_recorded htag ?_ ?_
  · intro answer u' link' hstep htag' hjournal
    have hkeys' : ∀ slot, u'.key slot = t.key slot := fun slot =>
      (hstep.answers.key_eq slot).trans (hkeys slot)
    rw [ends_bind]
    rw [← hkeys] at hstep ⊢
    obtain ⟨rfl, rfl⟩ := hstep.prove hstate
    rw [ends_lift, Answer.final_mark]
    dsimp only
    rw [if_pos (Aes.decrypt_encrypt _ _), ends_modify]
    exact ⟨⟨_, htag', hkeys', fun s hs => by cases hs; rfl⟩, .cons (not_refusal_ok rfl) hjournal⟩
  · intro e link' htag' hjournal
    exact ⟨.of_none hsession htag' hkeys, Or.inl (.cons (not_refusal_error _ e) hjournal)⟩

/-- **One handshake** with the key of the slot, or for a slot that no tag has. -/
theorem inStep_authenticate {slot : UInt8} {key : Key} (verify : Bool)
    (hkey : key = t.key slot ∨ uidSlot < slot) :
    InStep t (authenticate slot key verify : ChannelM (Recorded (Contact ρ)) Unit) := by
  intro c hc
  obtain ⟨u, htag, hkeys, -⟩ := hc
  unfold authenticate
  rw [ends_bind, ends_setSession, ends_bind]
  refine ends_exchange_recorded htag ?_ ?_
  · intro answer u' link' hstep htag' hjournal
    have hkeys' : ∀ slot, u'.key slot = t.key slot := fun slot =>
      (hstep.answers.key_eq slot).trans (hkeys slot)
    rw [ends_bind]
    rcases hstep.answers.authenticate_cases with ⟨hnak, rfl⟩ | ⟨-, hslot, rndB, rfl, rfl⟩
    · -- the tag does not have the slot, or was in the middle of a handshake
      obtain ⟨e, hchallenge⟩ := Answer.challenge_nak hnak
      rw [hchallenge]
      exact ⟨.of_none rfl htag' hkeys', Or.inr (.of_refused hjournal hnak rfl htag' rfl)⟩
    · obtain rfl : key = t.key slot := hkey.resolve_right (UInt8.not_lt.mpr hslot)
      rw [ends_lift, Answer.challenge_mark]
      dsimp only
      rw [hkeys, Aes.decrypt_encrypt, ends_bind, ends_draw, Recorded.drawBlock_eq]
      have hdrawn := (TagLink.tag?_drawBlock link'.link).trans htag'
      have haccepted : Accepted c ⟨⟨(drawBlock link'.link).2, link'.journal⟩, c.uid, none, c.verify⟩ :=
        .cons (not_refusal_ok rfl) hjournal
      refine (inStep_prove hdrawn hkeys' rfl rfl).mono ?_ ?_
      · intro _ c' h
        exact ⟨h.1, haccepted.trans h.2⟩
      · intro _ c' h
        exact ⟨h.1, h.2.imp haccepted.trans haccepted.ended⟩
  · intro e link' htag' hjournal
    exact ⟨.of_none rfl htag' hkeys, Or.inl (.cons (not_refusal_error _ e) hjournal)⟩

/-! ### Commands -/

theorem inStep_parametric :
    Parametric fun α (prog : ChannelM (Recorded (Contact ρ)) α)
      (_ : ChannelM (Recorded (Contact ρ)) α) => InStep t prog where
  pure := inStep_pure
  throw := inStep_throw
  bind := InStep.bind
  transceive := inStep_transceive

open Bench in
/-- Handshakes are made with the key that the tag has in the slot, or for a slot
that it does not have; nothing is asked of other commands. -/
def Allowed (t : Tag) : ChannelStep → Prop
  | .authenticate slot key _ => key = t.key slot ∨ uidSlot < slot
  | _ => True

open Bench in
/-- **Every command keeps both sides in step.** -/
theorem inStep_run {step : ChannelStep} (h : Allowed t step) :
    InStep t (step.run : ChannelM (Recorded (Contact ρ)) ChannelValue) := by
  refine inStep_parametric.run step ?_
  intro slot key verify hstep
  rw [hstep] at h
  exact inStep_authenticate verify h

/-! ### Sequences of commands -/

/-- The channel that an action leaves behind, however it ends. -/
def left {σ : Type} : EStateM.Result TagError (Channel σ) α → Channel σ
  | .ok _ c => c
  | .error _ c => c

open Bench in
/-- The channel after commands, whatever each of them has returned. -/
def afterSteps {σ : Type} [FrameLink σ] (c : Channel σ) (steps : List ChannelStep) : Channel σ :=
  steps.foldl (fun c step => left (step.run c)) c

theorem Ends.left {σ : Type} {prog : ChannelM σ α} {c : Channel σ} {P : Channel σ → Prop}
    (h : Ends prog c (fun _ c' => P c') (fun _ c' => P c')) : P (left (prog c)) := by
  unfold Channel.left
  cases hrun : prog c with
  | ok a c' => exact h.ok hrun
  | error e c' => exact h.error hrun

open Bench in
/-- Without the journal all commands end in the same way. -/
theorem afterSteps_unrecorded {σ : Type} [FrameLink σ] : ∀ (steps : List ChannelStep)
    (c : Channel (Recorded σ)), (afterSteps c steps).unrecorded = afterSteps c.unrecorded steps
  | [], _ => rfl
  | step :: rest, c => by
    have hnext : (left (step.run c)).unrecorded = left (step.run c.unrecorded) := by
      have hmirrors := mirrors_run step c
      cases hrun : step.run c with
      | ok a c' => rw [hmirrors.ok hrun]; rfl
      | error e c' => rw [hmirrors.error hrun]; rfl
    exact (afterSteps_unrecorded rest _).trans (congrArg (afterSteps · rest) hnext)

open Bench in
theorem paired_afterSteps : ∀ (steps : List ChannelStep) {c : Channel (Recorded (Contact ρ))},
    Paired t c → (∀ step ∈ steps, Allowed t step) → Paired t (afterSteps c steps)
  | [], _, h, _ => h
  | step :: rest, c, h, hallowed => by
    have hnext : Paired t (left (step.run c)) :=
      ((inStep_run (hallowed step List.mem_cons_self) c h).mono (fun _ _ h => h.1)
        fun _ _ h => h.1).left
    exact paired_afterSteps rest hnext fun s hs => hallowed s (List.mem_cons_of_mem _ hs)

/-- A handshake that fails leaves the host without a session, on any link and
whatever session there was. -/
theorem authenticate_error {σ : Type} [FrameLink σ] (slot : UInt8) (key : Key) (verify : Bool)
    (c : Channel σ) :
    Ends (authenticate slot key verify) c (fun _ _ => True) (fun _ c' => c'.session = none) := by
  have hexchange : ∀ (frame : Bytes) (c : Channel σ), c.session = none →
      Ends (exchange frame) c (fun _ c' => c'.session = none) (fun _ c' => c'.session = none) := by
    intro frame c hnone
    rw [ends_exchange]
    split <;> exact hnone
  unfold authenticate
  rw [ends_bind, ends_setSession]
  refine (hexchange _ _ rfl).bind (fun _ _ h => h) fun answer c₁ h₁ => ?_
  rw [ends_bind]
  refine Ends.lift (fun block _ => ?_) fun _ _ => h₁
  rw [ends_bind, ends_draw]
  have hdrawn : Channel.session { c₁ with link := (drawBlock c₁.link).2 } = none := h₁
  refine (hexchange _ _ hdrawn).bind (fun _ _ h => h) fun answer c₂ h₂ => ?_
  rw [ends_bind]
  refine Ends.lift (fun final _ => ?_) fun _ _ => h₂
  split
  · exact trivial
  · exact h₂

open Bench in
/-- **Host and tag stay in step.** After any allowed commands on a channel to a
tag that was activated for it, and one more: if the host has a session, the tag
is in the same one, with the same key, slot and counter. If the tag has refused
a frame of that command, it was the last one, the command has failed, and
neither side has a session. And a handshake that fails, with whatever key,
leaves the host without one. -/
theorem lockstep {station : Station ρ} {uid : Bytes} {contact : Contact ρ}
    (htag : station.field.tag = some t) (hcontact : station.contact? = some (uid, contact))
    (steps : List ChannelStep) (step : ChannelStep) (hallowed : ∀ s ∈ step :: steps, Allowed t s) :
    let c := afterSteps (Channel.new uid (⟨contact, []⟩ : Recorded (Contact ρ))) steps
    let c' := left (step.run c)
    ∃ u, c'.link.link.field.tag = some u ∧
      (∀ s, c'.session = some s → u.state = .authenticated s) ∧
      (∃ sent, c'.link.journal = sent ++ c.link.journal ∧
        ∀ later frame answer earlier, sent = later ++ (frame, .ok answer) :: earlier →
          Answer.nak? answer ≠ none →
          later = [] ∧ (∃ e, step.run c = .error e c') ∧ c'.session = none ∧ u.state = .idle) ∧
      ∀ slot key verify e c'', authenticate slot key verify c = .error e c'' → c''.session = none := by
  intro c c'
  obtain ⟨v, hv, hsettled, hidle, -, -⟩ := Station.resting_contact htag hcontact
  have hfirst : Paired t (Channel.new uid (⟨contact, []⟩ : Recorded (Contact ρ))) :=
    .of_none rfl hv fun slot => Tag.key_of_settled hsettled slot
  have hc : Paired t c :=
    paired_afterSteps steps hfirst fun s hs => hallowed s (List.mem_cons_of_mem _ hs)
  have hfailed : ∀ slot key verify e c'', authenticate slot key verify c = .error e c'' →
      c''.session = none :=
    fun slot key verify e c'' hrun => (authenticate_error slot key verify c).error hrun
  have hends := inStep_run (hallowed step List.mem_cons_self) c hc
  cases hrun : step.run c with
  | ok value d =>
    have hd : c' = d := congrArg left hrun
    obtain ⟨⟨u, hu, -, hsame⟩, sent, hsent, hnone⟩ := hends.ok hrun
    rw [hd]
    refine ⟨u, hu, hsame, ⟨sent, hsent, fun later frame answer earlier h hnak => ?_⟩, hfailed⟩
    exact absurd (nak?_of_accepted hnone h) hnak
  | error e d =>
    have hd : c' = d := congrArg left hrun
    obtain ⟨⟨u, hu, -, hsame⟩, ⟨sent, hsent, hnone⟩ | hended⟩ := hends.error hrun
    · rw [hd]
      refine ⟨u, hu, hsame, ⟨sent, hsent, fun later frame answer earlier h hnak => ?_⟩, hfailed⟩
      exact absurd (nak?_of_accepted hnone h) hnak
    · obtain ⟨refused, sent, hsent, -, hnone, hsession, w, hw, hidle⟩ := hended
      cases hu.symm.trans hw
      rw [hd]
      refine ⟨u, hu, hsame, ⟨refused :: sent, hsent, ?_⟩, hfailed⟩
      intro later frame answer earlier h hnak
      cases later with
      | nil => exact ⟨rfl, ⟨e, rfl⟩, hsession, hidle⟩
      | cons first later =>
        -- the frames before the refused one were accepted
        have hrest : sent = later ++ (frame, .ok answer) :: earlier := (List.cons.inj h).2
        exact absurd (nak?_of_accepted hnone hrest) hnak

/-- A handshake and a command leave both sides in a session. -/
theorem lockstep_getVersion :
    let t := Tag.new Uid.default
    let station : Station ByteStream := ⟨⟨some t, 1, 0⟩, ⟨[], 0⟩⟩
    let contact : Contact ByteStream := ⟨station.field, 1, station.rng⟩
    let opened := afterSteps (Channel.new t.uid.toBytes (⟨contact, []⟩ : Recorded (Contact ByteStream)))
      [.authenticate uidSlot t.key1 true]
    let c' := left (Bench.ChannelStep.getVersion.run opened)
    station.field.tag = some t ∧ station.contact? = some (t.uid.toBytes, contact) ∧
      Allowed t (.authenticate uidSlot t.key1 true) ∧ Allowed t .getVersion ∧
      ∃ u s, c'.session = some s ∧ c'.link.link.field.tag = some u ∧ u.state = .authenticated s := by
  intro t station contact opened c'
  have hcontact : station.contact? = some (t.uid.toBytes, contact) := rfl
  have hkey : Allowed t (.authenticate uidSlot t.key1 true) := Or.inl rfl
  have hallowed : ∀ s ∈ [.getVersion, .authenticate uidSlot t.key1 true], Allowed t s := by
    intro s hs
    rcases List.mem_cons.mp hs with rfl | hs
    · exact trivial
    · rw [List.mem_singleton.mp hs]
      exact hkey
  have hsome : c'.session.isSome = true := by decide +kernel
  obtain ⟨s, hs⟩ := Option.isSome_iff_exists.mp hsome
  have htag : station.field.tag = some t := rfl
  obtain ⟨u, hu, hsame, -, -⟩ :=
    lockstep htag hcontact [.authenticate uidSlot t.key1 true] .getVersion hallowed
  exact ⟨htag, hcontact, hkey, trivial, u, s, hs, hu, hsame s hs⟩

end
end Channel
end Nearfield
