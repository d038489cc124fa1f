/-
# A new activation shuts out the old sessions

A channel has a session, and the tag behind its link is activated again, for
others: scans, channels of their own, or single frames (`Contact.Busy`). The old
link is still good, for the tag has not gone away, but it is idle after the first
activation, and whatever state the others leave it in is their own. So the next
command of the old channel is refused and ends its session, unless its MAC happens
to be right in a session of theirs; after that the channel sends its commands
without a MAC, and no WRITE of its own changes the memory until it has proved the
key again (`reactivation_shuts_out`).

Any scan and any command on another channel is such a use of the field
(`Contact.Busy.scanned`, `Contact.Busy.commanded`). What the tag notices of it is a
history of its own (`Contact.Busy.replays`), and that tells whose session it is in.

Key definitions: `Contact.Busy`, `Channel.meets`, `Channel.Sends`, `Channel.Meanwhile`.
Key theorems: `Contact.Busy.replays`, `Channel.Meanwhile.shut`,
`Channel.reactivation_shuts_out`.
-/
import Nearfield.Proofs.Channel.Lockstep
import Nearfield.Proofs.Conversation.Transactions
import Nearfield.Proofs.Tag.Company

namespace Nearfield

/-- Steady links stay steady. -/
def TagLink.steadiness (σ : Type) [TagLink σ] : LinkProperty σ where
  holds := TagLink.Steady
  nextByte := TagLink.steady_nextByte
  exchange frame h := by
    obtain ⟨answer, link', hex, hsteady⟩ := TagLink.exchange_steady frame h
    rw [hex]
    exact hsteady

/-- What every exchange keeps, a command keeps. -/
theorem Channel.run_keeps {σ : Type} [FrameLink σ] (p : LinkProperty σ) (step : Bench.ChannelStep)
    {c : Channel σ} (h : p.holds c.link) : p.holds (left (step.run c)).link :=
  Ends.left (P := fun c' => p.holds c'.link)
    ((follows_parametric.run step fun slot key verify _ => follows_authenticate slot key verify).keeps h)

/-! ### A field that is in use -/

namespace Contact
variable {ρ : Type} [RandomSource ρ] {k k' k'' : Contact ρ} {history history' : List Tag.Event}

/-- What others do at a field, from `k` on: they activate the tag, stop waiting for
one, draw random bytes and send frames. The history is what the tag notices. -/
inductive Busy (k : Contact ρ) : List Tag.Event → Contact ρ → Prop where
  | refl : Busy k [] k
  | activated {history : List Tag.Event} {k' k'' : Contact ρ} {uid : Bytes} (h : Busy k history k')
      (hagain : Station.contact? ⟨k'.field, k'.rng⟩ = some (uid, k'')) :
      Busy k (history ++ [.activation]) k''
  | stopped {history : List Tag.Event} {k' : Contact ρ} (h : Busy k history k') :
      Busy k history { k' with field := k'.field.stopListening }
  | drew {history : List Tag.Event} {k' : Contact ρ} (h : Busy k history k') : Busy k history k'.nextByte.2
  | sent {history : List Tag.Event} {k' : Contact ρ} (h : Busy k history k') (frame : Bytes) :
      Busy k (history ++ [.frame frame]) (k'.exchange frame).2

theorem Busy.trans (h : Busy k history k') (h' : Busy k' history' k'') : Busy k (history ++ history') k'' := by
  induction h' with
  | refl => exact (List.append_nil history).symm ▸ h
  | activated h' hagain ih => exact List.append_assoc .. ▸ ih.activated hagain
  | stopped h' ih => exact ih.stopped
  | drew h' ih => exact ih.drew
  | sent h' frame ih => exact List.append_assoc .. ▸ ih.sent frame

/-- Whatever is done with a link is a use of the field. -/
def uses (k : Contact ρ) : LinkProperty (Contact ρ) where
  holds k' := ∃ history, Busy k history k'
  nextByte h := by
    obtain ⟨history, h⟩ := h
    exact ⟨history, h.drew⟩
  exchange frame h := by
    obtain ⟨history, h⟩ := h
    exact ⟨_, h.sent frame⟩

/-- **The tag goes through the history**, and its link is as good as it was. -/
theorem Busy.replays (h : Busy k history k') (hsteady : k.Steady) {v : Tag} (hv : k.field.tag = some v) :
    k'.Steady ∧ k'.field.generation = k.field.generation ∧
      ∃ u, k'.field.tag = some u ∧ v.Replays history u := by
  induction h with
  | refl => exact ⟨hsteady, rfl, v, hv, .refl v⟩
  | activated h hagain ih =>
    obtain ⟨⟨-, u', hu', hstays⟩, hgeneration, u, hu, hreplays⟩ := ih
    obtain rfl : u' = u := Option.some.inj (hu'.symm.trans hu)
    rw [Station.contact_eq hu hagain]
    exact ⟨⟨rfl, _, rfl, hstays⟩, hgeneration, _, rfl, hreplays.trans u'.replays_activation⟩
  | stopped h ih => exact ih
  | drew h ih => exact ih
  | sent h frame ih =>
    obtain ⟨hsteady', hgeneration, u, hu, hreplays⟩ := ih
    refine ⟨(TagLink.steadiness (Contact ρ)).exchange frame hsteady', ?_⟩
    rw [hsteady'.exchange_eq hu frame]
    exact ⟨hgeneration, _, rfl, hreplays.trans (Tag.replays_frame u frame _)⟩

/-- A scan is a use of the field, however it ends. -/
theorem Busy.scanned (h : Busy k history k') (uid : Bytes) (request : Request) :
    ∃ since, Busy k (history ++ since) (Transaction.run uid request k').2 := by
  obtain ⟨since, hsince⟩ := Transaction.run_keeps k'.uses uid request ⟨[], .refl⟩
  exact ⟨since, h.trans hsince⟩

/-- So is a command on a channel. -/
theorem Busy.commanded {c : Channel (Contact ρ)} (h : Busy k history c.link) (step : Bench.ChannelStep) :
    ∃ since, Busy k (history ++ since) (Channel.left (step.run c)).link := by
  obtain ⟨since, hsince⟩ := Channel.run_keeps c.link.uses step ⟨[], .refl⟩
  exact ⟨since, h.trans hsince⟩

end Contact

namespace Channel

/-! ### Refused frames -/

section
variable {σ : Type} [FrameLink σ] {c : Channel σ}

/-- Without a session, commands other than a handshake do not bring one. -/
theorem sessionless_parametric :
    Parametric fun α (prog : ChannelM σ α) (_ : ChannelM σ α) => ∀ c, c.session = none →
      Ends prog c (fun _ c' => c'.session = none) (fun _ c' => c'.session = none) where
  pure _ _ h := h
  throw _ _ h := h
  bind hprog hnext c h := (hprog c h).bind (fun _ _ h => h) fun b c' h' => hnext b c' h'
  transceive frame c h := by
    unfold transceive
    rw [ends_bind, ends_get, ends_bind, ends_exchange]
    split
    · rename_i answer link hex
      cases Answer.nak? answer with
      | some code => exact rfl
      | none =>
        rw [h]
        exact rfl
    · exact h

open Bench in
/-- Neither does a handshake that fails. -/
theorem sessionless_run {step : ChannelStep} (h : c.session = none)
    (hfails : ∀ slot key verify, step = .authenticate slot key verify → ∃ e c', step.run c = .error e c') :
    (left (step.run c)).session = none := by
  cases step with
  | authenticate slot key verify =>
    obtain ⟨e, c', hrun⟩ := hfails slot key verify rfl
    have hends : Ends (ChannelStep.run (.authenticate slot key verify)) c (fun _ _ => True)
        (fun _ c' => c'.session = none) :=
      (authenticate_error slot key verify c).bind (fun _ _ h => h) fun _ _ _ => trivial
    rw [hrun]
    exact hends.error hrun
  | _ =>
    refine Ends.left (P := fun c' => c'.session = none) (sessionless_parametric.run _ ?_ c h)
    intro _ _ _ hstep
    cases hstep

end

/-! ### The old channel -/

variable {ρ : Type} {c c' : Channel (Contact ρ)}

/-- The channel finds the field as others have left it. -/
def meets (c : Channel (Contact ρ)) (k : Contact ρ) : Channel (Contact ρ) :=
  { c with link := { c.link with field := k.field, rng := k.rng } }

/-- Of the same generation is the same link. -/
theorem link_meets {k : Contact ρ} (h : c.link.generation = k.generation) : (c.meets k).link = k := by
  show (⟨k.field, c.link.generation, k.rng⟩ : Contact ρ) = k
  rw [h]

open Bench in
/-- The commands that send one frame, and the frame. -/
inductive Sends : ChannelStep → Bytes → Prop where
  | getVersion : Sends .getVersion Command.getVersion
  | readPages (page : UInt8) : Sends (.readPages page) (Command.read page)
  | writePage (page : UInt8) (data : Page) : Sends (.writePage page data) (Command.write page data)

theorem Sends.length_le {step : Bench.ChannelStep} {frame : Bytes} (h : Sends step frame) :
    frame.length ≤ 6 := by
  cases h with
  | getVersion => decide
  | readPages page => exact Nat.le_of_ble_eq_true rfl
  | writePage page data => exact Nat.le_refl 6

variable [RandomSource ρ]

open Bench in
theorem Sends.run_nak {step : ChannelStep} {frame : Bytes} {code : UInt8} {link : Contact ρ}
    (h : Sends step frame) (hcode : code ≠ Code.ack)
    (hex : FrameLink.exchange (c.outgoing frame) c.link = (.ok [code], link)) :
    step.run c = .error (Answer.nakError code) { c with link, session := none } := by
  have hends : Ends step.run c (fun _ _ => False)
      (fun e c' => e = Answer.nakError code ∧ c' = { c with link, session := none }) := by
    cases h with
    | getVersion =>
      unfold ChannelStep.run Channel.getVersion
      rw [ends_bind, ends_bind]
      exact ends_transceive_nak hcode hex ⟨rfl, rfl⟩
    | readPages page =>
      unfold ChannelStep.run Channel.readPages
      rw [ends_bind, ends_bind]
      exact ends_transceive_nak hcode hex ⟨rfl, rfl⟩
    | writePage page data =>
      unfold ChannelStep.run Channel.writePage
      rw [ends_bind, ends_bind]
      exact ends_transceive_nak hcode hex ⟨rfl, rfl⟩
  obtain ⟨e, c', hrun, rfl, rfl⟩ := hends.fails
  exact hrun

open Bench in
/-- What happens around the channel and on it, as long as it does not authenticate
successfully: others use the field, and the channel runs commands. -/
inductive Meanwhile (c : Channel (Contact ρ)) : Channel (Contact ρ) → Prop where
  | refl : Meanwhile c c
  | others {c' : Channel (Contact ρ)} {history : List Tag.Event} {k : Contact ρ} (h : Meanwhile c c')
      (hbusy : c'.link.Busy history k) : Meanwhile c (c'.meets k)
  | command {c' : Channel (Contact ρ)} (h : Meanwhile c c') (step : ChannelStep)
      (hfails : ∀ slot key verify, step = .authenticate slot key verify → ∃ e d, step.run c' = .error e d) :
      Meanwhile c (left (step.run c'))

/-- The channel has a good link and no session. -/
structure Shut (c : Channel (Contact ρ)) : Prop where
  session_eq : c.session = none
  steady : c.link.Steady

/-- **Without a successful handshake there is no session.** -/
theorem Meanwhile.shut (h : Meanwhile c c') (hc : c.Shut) : c'.Shut := by
  induction h with
  | refl => exact hc
  | others h hbusy ih =>
    obtain ⟨v, hv, -⟩ := ih.steady.2
    obtain ⟨hsteady, hgeneration, -⟩ := hbusy.replays ih.steady hv
    refine ⟨ih.session_eq, ?_⟩
    rw [link_meets (ih.steady.1.symm.trans (hgeneration.symm.trans hsteady.1))]
    exact hsteady
  | command h step hfails ih =>
    exact ⟨sessionless_run ih.session_eq hfails, run_keeps (TagLink.steadiness (Contact ρ)) step ih.steady⟩

/-- A frame that the tag of a good link refuses. -/
theorem exchange_refused {k : Contact ρ} {u : Tag} (frame : Bytes) (hsteady : k.Steady)
    (hu : k.field.tag = some u)
    (hrefused : ∀ answer u', u.Answers frame answer u' →
      ∃ code, answer = [code] ∧ code ≠ Code.ack ∧ u' = u.taken) :
    ∃ code k', code ≠ Code.ack ∧ FrameLink.exchange frame k = (.ok [code], k') ∧ k'.Steady ∧
      k'.field.tag = some u.taken := by
  obtain ⟨answer, k', hex, hsteady'⟩ := Contact.exchange_steady frame hsteady
  obtain ⟨v, u', hv, hstep, hu'⟩ := Contact.exchange_ok hex
  cases hu.symm.trans hv
  obtain ⟨code, rfl, hcode, rfl⟩ := hrefused _ _ hstep.answers
  exact ⟨code, k', hcode, hex, hsteady', hu'⟩

/-- Without a session nothing is written. -/
theorem Shut.writePage (h : c.Shut) (page : UInt8) (data : Page) : ∃ w w' e d,
    c.link.field.tag = some w ∧ writePage page data c = .error e d ∧ d.link.field.tag = some w' ∧
      w'.memory = w.memory := by
  obtain ⟨w, hw, -⟩ := h.steady.2
  obtain ⟨code, link, hcode, hex, -, hw'⟩ :=
    exchange_refused (Command.write page data) h.steady hw fun _ _ hans => hans.write_refused
  have hends : Ends (Channel.writePage page data) c (fun _ _ => False)
      (fun _ d => d.link.field.tag = some w.taken) := by
    unfold Channel.writePage
    rw [ends_bind]
    exact ends_transceive_nak hcode (by rw [outgoing_resting h.session_eq]; exact hex) hw'
  obtain ⟨e, d, hrun, hd⟩ := hends.fails
  exact ⟨w, w.taken, e, d, hw, hrun, hd, rfl⟩

/-- **A new activation shuts out the sessions before it.** A channel has a session
`s`, and the tag of its link, which stays, is activated again and used by others. If
the channel then sends a command, its MAC is that of a session that the others have
established since the activation; or the tag answers with a negative acknowledge, its
memory is as it was, the command fails and the session is gone. From then on, until
the channel authenticates successfully, it changes no page, whatever the others do. -/
theorem reactivation_shuts_out {t : Tag} {s : Session} {uid : Bytes} {k k' : Contact ρ}
    {history : List Tag.Event} {step : Bench.ChannelStep} {frame : Bytes}
    (htag : c.link.field.tag = some t) (hstays : t.allowance = none)
    (hlink : c.link.field.generation = c.link.generation) (hsession : c.session = some s)
    (hagain : Station.contact? ⟨c.link.field, c.link.rng⟩ = some (uid, k)) (hbusy : k.Busy history k')
    (hsends : Sends step frame) :
    ∃ v u, k.field.tag = some v ∧ k'.field.tag = some u ∧
      ((∃ s', u.state = .authenticated s' ∧ v.Established history s' ∧
          s'.commandMac frame = s.commandMac frame) ∨
        ∃ code d u', code ≠ Code.ack ∧
          (FrameLink.exchange (s.protect frame) (c.meets k').link).1 = .ok [code] ∧
          step.run (c.meets k') = .error (Answer.nakError code) d ∧ d.session = none ∧
          d.link.field.tag = some u' ∧ u'.memory = u.memory ∧
          ∀ d', Meanwhile d d' → ∀ page data, ∃ w w' e d'', d'.link.field.tag = some w ∧
            writePage page data d' = .error e d'' ∧ d''.link.field.tag = some w' ∧
            w'.memory = w.memory) := by
  have hk := Station.contact_eq htag hagain
  have hv : k.field.tag = some { t with state := .idle } := by rw [hk]
  have hsteady : k.Steady := ⟨by rw [hk], _, hv, hstays⟩
  have hgeneration : k.field.generation = c.link.field.generation := by rw [hk]
  obtain ⟨hsteady', hgeneration', u, hu, hreplays⟩ := hbusy.replays hsteady hv
  -- the tag has not gone away, so all links are of one generation
  have hmeets : (c.meets k').link = k' :=
    link_meets (hlink.symm.trans (hgeneration.symm.trans (hgeneration'.symm.trans hsteady'.1)))
  refine ⟨_, u, hv, hu, ?_⟩
  by_cases hmac : ∃ s', u.state = .authenticated s' ∧ s'.commandMac frame = s.commandMac frame
  · obtain ⟨s', hstate, hsame⟩ := hmac
    exact Or.inl ⟨s', hstate, hreplays.established rfl hstate, hsame⟩
  have hlen := hsends.length_le
  obtain ⟨code, link, hcode, hex, hsteady'', hu'⟩ := exchange_refused (s.protect frame) hsteady' hu
    fun _ _ hans => (hans.protected_cases (by omega)).resolve_left hmac
  rw [← hmeets] at hex
  have hsent : (c.meets k').outgoing frame = s.protect frame := outgoing_inSession hsession frame
  have hrun := hsends.run_nak (c := c.meets k') hcode (hsent ▸ hex)
  refine Or.inr ⟨code, _, u.taken, hcode, by rw [hex], hrun, rfl, hu', rfl, fun d' hmeanwhile => ?_⟩
  exact (hmeanwhile.shut ⟨rfl, hsteady''⟩).writePage

/-- A WRITE is refused by a tag that is in a session with another channel, which has
proved the same key. -/
theorem reactivation_shuts_out_same_key :
    let s : Session := ⟨Block.zero, uidSlot, 0⟩
    let t : Tag := { Tag.new Uid.default with state := .authenticated s }
    let c : Channel (Contact ByteStream) := ⟨⟨⟨some t, 1, 0⟩, 1, ⟨[], 0⟩⟩, t.uid.toBytes, some s, true⟩
    let k : Contact ByteStream := ⟨⟨some { t with state := .idle }, 1, 0⟩, 1, ⟨[], 0⟩⟩
    let handshake : Bench.ChannelStep := .authenticate uidSlot t.key1 true
    let k' := (left (handshake.run (Channel.new t.uid.toBytes k))).link
    let write : Bench.ChannelStep := .writePage 4 Page.zero
    (c.link.field.tag = some t ∧ t.allowance = none ∧
      c.link.field.generation = c.link.generation ∧ c.session = some s ∧
      Station.contact? ⟨c.link.field, c.link.rng⟩ = some (t.uid.toBytes, k) ∧
      (∃ history, k.Busy history k') ∧ Sends write (Command.write 4 Page.zero)) ∧
    ∃ u s' code d u', k'.field.tag = some u ∧ u.state = .authenticated s' ∧
      write.run (c.meets k') = .error (Answer.nakError code) d ∧ d.session = none ∧
      d.link.field.tag = some u' ∧ u'.memory = u.memory := by
  intro s t c k handshake k' write
  have hagain : Station.contact? ⟨c.link.field, c.link.rng⟩ = some (t.uid.toBytes, k) := rfl
  obtain ⟨history, hbusy⟩ : ∃ history, k.Busy history k' :=
    Contact.Busy.commanded (c := Channel.new t.uid.toBytes k) .refl handshake
  have hsends : Sends write (Command.write 4 Page.zero) := .writePage 4 Page.zero
  have hother : (k'.field.tag.bind Tag.session?).map (fun s' : Session =>
      decide (s'.commandMac (Command.write 4 Page.zero) = s.commandMac (Command.write 4 Page.zero)))
        = some false := by decide +kernel
  refine ⟨⟨rfl, rfl, rfl, rfl, hagain, ⟨history, hbusy⟩, hsends⟩, ?_⟩
  have hend := reactivation_shuts_out (c := c) rfl rfl rfl rfl hagain hbusy hsends
  clear_value k'
  obtain ⟨v, u, -, hu, hcases⟩ := hend
  obtain ⟨s', hs', hdiffers⟩ := Option.map_eq_some_iff.mp hother
  rw [hu, Option.bind_some, Tag.session?_eq_some_iff] at hs'
  rcases hcases with ⟨s'', hs'', -, hsame⟩ | ⟨code, d, u', -, -, hrun, hnone, hu', hmemory, -⟩
  · cases hs'.symm.trans hs''
    exact absurd hsame (of_decide_eq_false hdiffers)
  · exact ⟨u, s', code, d, u', hu, hs', hrun, hnone, hu', hmemory⟩

end Channel
end Nearfield
