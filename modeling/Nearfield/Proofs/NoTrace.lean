/-
# A failed transaction leaves no trace

Everything that can fail in a transaction with a tag that stays in the field
fails before the first page is written: the product, both handshakes, a forged
MAC, the check bytes of the identifier, the capacity. With the identifier's key
of the tag this is read off how transactions end (`ends_failed`). If the tag
refuses the key, no session is opened for the identifier, so no page is written
at all (`not_isWrite_of_refused`), and without a WRITE nothing of the tag
changes that lasts (`settled_of_unwritten`).

The key of the data slot may be any: a test opens its session for the identifier
after that handshake.

Key definitions: `Transaction.RefusesProofs`, `Transaction.unwritten`.
Key theorems: `Transaction.ends_failed`, `Transaction.settled_of_unwritten`,
`Transaction.failed_leaves_no_trace`.
-/
import Nearfield.Proofs.Conversation.Discipline

namespace Nearfield
namespace Transaction

open Channel

/-! ### With the key of the tag -/

section
variable {σ : Type} [TagLink σ] {c : Channel σ} {t : Tag}

/-- **On a steady link a transaction that fails has changed nothing**, whatever
the tag is. -/
theorem ends_failed {request : Request} (h : Resting c t) (hsteady : TagLink.Steady c.link)
    (hkey : request.uidKey = t.key1) :
    Ends (execute request) c (fun _ _ => True) (fun _ c' => Facing c' t) := by
  refine ends_execute h (fun e c' hfacing _ => hfacing) fun c₁ hresting hkept => ?_
  have hsteady₁ := hkept.steady hsteady
  cases request with
  | read mode uidKey dataKey =>
    obtain rfl : uidKey = t.key1 := hkey
    exact (ends_read mode dataKey hresting).mono (fun _ _ _ => trivial) fun _ _ hend => hend.1
  | write payload uidKey dataKey =>
    obtain rfl : uidKey = t.key1 := hkey
    exact (ends_write payload dataKey hresting).mono (fun _ _ _ => trivial)
      fun _ _ hend => (hend.1 hsteady₁).1
  | test uidKey dataKey =>
    obtain rfl : uidKey = t.key1 := hkey
    exact (ends_test dataKey hresting).mono (fun _ _ _ => trivial) fun _ _ hend => hend.2 hsteady₁

/-! ### Without a WRITE -/

theorem settled_of_not_isWrite {t' : Tag} {frame answer : Bytes} (h : t.Steps frame answer t')
    (hread : ¬ IsWrite frame) : t'.settled = t.settled := by
  rcases h.answers.settled_cases with hsame | ⟨s, page, p, -, rfl, -, -⟩
  · exact hsame
  · exact absurd (s.head?_protect Code.write (page :: p.toBytes)) hread

/-- A page was written, or all that lasts of the tag is as it was. -/
def unwritten (t : Tag) : LinkProperty (Logged σ) where
  holds l := (∃ e ∈ exchanges l.log, IsWrite e.1) ∨
    ∃ u, TagLink.tag? l.link = some u ∧ u.settled = t.settled
  nextByte {l} h := by
    have hlog : exchanges (RandomSource.nextByte l).2.log = exchanges l.log :=
      (exchanges_append _ _).trans (List.append_nil _)
    rw [hlog, show TagLink.tag? (RandomSource.nextByte l).2.link = _ from TagLink.tag?_nextByte l.link]
    exact h
  exchange {l} frame h := by
    rw [Logged.log_exchange, exchanges_append]
    rcases h with ⟨e, he, hwrite⟩ | ⟨u, hu, hsame⟩
    · exact Or.inl ⟨e, List.mem_append_left _ he, hwrite⟩
    by_cases hwrite : IsWrite frame
    · exact Or.inl ⟨_, List.mem_append_right _ List.mem_cons_self, hwrite⟩
    right
    show ∃ v, TagLink.tag? (FrameLink.exchange frame l.link).2 = some v ∧ v.settled = t.settled
    rcases hex : FrameLink.exchange frame l.link with ⟨e | answer, link'⟩
    · rcases TagLink.exchange_error hex with htag | ⟨v, answer, v', hv, hstep, hv', -⟩
      · exact ⟨u, htag.trans hu, hsame⟩
      · cases hu.symm.trans hv
        exact ⟨v', hv', (settled_of_not_isWrite hstep hwrite).trans hsame⟩
    · obtain ⟨v, v', hv, hstep, hv'⟩ := TagLink.exchange_ok hex
      cases hu.symm.trans hv
      exact ⟨v', hv', (settled_of_not_isWrite hstep hwrite).trans hsame⟩

/-- **Without a WRITE a transaction leaves the tag as it is**, on any link. -/
theorem settled_of_unwritten {uid : Bytes} {request : Request} {link : σ} {u : Tag}
    (htag : TagLink.tag? link = some u) (hsame : u.settled = t.settled)
    (hread : ∀ e ∈ exchanges (record uid request link), ¬ IsWrite e.1) :
    ∃ v, TagLink.tag? (run uid request link).2 = some v ∧ v.settled = t.settled := by
  have hfirst : (unwritten t).holds (⟨link, []⟩ : Logged σ) := Or.inr ⟨u, htag, hsame⟩
  have hkept := run_keeps (unwritten t) uid request hfirst
  have hlink : (run uid request link).2 = (run uid request (⟨link, []⟩ : Logged σ)).2.link :=
    congrArg Prod.snd (run_map Logged.forget uid request (⟨link, []⟩ : Logged σ))
  rcases hkept with ⟨e, he, hwrite⟩ | hunwritten
  · exact absurd hwrite (hread e he)
  · rwa [hlink]

end

/-! ### With a key that is refused -/

/-- In these exchanges the tag accepts no proof in a handshake for the slot:
where the frame after AUTHENTICATE is answered, that answer is a negative
acknowledge. -/
def RefusesProofs (slot : UInt8) (sent : List Exchanged) : Prop :=
  ∀ (n : Nat) challenge proof answer, sent[n]? = some (Command.authenticate slot, challenge) →
    sent[n + 1]? = some (proof, .ok answer) → Answer.nak? answer ≠ none

/-- If the key is refused no page is written. -/
theorem not_isWrite_of_refused {uid : Bytes} {request : Request} {log : List Entry}
    (h : Begun uid request log) (hrefused : RefusesProofs uidSlot (exchanges log)) :
    ∀ e ∈ exchanges log, ¬ IsWrite e.1 := by
  intro e he hwrite
  obtain ⟨earlier, later, hsplit⟩ := List.append_of_mem he
  obtain ⟨accepts, hplaced, -⟩ := h.placed hsplit
  obtain ⟨rndA, rndB, n, page, data, ⟨before, turns, rfl, -, -⟩, -⟩ := hplaced.inSession_of_isWrite hwrite
  -- in front of the session the tag has accepted a proof
  rw [exchanges_handshake] at hsplit
  simp only [List.append_assoc, List.cons_append, List.nil_append] at hsplit
  have hat := fun k => congrArg (·[before.length + k]?) hsplit
  simp only [List.getElem?_append_right (Nat.le_add_right _ _), Nat.add_sub_cancel_left] at hat
  exact hrefused before.length _ _ _ (hat 0) (hat 1) rfl

/-! ### Failed transactions -/

variable {ρ : Type} [RandomSource ρ] {station : Station ρ} {t : Tag} {uid : Bytes} {contact : Contact ρ}

/-- **A failed transaction leaves no trace.** The tag is any tag that does not
leave, and the request any request that has its key for the identifier, unless
the tag refuses what is made of the key. However the transaction with the tag
fails, the memory is as it was, and so is all that lasts. -/
theorem failed_leaves_no_trace (htag : station.field.tag = some t) (hstays : t.allowance = none)
    (hcontact : station.contact? = some (uid, contact)) {request : Request}
    (hkey : request.uidKey = t.key uidSlot ∨ RefusesProofs uidSlot (exchanges (record uid request contact)))
    {failure : ScanError} (hfailed : (run uid request contact).1 = .error failure) :
    ∃ u, (run uid request contact).2.field.tag = some u ∧ u.memory = t.memory ∧ u.settled = t.settled := by
  obtain ⟨u, hu, hsettled, hidle, hallowance, hgeneration⟩ := Station.resting_contact htag hcontact
  rcases hkey with hright | hrefused
  · have hresting : Resting (Channel.new uid contact) t := ⟨rfl, u, hu, hsettled, hidle⟩
    have hsteady : contact.Steady := ⟨hgeneration, u, hu, hallowance.trans hstays⟩
    have hends := ends_failed hresting hsteady (hright.trans (key_uidSlot t))
    have hrun := run_of_ends (P := fun result (link : Contact ρ) =>
      (∃ e, result = .error e) → ∃ u, link.field.tag = some u ∧ u.settled = t.settled)
      (hends.mono (fun found c' _ hfailed => by obtain ⟨e, he⟩ := hfailed; cases he)
        fun e c' hfacing _ => hfacing)
    obtain ⟨v, hv, hsame⟩ := hrun ⟨failure, hfailed⟩
    exact ⟨v, hv, Tag.memory_of_settled hsame, hsame⟩
  · have hread := not_isWrite_of_refused (begun_record uid request contact) hrefused
    obtain ⟨v, hv, hsame⟩ := settled_of_unwritten (t := t) hu hsettled hread
    exact ⟨v, hv, Tag.memory_of_settled hsame, hsame⟩

/-- A write to a tag that shows a random identifier and forges its MACs, and a
test of a tag that has another key for the identifier. -/
theorem failed_leaves_no_trace_forged_refused :
    let t : Tag := { Tag.new Uid.default with randomId := true, forges := true }
    let station : Station ByteStream := ⟨⟨some t, 1, 0⟩, ⟨[], 0⟩⟩
    let uid := (t.activate station.rng).1
    let contact : Contact ByteStream := ⟨⟨some t, 1, 0⟩, 1, (t.activate station.rng).2.2⟩
    let request : Request := .write [1, 2, 3] (t.key uidSlot) none
    let t' : Tag := { Tag.new Uid.default with key1 := ⟨⟨1, 0, 0, 0⟩, Page.zero, Page.zero, Page.zero⟩ }
    let station' : Station ByteStream := ⟨⟨some t', 1, 0⟩, ⟨[], 0⟩⟩
    let contact' : Contact ByteStream := ⟨⟨some t', 1, 0⟩, 1, ⟨[], 0⟩⟩
    let request' : Request := .test Block.zero t'.key0
    (t.allowance = none ∧ station.contact? = some (uid, contact) ∧ request.uidKey = t.key uidSlot ∧
      (run uid request contact).1 = .error .integrityFailed ∧
      ∃ u, (run uid request contact).2.field.tag = some u ∧ u.memory = t.memory ∧ u.settled = t.settled) ∧
    (t'.allowance = none ∧ station'.contact? = some (t'.uid.toBytes, contact') ∧
      RefusesProofs uidSlot (exchanges (record t'.uid.toBytes request' contact')) ∧
      (run t'.uid.toBytes request' contact').1 = .error .authFailed ∧
      ∃ u, (run t'.uid.toBytes request' contact').2.field.tag = some u ∧ u.memory = t'.memory ∧
        u.settled = t'.settled) := by
  intro t station uid contact request t' station' contact' request'
  have htag : station.field.tag = some t := rfl
  have htag' : station'.field.tag = some t' := rfl
  have hstays : t.allowance = none := rfl
  have hstays' : t'.allowance = none := rfl
  have hcontact : station.contact? = some (uid, contact) := rfl
  have hcontact' : station'.contact? = some (t'.uid.toBytes, contact') := rfl
  have hforged : (run uid request contact).1 = .error .integrityFailed := by decide +kernel
  have hfailed : (run t'.uid.toBytes request' contact').1 = .error .authFailed := by decide +kernel
  -- the handshake for the data slot succeeds, the one for the identifier does not
  have hanswers : (exchanges (record t'.uid.toBytes request' contact')).map
      (fun e => (decide (e.1 = Command.authenticate uidSlot), (e.2.toOption.bind Answer.nak?).isSome)) =
        [(false, false), (false, false), (false, false), (true, false), (false, true)] := by
    decide +kernel
  have hrefused : RefusesProofs uidSlot (exchanges (record t'.uid.toBytes request' contact')) := by
    generalize exchanges (record t'.uid.toBytes request' contact') = sent at hanswers ⊢
    intro n challenge proof answer hchallenge hproof hnak
    have hn := congrArg (·[n]?) hanswers
    have hnext := congrArg (·[n + 1]?) hanswers
    simp only [List.getElem?_map, hchallenge, hproof, Option.map_some] at hn hnext
    match n with
    | 0 | 1 | 2 | 4 => simp at hn
    | 3 => simp [Except.toOption, hnak] at hnext
    | n + 5 => simp at hn
  exact ⟨⟨hstays, hcontact, rfl, hforged, failed_leaves_no_trace htag hstays hcontact (Or.inl rfl) hforged⟩,
    hstays', hcontact', hrefused, hfailed,
    failed_leaves_no_trace htag' hstays' hcontact' (Or.inr hrefused) hfailed⟩

end Transaction
end Nearfield
