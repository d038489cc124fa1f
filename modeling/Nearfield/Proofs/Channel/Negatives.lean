/-
# Negative acknowledges, bare and behind a MAC

A single byte other than an acknowledge is a negative acknowledge. A channel looks for
one in the answer as it came and ends its session there; the commands read what is left
when the MAC has been stripped. Outside a session that is the same. In a session, an
answer that is such a byte with a MAC behind it is passed on as data
(`transceive_eq_nak_iff`), and a WRITE that finds it there reports a refusal while the
session goes on (`Delivers.writePage_eq_error`).

No tag sends such an answer (`Delivers.eq_ack`), so it takes a link that makes answers
up; where answers are verified, one that has the MAC as well.

Key definitions: `TagError.IsNak`, `Channel.Delivers`.
Key theorems: `Channel.ends_transceive_answered`, `Channel.transceive_eq_nak_iff`,
`Channel.refusal_outcome`, `Channel.Delivers.eq_ack`.
-/
import Nearfield.Bench.Rig
import Nearfield.Proofs.Channel.Commands

namespace Nearfield

/-! ### Errors and answers -/

/-- The error says that the tag has answered with a negative acknowledge. -/
def TagError.IsNak (e : TagError) : Prop := e = .accessDenied ∨ ∃ code, e = .nak code

namespace TagError

theorem not_isNak_link (error : LinkError) : ¬ (link error).IsNak := by simp [IsNak, accessDenied]

theorem not_isNak_invalidResponse (reason : String) : ¬ (invalidResponse reason).IsNak := by
  simp [IsNak, accessDenied]

theorem not_isNak_integrity (reason : String) : ¬ (integrity reason).IsNak := by
  simp [IsNak, accessDenied]

theorem not_isNak_counterExhausted : ¬ counterExhausted.IsNak := by
  simp [IsNak, accessDenied, counterExhausted]

end TagError

namespace Answer

/-- A negative acknowledge is one byte, and not an acknowledge. -/
theorem nak?_eq_some_iff {answer : Bytes} {code : UInt8} :
    nak? answer = some code ↔ answer = [code] ∧ code ≠ Code.ack := by
  constructor
  · intro h
    unfold nak? at h
    split at h
    · split at h
      · cases h
      · cases h
        exact ⟨rfl, ‹_›⟩
    · cases h
  · rintro ⟨rfl, hcode⟩
    exact if_neg hcode

theorem version_not_isNak {data : Bytes} {e : TagError} (h : version data = .error e) : ¬ e.IsNak := by
  unfold version at h
  split at h
  · cases h
  · cases h
    exact TagError.not_isNak_invalidResponse _

theorem pages_not_isNak {data : Bytes} {e : TagError} (h : pages data = .error e) : ¬ e.IsNak := by
  unfold pages at h
  split at h
  · cases h
  · cases h
    exact TagError.not_isNak_invalidResponse _

/-- The data of a WRITE are read as a refusal exactly if they are one. -/
theorem acknowledge_isNak {data : Bytes} {e : TagError} (h : acknowledge data = .error e) (he : e.IsNak) :
    ∃ code, code ≠ Code.ack ∧ data = [code] ∧ e = nakError code := by
  unfold acknowledge at h
  split at h
  · split at h
    · cases h
    · cases h
      exact ⟨_, ‹_›, rfl, rfl⟩
  · cases h
    exact absurd he (TagError.not_isNak_invalidResponse _)

theorem acknowledge_nak {code : UInt8} (hcode : code ≠ Code.ack) :
    acknowledge [code] = .error (nakError code) := if_neg hcode

end Answer

/-- What a session opens is data with a MAC, and the right one if it looks. -/
theorem Session.openAnswer_eq_ok_iff {s : Session} {verify : Bool} {answer data : Bytes} :
    s.openAnswer verify answer = .ok data ↔ ∃ mac, mac.length = Cmac.truncatedSize ∧
      answer = data ++ mac ∧ (verify = true → mac = s.answerMac data) := by
  constructor
  · intro h
    by_cases hshort : answer.length < Cmac.truncatedSize
    · rw [openAnswer, if_pos hshort] at h
      cases h
    · have hmac : (answer.drop (answer.length - Cmac.truncatedSize)).length = Cmac.truncatedSize := by
        rw [List.length_drop]
        omega
      rw [← List.take_append_drop (answer.length - Cmac.truncatedSize) answer,
        openAnswer_append _ _ _ hmac] at h
      split at h
      · cases h
      · rename_i hvalid
        cases h
        refine ⟨_, hmac, (List.take_append_drop _ _).symm, fun hverify => ?_⟩
        exact (Decidable.not_not.mp fun hne => hvalid ⟨hverify, hne⟩).symm
  · rintro ⟨mac, hlen, rfl, hvalid⟩
    rw [openAnswer_append _ _ _ hlen, if_neg]
    rintro ⟨hverify, hne⟩
    exact hne (hvalid hverify).symm

theorem Session.openAnswer_not_isNak {s : Session} {verify : Bool} {answer : Bytes} {e : TagError}
    (h : s.openAnswer verify answer = .error e) : ¬ e.IsNak := by
  unfold openAnswer at h
  split at h
  · cases h
    exact TagError.not_isNak_invalidResponse _
  · dsimp only at h
    split at h
    · cases h
      exact TagError.not_isNak_integrity _
    · cases h

/-- A tag puts a MAC behind an acknowledge, and behind no other single byte. -/
theorem Tag.Answers.eq_ack_of_mac {t t' : Tag} {frame mac : Bytes} {code : UInt8}
    (h : t.Answers frame ([code] ++ mac) t') (hmac : mac.length = Cmac.truncatedSize) :
    code = Code.ack := by
  generalize hanswer : [code] ++ mac = answer at h
  have hlen : answer.length = 9 := by rw [← hanswer, List.length_append, hmac]; rfl
  cases h with
  | refused code' hcode => cases hlen
  | challenged slot rndB hstate hframe hmodel hslot => cases hlen
  | opened slot rndB rndA hstate htoken => cases hlen
  | plain answer hstate hrun hnak =>
    have hsaid := (runCommand_replies hrun hnak).length_cases
    omega
  | secured s next command data u hstate hhead hcheck hrun hnak hnext =>
    obtain ⟨rfl, -⟩ := List.append_inj' hanswer (hmac.trans (length_answerMac u next data).symm)
    by_contra hcode
    exact nak?_refused_ne hcode hnak
  | exhausted s command data u hstate hhead hcheck hrun hnak hnext => cases hlen

namespace Channel

/-! ### One command on any link -/

section
variable {σ : Type} [FrameLink σ] {c c' : Channel σ} {frame data : Bytes} {e : TagError}

/-- A command is one exchange, and its answer decides how the command ends. -/
theorem transceive_eq (frame : Bytes) (c : Channel σ) :
    transceive frame c = match FrameLink.exchange (c.outgoing frame) c.link with
      | (.ok answer, link) =>
        match Answer.nak? answer, c.session with
        | some code, _ => .error (Answer.nakError code) { c with link, session := none }
        | none, none => .ok answer { c with link }
        | none, some s => receive s answer { c with link }
      | (.error e, link) => .error (.link e) { c with link } := by
  have hexchange : exchange (c.outgoing frame) c
      = match FrameLink.exchange (c.outgoing frame) c.link with
        | (.ok answer, link) => .ok answer { c with link }
        | (.error e, link) => .error (.link e) { c with link } := rfl
  show EStateM.bind (exchange (c.outgoing frame)) _ c = _
  rw [EStateM.bind, hexchange]
  rcases FrameLink.exchange (c.outgoing frame) c.link with ⟨e | answer, link⟩
  · rfl
  · dsimp only
    cases Answer.nak? answer with
    | some code => rfl
    | none => cases c.session <;> rfl

omit [FrameLink σ] in
/-- The counter advances in front of the look at the answer. -/
theorem receive_eq (s : Session) (answer : Bytes) (c : Channel σ) :
    receive s answer c = match s.advance? with
      | none => .error .counterExhausted c
      | some next =>
        match next.openAnswer c.verify answer with
        | .ok data => .ok data { c with session := some next }
        | .error e => .error e { c with session := some next } := by
  unfold receive
  cases s.advance? with
  | none => rfl
  | some next =>
    show lift (next.openAnswer c.verify answer) { c with session := some next } = _
    dsimp only
    cases next.openAnswer c.verify answer <;> rfl

/-- In a session, the link answers the frame with these data and a MAC that the host
lets pass; the session goes on as `next`. -/
def Delivers (c : Channel σ) (frame data : Bytes) (next : Session) : Prop :=
  ∃ s mac, c.session = some s ∧ s.advance? = some next ∧ mac.length = Cmac.truncatedSize ∧
    (FrameLink.exchange (c.outgoing frame) c.link).1 = .ok (data ++ mac) ∧
    (c.verify = true → mac = next.answerMac data)

/-- The channel after an exchange, with this session. -/
def exchanged (c : Channel σ) (frame : Bytes) (session : Option Session) : Channel σ :=
  { c with link := (FrameLink.exchange (c.outgoing frame) c.link).2, session }

/-- A bare negative acknowledge ends the session. -/
theorem transceive_nak {code : UInt8} (hcode : code ≠ Code.ack)
    (hanswer : (FrameLink.exchange (c.outgoing frame) c.link).1 = .ok [code]) :
    transceive frame c = .error (Answer.nakError code) (c.exchanged frame none) := by
  rw [transceive_eq, ← Prod.mk.eta (p := FrameLink.exchange _ _), hanswer]
  dsimp only
  rw [Answer.nak?_eq_some_iff.mpr ⟨rfl, hcode⟩]
  rfl

/-- Data that are delivered are returned, whatever they are. -/
theorem Delivers.transceive_eq_ok {next : Session} (h : Delivers c frame data next) :
    transceive frame c = .ok data (c.exchanged frame (some next)) := by
  obtain ⟨s, mac, hsession, hnext, hmac, hanswer, hvalid⟩ := h
  have hnak : Answer.nak? (data ++ mac) = none := by
    refine Tag.nak?_of_length ?_
    rw [List.length_append, hmac, Cmac.truncatedSize]
    omega
  have hopen : next.openAnswer c.verify (data ++ mac) = .ok data :=
    Session.openAnswer_eq_ok_iff.mpr ⟨mac, hmac, rfl, hvalid⟩
  rw [transceive_eq, ← Prod.mk.eta (p := FrameLink.exchange _ _), hanswer]
  dsimp only
  rw [hnak, hsession]
  dsimp only
  rw [receive_eq, hnext]
  dsimp only
  rw [hopen]
  rfl

/-- **How a command ends on any link.** Outside a session it returns an answer that is
no refusal, in a session the data that are delivered; a refusal leaves no session. -/
theorem ends_transceive_answered (frame : Bytes) (c : Channel σ) :
    Ends (transceive frame) c
      (fun data c' => (c.session = none ∧ Answer.nak? data = none) ∨
        ∃ next, Delivers c frame data next ∧ c' = c.exchanged frame (some next))
      fun e c' => e.IsNak → c'.session = none := by
  unfold Ends
  rw [transceive_eq]
  rcases hex : FrameLink.exchange (c.outgoing frame) c.link with ⟨e | answer, link⟩
  · exact fun he => absurd he (TagError.not_isNak_link e)
  dsimp only
  cases hnak : Answer.nak? answer with
  | some code => exact fun _ => rfl
  | none =>
    cases hsession : c.session with
    | none => exact Or.inl ⟨rfl, hnak⟩
    | some s =>
      dsimp only
      rw [receive_eq]
      cases hnext : s.advance? with
      | none => exact fun he => absurd he TagError.not_isNak_counterExhausted
      | some next =>
        dsimp only
        cases hopen : next.openAnswer c.verify answer with
        | error e => exact fun he => absurd he (Session.openAnswer_not_isNak hopen)
        | ok data =>
          obtain ⟨mac, hmac, rfl, hvalid⟩ := Session.openAnswer_eq_ok_iff.mp hopen
          refine Or.inr ⟨next, ⟨s, mac, hsession, hnext, hmac, by rw [hex], hvalid⟩, ?_⟩
          rw [exchanged, hex]

/-- A negative acknowledge is returned exactly if it is delivered. -/
theorem transceive_eq_nak_iff {code : UInt8} (hcode : code ≠ Code.ack) :
    transceive frame c = .ok [code] c' ↔
      ∃ next, Delivers c frame [code] next ∧ c' = c.exchanged frame (some next) := by
  constructor
  · intro hrun
    rcases (ends_transceive_answered frame c).ok hrun with ⟨-, hnak⟩ | hdelivers
    · rw [Answer.nak?_eq_some_iff.mpr ⟨rfl, hcode⟩] at hnak
      cases hnak
    · exact hdelivers
  · rintro ⟨next, hdelivers, rfl⟩
    exact hdelivers.transceive_eq_ok

/-! ### GET_VERSION, READ and WRITE -/

/-- A command whose data are not read as a refusal ends the session if it reports one. -/
theorem ends_command_isNak {α : Type} {parse : Bytes → Except TagError α}
    (hparse : ∀ data e, parse data = .error e → ¬ e.IsNak) (frame : Bytes) (c : Channel σ) :
    Ends (do lift (parse (← transceive frame))) c (fun _ _ => True)
      fun e c' => e.IsNak → c'.session = none := by
  refine (ends_transceive_answered frame c).bind (fun _ _ h => h) fun data c₁ _ => ?_
  refine Ends.lift (fun _ _ => trivial) fun e he hnak => ?_
  exact absurd hnak (hparse data e he)

/-- A WRITE reads its data as a refusal if a refusal is delivered. -/
theorem ends_writePage_isNak (page : UInt8) (data : Page) (c : Channel σ) :
    Ends (writePage page data) c (fun _ _ => True) fun e c' => e.IsNak → c'.session = none ∨
      ∃ code next, code ≠ Code.ack ∧ e = Answer.nakError code ∧
        Delivers c (Command.write page data) [code] next ∧ c'.session = some next := by
  unfold writePage
  refine (ends_transceive_answered (Command.write page data) c).bind
    (fun _ _ h he => Or.inl (h he)) fun answer c₁ hanswer => ?_
  refine Ends.lift (fun _ _ => trivial) fun e he hnak => ?_
  obtain ⟨code, hcode, rfl, rfl⟩ := Answer.acknowledge_isNak he hnak
  rcases hanswer with ⟨-, hnone⟩ | ⟨next, hdelivers, rfl⟩
  · rw [Answer.nak?_eq_some_iff.mpr ⟨rfl, hcode⟩] at hnone
    cases hnone
  · exact Or.inr ⟨code, next, hcode, rfl, hdelivers, rfl⟩

theorem Delivers.writePage_eq_error {page code : UInt8} {data : Page} {next : Session}
    (hcode : code ≠ Code.ack) (h : Delivers c (Command.write page data) [code] next) :
    writePage page data c =
      .error (Answer.nakError code) (c.exchanged (Command.write page data) (some next)) := by
  show EStateM.bind (transceive (Command.write page data)) _ c = _
  rw [EStateM.bind, h.transceive_eq_ok]
  show lift (Answer.acknowledge [code]) _ = _
  rw [Answer.acknowledge_nak hcode]
  rfl

/-- **When a refusal is data and when it ends the session**, for any link, any session
and any frame.

A bare negative acknowledge fails the command with its code and ends the session. A
command returns a negative acknowledge exactly if the channel is in a session and the
link has delivered it there, with a MAC that is right if answers are verified. When
GET_VERSION or READ reports a refusal, no session is left. When a WRITE does, none is
left either, unless the refusal was delivered: then the session goes on. -/
theorem refusal_outcome (c : Channel σ) :
    (∀ frame code, code ≠ Code.ack → (FrameLink.exchange (c.outgoing frame) c.link).1 = .ok [code] →
      ∃ c', transceive frame c = .error (Answer.nakError code) c' ∧ c'.session = none) ∧
    (∀ frame code c', code ≠ Code.ack → (transceive frame c = .ok [code] c' ↔
      ∃ next, Delivers c frame [code] next ∧ c' = c.exchanged frame (some next))) ∧
    (∀ e c', getVersion c = .error e c' → e.IsNak → c'.session = none) ∧
    (∀ page e c', readPages page c = .error e c' → e.IsNak → c'.session = none) ∧
    ∀ page data,
      (∀ e c', writePage page data c = .error e c' → e.IsNak → c'.session = none ∨
        ∃ code next, code ≠ Code.ack ∧ e = Answer.nakError code ∧
          Delivers c (Command.write page data) [code] next ∧ c'.session = some next) ∧
      ∀ code next, code ≠ Code.ack → Delivers c (Command.write page data) [code] next →
        ∃ c', writePage page data c = .error (Answer.nakError code) c' ∧ c'.session = some next := by
  refine ⟨?_, ?_, ?_, ?_, ?_⟩
  · intro frame code hcode hanswer
    exact ⟨_, transceive_nak hcode hanswer, rfl⟩
  · intro frame code c' hcode
    exact transceive_eq_nak_iff hcode
  · intro e c' hrun
    exact (ends_command_isNak (fun _ _ => Answer.version_not_isNak) Command.getVersion c).error hrun
  · intro page e c' hrun
    exact (ends_command_isNak (fun _ _ => Answer.pages_not_isNak) (Command.read page) c).error hrun
  · intro page data
    refine ⟨fun e c' hrun => (ends_writePage_isNak page data c).error hrun, ?_⟩
    intro code next hcode hdelivers
    exact ⟨_, hdelivers.writePage_eq_error hcode, rfl⟩

end

/-! ### Links that make answers up -/

open Bench in
/-- A session on a link that answers the next frame with these bytes. -/
def scripted (s : Session) (verify : Bool) (answer : Bytes) : Channel RigContact :=
  ⟨⟨Rig.new Field.empty ⟨[], 0⟩, ⟨.script [.ok answer], [], 0⟩⟩, Uid.default.toBytes, some s, verify⟩

/-- A denied access with the right MAC, in a session that verifies its answers. -/
theorem refusal_outcome_sealed :
    let s : Session := ⟨Block.zero, uidSlot, 0⟩
    let next : Session := ⟨Block.zero, uidSlot, 1⟩
    let c := scripted s true ([Code.nakAuth] ++ next.answerMac [Code.nakAuth])
    Code.nakAuth ≠ Code.ack ∧ Delivers c (Command.write 4 Page.zero) [Code.nakAuth] next ∧
      ∃ c', writePage 4 Page.zero c = .error .accessDenied c' ∧ c'.session = some next := by
  intro s next c
  have hcode : Code.nakAuth ≠ Code.ack := by decide
  have hdelivers : Delivers c (Command.write 4 Page.zero) [Code.nakAuth] next :=
    ⟨s, next.answerMac [Code.nakAuth], rfl, rfl, rfl, rfl, fun _ => rfl⟩
  obtain ⟨-, -, -, -, hwrite⟩ := refusal_outcome c
  exact ⟨hcode, hdelivers, (hwrite 4 Page.zero).2 Code.nakAuth next hcode hdelivers⟩

/-- A command that returns a negative acknowledge, and a WRITE that is refused and
keeps its session. -/
theorem refusal_passed_on :
    let s : Session := ⟨Block.zero, uidSlot, 0⟩
    let c := scripted s false (Code.nakAuth :: List.replicate 8 0)
    (∃ c', transceive Command.getVersion c = .ok [Code.nakAuth] c') ∧
      ∃ c', writePage 4 Page.zero c = .error .accessDenied c' ∧ c'.session = some (s.after 1) := by
  intro s c
  exact ⟨⟨_, rfl⟩, _, rfl, rfl⟩

/-- **No tag delivers a negative acknowledge.** Over a link with a tag at its other end,
what a command returns is never one. -/
theorem Delivers.eq_ack {σ : Type} [TagLink σ] {c : Channel σ} {frame : Bytes} {code : UInt8}
    {next : Session} (h : Delivers c frame [code] next) : code = Code.ack := by
  obtain ⟨s, mac, -, -, hmac, hanswer, -⟩ := h
  obtain ⟨t, t', -, hstep, -⟩ := TagLink.exchange_ok (Prod.ext hanswer rfl)
  exact hstep.answers.eq_ack_of_mac hmac

end Channel
end Nearfield
