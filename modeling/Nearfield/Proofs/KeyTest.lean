/-
# Testing the keys of a tag

A test proves both keys, each in a handshake of its own, and then leaves a probe and
its MAC in the scratch area. With the keys of the tag it succeeds, whatever the tag
was doing before, and changes nothing else. With other keys a handshake may be
refused. Then the test fails as an authentication failure, for on a link to a tag
that stays nothing else can go wrong before both keys are proved
(`ends_test_proved`), and the tag is as it was.

What the tag has accepted and refused is seen in the log of the link (`Proved`,
`HandshakeRefused`). The log only grows, and a frame that asks for a handshake stands
in it where a test sends it (`Begun.authenticate_at`).

Key definitions: `Transaction.Proved`, `Transaction.HandshakeRefused`.
Key theorems: `Transaction.ends_test_proved`, `Transaction.Begun.authenticate_at`,
`Transaction.test_outcome`.
-/
import Nearfield.Proofs.Conversation.Discipline
import Nearfield.Proofs.LastWrite

namespace Nearfield

/-! ### Links with a log -/

namespace Logged
variable {σ : Type}

/-- A log in front of a tag hides nothing of it. -/
instance [TagLink σ] : TagLink (Logged σ) where
  tag? l := TagLink.tag? l.link
  lost? l := TagLink.lost? l.link
  Steady l := TagLink.Steady l.link
  tag?_nextByte l := TagLink.tag?_nextByte l.link
  steady_nextByte h := TagLink.steady_nextByte h
  exchange_ok {frame answer l l'} h := by
    rcases hex : FrameLink.exchange frame l.link with ⟨result, link'⟩
    rw [exchange_eq, hex, Prod.mk.injEq] at h
    obtain ⟨rfl, rfl⟩ := h
    exact TagLink.exchange_ok hex
  exchange_error {frame e l l'} h := by
    rcases hex : FrameLink.exchange frame l.link with ⟨result, link'⟩
    rw [exchange_eq, hex, Prod.mk.injEq] at h
    obtain ⟨rfl, rfl⟩ := h
    exact TagLink.exchange_error hex
  exchange_steady {l} frame h := by
    obtain ⟨answer, link', hex, hsteady⟩ := TagLink.exchange_steady frame h
    exact ⟨answer, _, by rw [exchange_eq, hex], hsteady⟩

/-- The log begins with what is in it. -/
def grown [FrameLink σ] (front : List Entry) : LinkProperty (Logged σ) where
  holds l := front <+: l.log
  nextByte h := h.trans (List.prefix_append _ _)
  exchange _ h := h.trans (List.prefix_append _ _)

end Logged

namespace Transaction

open Channel

/-! ### Both keys are proved -/

/-- Behind the front, the log has a handshake for each slot that the tag accepted. -/
def Proved (uidKey dataKey : Key) (front log : List Entry) : Prop :=
  ∃ rndA₀ rndB₀ rndA rndB,
    front ++ handshake dataSlot dataKey rndA₀ rndB₀ ++ handshake uidSlot uidKey rndA rndB <+: log

section
variable {σ : Type} [TagLink σ] {c : Channel (Logged σ)} {t : Tag}

/-- On a steady link to an Ultralight AES, a handshake succeeds and is in the log, or
it fails as an authentication failure. -/
theorem ends_handshake {slot : UInt8} (key : Key) (verify : Bool) (h : Ready c t)
    (hsteady : TagLink.Steady c.link) (hmodel : t.model = .ultralightAes) (hslot : slot ≤ uidSlot) :
    Ends (authenticate slot key verify) c
      (fun _ c' => Ready c' t ∧ TagLink.Steady c'.link ∧
        ∃ rndA rndB, c'.link.log = c.link.log ++ handshake slot key rndA rndB)
      (fun e c' => e.classify = .authFailed ∧ Facing c' t) := by
  have hdenied := ends_authenticate_denied key verify h hsteady hmodel hslot
  refine ((ends_authenticate slot key verify h).and
    (hdenied.and (leaves_authenticate (c := c) slot key verify))).mono ?_ ?_
  · intro _ c' hend
    obtain ⟨hopened, -, added, hlog, rndA, rndB, rfl, -⟩ := hend
    exact ⟨hopened.ready, hopened.steady hsteady, rndA, rndB, hlog⟩
  · intro e c' hend
    obtain ⟨hfailed, hclass, -⟩ := hend
    exact ⟨hclass, hfailed.facing⟩

/-- **Unless both keys are proved, a test is an authentication failure** and leaves
the tag as it was. -/
theorem ends_test_proved (uidKey dataKey : Key) (h : Ready c t) (hsteady : TagLink.Steady c.link)
    (hmodel : t.model = .ultralightAes) :
    Ends (test uidKey dataKey) c (fun _ c' => Proved uidKey dataKey c.link.log c'.link.log)
      (fun e c' => (e.classify = .authFailed ∧ Facing c' t) ∨
        Proved uidKey dataKey c.link.log c'.link.log) := by
  rw [test_eq]
  refine (ends_handshake dataKey true h hsteady hmodel (by decide)).bind (fun _ _ hend => Or.inl hend) ?_
  intro _ c₁ hend
  obtain ⟨hready₁, hsteady₁, rndA₀, rndB₀, hlog₁⟩ := hend
  refine (ends_handshake uidKey true hready₁ hsteady₁ hmodel (by decide)).bind
    (fun _ _ hend => Or.inl hend) ?_
  intro _ c₂ hend
  obtain ⟨-, -, rndA, rndB, hlog₂⟩ := hend
  rw [hlog₁] at hlog₂
  have hgrown := (follows_probeTag (f := (Logged.grown c₂.link.log).inclusion) dataKey).keeps
    (c := c₂) (List.prefix_refl _)
  rw [hlog₂] at hgrown
  exact hgrown.mono (fun _ _ hprefix => ⟨_, _, _, _, hprefix⟩)
    fun _ _ hprefix => Or.inr ⟨_, _, _, _, hprefix⟩

/-- The same of a whole run, and of what its log shows. -/
theorem run_test_cases {link : σ} {uid : Bytes} (uidKey dataKey : Key) (h : Resting (Channel.new uid link) t)
    (hsteady : TagLink.Steady link) (hmodel : t.model = .ultralightAes) :
    ((run uid (.test uidKey dataKey) link).1 = .error .authFailed ∧
      ∃ u, TagLink.tag? (run uid (.test uidKey dataKey) link).2 = some u ∧ u.settled = t.settled) ∨
    ∃ v, Proved uidKey dataKey [versionExchange v] (record uid (.test uidKey dataKey) link) := by
  have hresting : Resting (Channel.new uid (⟨link, []⟩ : Logged σ)) t := h
  have hends : Ends (execute (.test uidKey dataKey)) (Channel.new uid (⟨link, []⟩ : Logged σ))
      (fun _ c' => ∃ v, Proved uidKey dataKey [versionExchange v] c'.link.log)
      (fun e c' => (e.classify = .authFailed ∧ Facing c' t) ∨
        ∃ v, Proved uidKey dataKey [versionExchange v] c'.link.log) := by
    unfold execute
    have hat : Messaging.plain.At 0 uid (Channel.new uid (⟨link, []⟩ : Logged σ)) := ⟨rfl, rfl⟩
    refine ((ends_checkProduct hresting).and (leaves_checkProduct hat)).bind ?_ ?_
    · intro e c' hend
      exact absurd hmodel (hend.1.2 hsteady)
    intro _ c₁ hend
    obtain ⟨⟨hresting₁, hkept₁⟩, front, hlog, v, -, rfl, -⟩ := hend
    refine (ends_test_proved uidKey dataKey hresting₁.ready (hkept₁.steady hsteady) hmodel).mono ?_ ?_
    · intro _ c' hproved
      rw [hlog] at hproved
      exact ⟨v, hproved⟩
    · intro e c' hend
      rw [hlog] at hend
      exact hend.imp_right fun hproved => ⟨v, hproved⟩
  have hrun := run_map Logged.forget uid (.test uidKey dataKey) (⟨link, []⟩ : Logged σ)
  rw [show run uid (.test uidKey dataKey) link = _ from hrun]
  refine run_of_ends (P := fun result (l : Logged σ) => (result = .error .authFailed ∧
    ∃ u, TagLink.tag? l.link = some u ∧ u.settled = t.settled) ∨
      ∃ v, Proved uidKey dataKey [versionExchange v] l.log) (hends.mono ?_ ?_)
  · intro found c' hproved
    exact Or.inr hproved
  · intro e c' hend
    exact hend.imp_left fun hdenied => ⟨congrArg Except.error hdenied.1, hdenied.2⟩

end

/-! ### Refused handshakes -/

/-- The tag has refused a handshake for the slot: AUTHENTICATE, or the proof behind
it, was answered with a negative acknowledge. -/
def HandshakeRefused (slot : UInt8) (sent : List Exchanged) : Prop :=
  ∃ (n : Nat) (answer : Bytes), Answer.nak? answer ≠ none ∧
    (sent[n]? = some (Command.authenticate slot, .ok answer) ∨
      ∃ challenge proof, sent[n]? = some (Command.authenticate slot, challenge) ∧
        sent[n + 1]? = some (proof, .ok answer))

/-- A command does not ask for a handshake, with a MAC behind it or without. -/
theorem Expects.head?_ne {command data : Bytes} (h : Expects command data) (mac : Bytes) :
    (command ++ mac).head? ≠ some Code.authenticate := by
  cases h with
  | read page b hb => exact fun he => absurd (Option.some.inj he) (by decide)
  | write page data => exact fun he => absurd (Option.some.inj he) (by decide)

theorem head?_ne_of_talk {m : Messaging} {n : Nat} {turns : List Turn} {conv : List Entry}
    (h : m.Talk n turns conv) (hexpects : Expected turns) :
    ∀ e ∈ exchanges conv, e.1.head? ≠ some Code.authenticate := by
  induction h with
  | nil n => exact List.forall_mem_nil _
  | @cons n turn turns answer conv hopens _ ih =>
    obtain ⟨hexpect, hturns⟩ := List.forall_mem_cons.mp hexpects
    rw [exchanges_exchanged]
    refine List.forall_mem_cons.mpr ⟨?_, ih hturns⟩
    cases m with
    | plain =>
      have := hexpect.head?_ne []
      rwa [List.append_nil] at this
    | secured s verify => exact hexpect.head?_ne _

/-- **A test asks for two handshakes**, each in its place. -/
theorem Begun.authenticate_at {uid : Bytes} {uidKey dataKey : Key} {log : List Entry}
    (h : Begun uid (.test uidKey dataKey) log) {n : Nat} {slot : UInt8} {answer : Except LinkError Bytes}
    (hn : (exchanges log)[n]? = some (Command.authenticate slot, answer)) :
    (n = 1 ∧ slot = dataSlot) ∨ (n = 3 ∧ slot = uidSlot) := by
  rcases h with ⟨answer', rfl⟩ | ⟨v, rest, hv, rfl, conv, ⟨result, hcourse⟩, hcut⟩
  · rcases n with _ | n
    · cases hn
    · cases hn
  cases hcourse with
  | @test _ rndA rndB _ rndA₀ rndB₀ b readBack probe conv hlen hinside =>
    obtain ⟨conv', hconv, htalk⟩ := hinside.talk
    have hheads := head?_ne_of_talk htalk (hinside.expects (expected_testTurns _ _))
    rw [← hconv] at hheads
    rcases n with _ | n
    · cases hn
    have hframe : ((exchanges rest).map Prod.fst)[n]? = some (Command.authenticate slot) := by
      rw [List.getElem?_map, show (exchanges rest)[n]? = _ from hn]
      rfl
    obtain ⟨hlt, hget⟩ := List.getElem?_eq_some_iff.mp hframe
    have hwhole := List.prefix_iff_getElem?.mp hcut.frames_prefix n hlt
    rw [hget, exchanges_append, exchanges_append, exchanges_handshake, exchanges_handshake] at hwhole
    simp only [List.map_cons, List.cons_append, List.nil_append] at hwhole
    match n, hwhole with
    | 0, hwhole =>
      cases hwhole
      exact Or.inl ⟨rfl, rfl⟩
    | 1, hwhole => cases hwhole
    | 2, hwhole =>
      cases hwhole
      exact Or.inr ⟨rfl, rfl⟩
    | 3, hwhole => cases hwhole
    | n + 4, hwhole =>
      have hmem : Command.authenticate slot ∈ (exchanges conv).map Prod.fst := by
        simp only [List.getElem?_cons_succ] at hwhole
        exact List.mem_of_getElem? hwhole
      obtain ⟨e, he, hsame⟩ := List.mem_map.mp hmem
      exact absurd (congrArg List.head? hsame) (hheads e he)

/-- Where both keys are proved, no handshake is refused. -/
theorem not_handshakeRefused {uid : Bytes} {uidKey dataKey : Key} {v : Version} {log : List Entry}
    (h : Begun uid (.test uidKey dataKey) log) (hproved : Proved uidKey dataKey [versionExchange v] log)
    (slot : UInt8) : ¬ HandshakeRefused slot (exchanges log) := by
  obtain ⟨rndA₀, rndB₀, rndA, rndB, more, rfl⟩ := hproved
  rintro ⟨n, answer, hnak, hchallenge | ⟨challenge, proof, hchallenge, hproof⟩⟩
  · have hplace := h.authenticate_at hchallenge
    simp only [exchanges_append, exchanges_handshake] at hchallenge
    rcases hplace with ⟨rfl, -⟩ | ⟨rfl, -⟩
    · cases hchallenge
      exact hnak rfl
    · cases hchallenge
      exact hnak rfl
  · have hplace := h.authenticate_at hchallenge
    simp only [exchanges_append, exchanges_handshake] at hproof
    rcases hplace with ⟨rfl, -⟩ | ⟨rfl, -⟩
    · cases hproof
      exact hnak rfl
    · cases hproof
      exact hnak rfl

/-! ### Whole tests -/

variable {ρ : Type} [RandomSource ρ] {station : Station ρ} {t : Tag} {uid : Bytes} {contact : Contact ρ}

/-- With the keys of the tag both are proved, and the record is written. -/
theorem run_test_issued (ht : t.Issued) (hresting : Resting (Channel.new uid contact) t)
    (hsteady : contact.Steady) :
    (run uid (.test t.key1 t.key0) contact).1 = .ok ⟨t.uid.toBytes, none⟩ ∧
      ∃ u probe, (run uid (.test t.key1 t.key0) contact).2.field.tag = some u ∧
        probe.length = probeSize ∧ u.memory = tested t.key0 probe t.memory := by
  refine run_of_ends (P := fun result (link : Contact ρ) => result = .ok ⟨t.uid.toBytes, none⟩ ∧
    ∃ u probe, link.field.tag = some u ∧ probe.length = probeSize ∧
      u.memory = tested t.key0 probe t.memory) (ends_execute hresting ?_ ?_)
  · intro e c' _ hproduct
    exact absurd ht.model_eq (hproduct hsteady)
  intro c₁ hresting₁ hkept₁
  refine (ends_tested t.key0 hresting₁).mono ?_ ?_
  · intro found c' hend
    obtain ⟨rfl, probe, hprobe, u, hu, hsettled⟩ := hend
    rw [ht.uid_eq]
    exact ⟨rfl, u, probe, hu, hprobe, Tag.memory_of_settled hsettled⟩
  · intro e c' hend
    obtain ⟨-, hwrong⟩ := hend.2 (hkept₁.steady hsteady)
    exact absurd rfl (hwrong ht.sound)

/-- **A test of the keys, on a fresh activation.** The tag is one as it is issued, with
any keys and any user pages, and in whatever state it was left.

With its keys the test succeeds and finds the identifier. Then the scratch pages hold
eight random bytes and behind them their MAC, which binds them to the identifier under
a key of the data key, and no other page has changed. With any keys, if the tag
refuses a handshake the test is an authentication failure and no page has changed. -/
theorem test_outcome (htag : station.field.tag = some t) (ht : t.Issued)
    (hcontact : station.contact? = some (uid, contact)) :
    ((run uid (.test t.key1 t.key0) contact).1 = .ok ⟨t.uid.toBytes, none⟩ ∧
      ∃ u probe, (run uid (.test t.key1 t.key0) contact).2.field.tag = some u ∧ probe.length = 8 ∧
        u.memory.contents 0x24 4 = probe ++
          Cmac.truncated (diversify t.key0 .probeMac t.uid.toBytes) (t.uid.toBytes ++ probe) ∧
        Memory.SameOutside 0x24 4 t.memory u.memory) ∧
    ∀ uidKey dataKey, (let sent := exchanges (record uid (.test uidKey dataKey) contact)
        HandshakeRefused dataSlot sent ∨ HandshakeRefused uidSlot sent) →
      (run uid (.test uidKey dataKey) contact).1 = .error .authFailed ∧
        ∃ u, (run uid (.test uidKey dataKey) contact).2.field.tag = some u ∧ u.memory = t.memory := by
  obtain ⟨v, hv, hsettled, hidle, hallowance, hgeneration⟩ := Station.resting_contact htag hcontact
  have hresting : Resting (Channel.new uid contact) t := ⟨rfl, v, hv, hsettled, hidle⟩
  have hsteady : contact.Steady := ⟨hgeneration, v, hv, hallowance.trans ht.allowance_eq⟩
  refine ⟨?_, fun uidKey dataKey hrefused => ?_⟩
  · obtain ⟨hresult, u, probe, hu, hprobe, hmemory⟩ := run_test_issued ht hresting hsteady
    have hcontents := contents_tested t.key0 hprobe t.memory
    have hsame := sameOutside_tested t.key0 hprobe t.memory
    rw [ht.uid_eq, ← hmemory] at hcontents
    rw [← hmemory] at hsame
    exact ⟨hresult, u, probe, hu, hprobe, hcontents, hsame⟩
  · rcases run_test_cases uidKey dataKey hresting hsteady ht.model_eq with ⟨hdenied, u, hu, hsame⟩ | hproved
    · exact ⟨hdenied, u, hu, Tag.memory_of_settled hsame⟩
    · obtain ⟨w, hproved⟩ := hproved
      have hnone := not_handshakeRefused (begun_record uid _ contact) hproved
      exact absurd hrefused (not_or.mpr ⟨hnone dataSlot, hnone uidSlot⟩)

/-- A tag with a random identifier that was left in the middle of a handshake: a test
with its keys, and one with another key for the identifier. -/
theorem test_outcome_left_challenged :
    let one : Block := ⟨⟨1, 0, 0, 0⟩, Page.zero, Page.zero, Page.zero⟩
    let t : Tag := { Tag.new Uid.default with
      randomId := true, key1 := one, state := .challenged uidSlot Block.zero }
    let station : Station ByteStream := ⟨⟨some t, 1, 0⟩, ⟨[], 0⟩⟩
    let uid := (t.activate station.rng).1
    let contact : Contact ByteStream :=
      ⟨⟨some { t with state := .idle }, 1, 0⟩, 1, (t.activate station.rng).2.2⟩
    let sent := exchanges (record uid (.test Block.zero t.key0) contact)
    (station.field.tag = some t ∧ t.Issued ∧ station.contact? = some (uid, contact)) ∧
    ((run uid (.test t.key1 t.key0) contact).1 = .ok ⟨t.uid.toBytes, none⟩ ∧
      ∃ u probe, (run uid (.test t.key1 t.key0) contact).2.field.tag = some u ∧ probe.length = 8 ∧
        u.memory.contents 0x24 4 = probe ++
          Cmac.truncated (diversify t.key0 .probeMac t.uid.toBytes) (t.uid.toBytes ++ probe) ∧
        Memory.SameOutside 0x24 4 t.memory u.memory) ∧
    HandshakeRefused uidSlot sent ∧ (run uid (.test Block.zero t.key0) contact).1 = .error .authFailed ∧
      ∃ u, (run uid (.test Block.zero t.key0) contact).2.field.tag = some u ∧ u.memory = t.memory := by
  intro one t station uid contact sent
  have htag : station.field.tag = some t := rfl
  have ht : t.Issued := ⟨rfl, rfl, rfl, Memory.SameOutside.refl 4 36 _⟩
  have hcontact : station.contact? = some (uid, contact) := rfl
  have hasked : sent[3]?.map Prod.fst = some (Command.authenticate uidSlot) := by decide +kernel
  have hanswered : sent[4]?.map Prod.snd = some (.ok [Code.nakAuth]) := by decide +kernel
  have hrefused : HandshakeRefused uidSlot sent := by
    obtain ⟨⟨asked, challenge⟩, hasked, rfl⟩ := Option.map_eq_some_iff.mp hasked
    obtain ⟨⟨proof, answered⟩, hanswered, rfl⟩ := Option.map_eq_some_iff.mp hanswered
    exact ⟨3, [Code.nakAuth], Tag.nak?_refused_ne (by decide), Or.inr ⟨challenge, proof, hasked, hanswered⟩⟩
  obtain ⟨hright, hwrong⟩ := test_outcome htag ht hcontact
  exact ⟨⟨htag, ht, hcontact⟩, hright, hrefused, hwrong Block.zero t.key0 (Or.inr hrefused)⟩

end Transaction
end Nearfield
