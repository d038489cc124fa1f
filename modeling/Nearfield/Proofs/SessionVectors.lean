/-
# Session keys depend on both random numbers

The text of a session key has 32 bytes and mixes the numbers of both sides: six bytes
of B are combined with six of A, and all others stand as they are. With one number
fixed, the other one can be read off (`sessionVector_inj_left`, `sessionVector_inj_right`).
Two pairs of numbers have one text exactly if they differ by the same six bytes at the
place where the text combines them (`sessionVector_eq_iff`); so either both sides have
another number or neither (`ChangedTogether.eq_iff`).

The session that a tag is in and the one that a host has opened are made from such a
pair: the tag's own challenge with what the host's proof carries, the host's own draw
with what the tag's challenge carries (`Tag.Origin.keyedBy`, `Channel.keyedBy_of_authenticate`).
So each side's own fresh number alone changes the text of every session key, and under
one key two sessions have the same MAC key only if both numbers changed together, or by
a collision of the code (`session_vectors_depend_on_both`).

Key definitions: `ChangedTogether`, `Session.KeyedBy`.
Key theorems: `sessionVector_eq_iff`, `ChangedTogether.eq_iff`,
`session_vectors_depend_on_both`.
-/
import Nearfield.Proofs.Conversation.Commands
import Nearfield.Proofs.Tag.History

namespace Nearfield

/-! ### Differences -/

/-- Two sums agree exactly if their terms differ by the same. -/
theorem Bytes.xor_eq_xor_iff {a b a' b' : UInt8} : a ^^^ b = a' ^^^ b' ↔ a ^^^ a' = b ^^^ b' := by
  rw [← UInt8.xor_eq_zero_iff, ← UInt8.xor_eq_zero_iff (a := a ^^^ a')]
  simp only [UInt8.xor_assoc, Bytes.xor_left_comm b]

theorem Bytes.exists_of_length_six {d : Bytes} (h : d.length = 6) :
    ∃ d0 d1 d2 d3 d4 d5, d = [d0, d1, d2, d3, d4, d5] := by
  match d, h with
  | [d0, d1, d2, d3, d4, d5], _ => exact ⟨d0, d1, d2, d3, d4, d5, rfl⟩

namespace Block

theorem xor_eq_zero_iff {a b : Block} : a.xor b = zero ↔ a = b := by
  obtain ⟨⟨a0, a1, a2, a3⟩, ⟨a4, a5, a6, a7⟩, ⟨a8, a9, a10, a11⟩, ⟨a12, a13, a14, a15⟩⟩ := a
  obtain ⟨⟨b0, b1, b2, b3⟩, ⟨b4, b5, b6, b7⟩, ⟨b8, b9, b10, b11⟩, ⟨b12, b13, b14, b15⟩⟩ := b
  simp only [xor, Word.xor, zero, mk.injEq, Word.mk.injEq, UInt8.xor_eq_zero_iff]

/-- Six bytes are as little zero at one place of a block as at another. -/
theorem zeroFilled_eq_zero_iff {d : Bytes} (h : d.length = 6) :
    zeroFilled (0 :: 0 :: d) = zero ↔ zeroFilled d = zero := by
  obtain ⟨d0, d1, d2, d3, d4, d5, rfl⟩ := Bytes.exists_of_length_six h
  simp [zeroFilled, zero, and_assoc]

end Block

/-! ### The text of a session key -/

variable {label : Bytes} {rndA rndB rndA' rndB' : Block}

theorem length_sessionVector (label : Bytes) (rndA rndB : Block) :
    (sessionVector label rndA rndB).length = label.length + 26 := by
  simp [sessionVector, Block.size]

/-- The label in front tells the two uses apart. -/
theorem encryptionVector_ne_macVector (rndA rndB rndA' rndB' : Block) :
    sessionVector encryptionLabel rndA rndB ≠ sessionVector macLabel rndA' rndB' := by
  intro h
  have hfirst : (0xA5 : UInt8) = 0x5A := Option.some.inj (congrArg List.head? h)
  exact absurd hfirst (by decide)

/-- Both numbers are changed by the same six bytes: the first ones of B, and those of A
from its third on. -/
def ChangedTogether (rndA rndB rndA' rndB' : Block) : Prop :=
  ∃ d : Bytes, d.length = 6 ∧ rndA.xor rndA' = Block.zeroFilled (0 :: 0 :: d) ∧
    rndB.xor rndB' = Block.zeroFilled d

/-- If both are changed by the same, then both are changed, or neither is. -/
theorem ChangedTogether.eq_iff (h : ChangedTogether rndA rndB rndA' rndB') :
    rndA = rndA' ↔ rndB = rndB' := by
  obtain ⟨d, hlen, hA, hB⟩ := h
  calc rndA = rndA'
      ↔ rndA.xor rndA' = Block.zero := Block.xor_eq_zero_iff.symm
    _ ↔ Block.zeroFilled (0 :: 0 :: d) = Block.zero := by rw [hA]
    _ ↔ Block.zeroFilled d = Block.zero := Block.zeroFilled_eq_zero_iff hlen
    _ ↔ rndB.xor rndB' = Block.zero := by rw [hB]
    _ ↔ rndB = rndB' := Block.xor_eq_zero_iff

/-- **Two pairs of numbers have one text exactly if they are changed together.** -/
theorem sessionVector_eq_iff :
    sessionVector label rndA rndB = sessionVector label rndA' rndB' ↔
      ChangedTogether rndA rndB rndA' rndB' := by
  obtain ⟨⟨a0, a1, a2, a3⟩, ⟨a4, a5, a6, a7⟩, ⟨a8, a9, a10, a11⟩, ⟨a12, a13, a14, a15⟩⟩ := rndA
  obtain ⟨⟨b0, b1, b2, b3⟩, ⟨b4, b5, b6, b7⟩, ⟨b8, b9, b10, b11⟩, ⟨b12, b13, b14, b15⟩⟩ := rndB
  obtain ⟨⟨c0, c1, c2, c3⟩, ⟨c4, c5, c6, c7⟩, ⟨c8, c9, c10, c11⟩, ⟨c12, c13, c14, c15⟩⟩ := rndA'
  obtain ⟨⟨d0, d1, d2, d3⟩, ⟨d4, d5, d6, d7⟩, ⟨d8, d9, d10, d11⟩, ⟨d12, d13, d14, d15⟩⟩ := rndB'
  -- byte by byte: twenty bytes stand as they are, and six sums become six differences
  simp only [sessionVector, Block.toBytes, Word.toBytes, Bytes.xor, List.append_assoc,
    List.append_cancel_left_eq, List.cons_append, List.nil_append, List.take_succ_cons, List.take_zero,
    List.drop_succ_cons, List.drop_zero, List.zipWith_cons_cons, List.zipWith_nil_right,
    List.cons.injEq, Bytes.xor_eq_xor_iff]
  constructor
  · intro h
    refine ⟨[b0 ^^^ d0, b1 ^^^ d1, b2 ^^^ d2, b3 ^^^ d3, b4 ^^^ d4, b5 ^^^ d5], rfl, ?_, ?_⟩
    · simp [Block.xor, Word.xor, Block.zeroFilled, h]
    · simp [Block.xor, Word.xor, Block.zeroFilled, h]
  · rintro ⟨d, hlen, hA, hB⟩
    obtain ⟨x0, x1, x2, x3, x4, x5, rfl⟩ := Bytes.exists_of_length_six hlen
    simp only [Block.xor, Word.xor, Block.zeroFilled, Block.mk.injEq, Word.mk.injEq,
      List.getD_cons_zero, List.getD_cons_succ, List.getD_nil, UInt8.xor_eq_zero_iff] at hA hB
    simp [hA, hB]

/-- With A fixed, the text tells B. -/
theorem sessionVector_inj_right :
    sessionVector label rndA rndB = sessionVector label rndA rndB' ↔ rndB = rndB' :=
  ⟨fun h => (sessionVector_eq_iff.mp h).eq_iff.mp rfl, congrArg _⟩

/-- With B fixed, the text tells A. -/
theorem sessionVector_inj_left :
    sessionVector label rndA rndB = sessionVector label rndA' rndB ↔ rndA = rndA' :=
  ⟨fun h => (sessionVector_eq_iff.mp h).eq_iff.mpr rfl, fun h => by rw [h]⟩

/-! ### Sessions -/

/-- The MAC key of the session is derived from these numbers. -/
def Session.KeyedBy (s : Session) (key : Key) (rndA rndB : Block) : Prop :=
  s.macKey = Cmac.full key (sessionVector macLabel rndA rndB)

/-- Sessions of one key with the same MAC key: their numbers changed together, or two
texts have the same code. -/
theorem Session.KeyedBy.changedTogether_or {s s' : Session} {key : Key} (h : s.KeyedBy key rndA rndB)
    (h' : s'.KeyedBy key rndA' rndB') (hsame : s.macKey = s'.macKey) :
    ChangedTogether rndA rndB rndA' rndB' ∨
      (sessionVector macLabel rndA rndB ≠ sessionVector macLabel rndA' rndB' ∧
        Cmac.full key (sessionVector macLabel rndA rndB)
          = Cmac.full key (sessionVector macLabel rndA' rndB')) := by
  by_cases htext : sessionVector macLabel rndA rndB = sessionVector macLabel rndA' rndB'
  · exact Or.inl (sessionVector_eq_iff.mp htext)
  · exact Or.inr ⟨htext, h.symm.trans (hsame.trans h')⟩

/-- The session of a tag is derived from its challenge and what the host proved with. -/
theorem Tag.Origin.keyedBy {ρ : Type} [RandomSource ρ] {start : Tag × ρ} {history : List Tag.Event}
    (o : Tag.Origin start history) : o.current.KeyedBy (start.1.key o.slot) o.rndA o.rndB := rfl

/-- The session of a host is derived from what it drew and the challenge that it was sent. -/
theorem Channel.keyedBy_of_authenticate {σ : Type} [FrameLink σ] {c c' : Channel (Logged σ)}
    {slot : UInt8} {key : Key} {verify : Bool} (h : authenticate slot key verify c = .ok () c') :
    ∃ rndA rndB s, c'.link.log = c.link.log ++ handshake slot key rndA rndB ∧ c'.session = some s ∧
      s.KeyedBy key rndA rndB := by
  obtain ⟨added, hlog, rndA, rndB, rfl, -, hsession, -⟩ := (leaves_authenticate slot key verify).ok h
  exact ⟨rndA, rndB, _, hlog, hsession, rfl⟩

/-- **Session keys depend fully on both random numbers.** The codes of two texts of 32
bytes, which are never the same, are the keys of a session. With one number fixed,
another one on the other side always gives another text, for either use; and two pairs
of numbers have one text exactly if they are changed together, so that both sides have
another number or neither. Hence under one key, two sessions have the same MAC key only
so, or by a collision of the code. The numbers are those of the handshake: whatever the
history of a tag, the session it is in is derived from its challenge and the number in
the host's proof; and a host's session, on any link, from what it drew and the challenge. -/
theorem session_vectors_depend_on_both :
    (∀ key rndA rndB,
      sessionKeys key rndA rndB = (Cmac.full key (sessionVector encryptionLabel rndA rndB),
        Cmac.full key (sessionVector macLabel rndA rndB)) ∧
      (sessionVector encryptionLabel rndA rndB).length = 32 ∧
      (sessionVector macLabel rndA rndB).length = 32 ∧
      ∀ rndA' rndB', sessionVector encryptionLabel rndA rndB ≠ sessionVector macLabel rndA' rndB') ∧
    (∀ label rndA rndB rndB',
      sessionVector label rndA rndB = sessionVector label rndA rndB' ↔ rndB = rndB') ∧
    (∀ label rndA rndA' rndB,
      sessionVector label rndA rndB = sessionVector label rndA' rndB ↔ rndA = rndA') ∧
    (∀ label rndA rndB rndA' rndB',
      sessionVector label rndA rndB = sessionVector label rndA' rndB' ↔
        ChangedTogether rndA rndB rndA' rndB') ∧
    (∀ rndA rndB rndA' rndB', ChangedTogether rndA rndB rndA' rndB' → (rndA = rndA' ↔ rndB = rndB')) ∧
    (∀ key (s s' : Session) rndA rndB rndA' rndB', s.KeyedBy key rndA rndB → s'.KeyedBy key rndA' rndB' →
      s.macKey = s'.macKey → ChangedTogether rndA rndB rndA' rndB' ∨
        (sessionVector macLabel rndA rndB ≠ sessionVector macLabel rndA' rndB' ∧
          Cmac.full key (sessionVector macLabel rndA rndB)
            = Cmac.full key (sessionVector macLabel rndA' rndB'))) ∧
    (∀ (ρ : Type) [RandomSource ρ] (start : Tag × ρ) history s, start.1.state = .idle →
      (Tag.after start history).state = .authenticated s →
      ∃ o : Tag.Origin start history, s = o.current ∧
        s.KeyedBy (start.1.key o.slot) o.rndA o.rndB) ∧
    ∀ (σ : Type) [FrameLink σ] (c c' : Channel (Logged σ)) slot key verify,
      Channel.authenticate slot key verify c = .ok () c' →
      ∃ rndA rndB s, c'.link.log = c.link.log ++ Channel.handshake slot key rndA rndB ∧
        c'.session = some s ∧ s.KeyedBy key rndA rndB := by
  refine ⟨?_, fun _ _ _ _ => sessionVector_inj_right, fun _ _ _ _ => sessionVector_inj_left,
    fun _ _ _ _ _ => sessionVector_eq_iff, fun _ _ _ _ h => h.eq_iff,
    fun _ _ _ _ _ _ _ h h' => h.changedTogether_or h', ?_, ?_⟩
  · intro key rndA rndB
    exact ⟨rfl, length_sessionVector _ rndA rndB, length_sessionVector _ rndA rndB,
      encryptionVector_ne_macVector rndA rndB⟩
  · intro ρ _ start history s hidle hstate
    obtain ⟨o, rfl⟩ := (Tag.explained hidle history).authenticated s hstate
    exact ⟨o, rfl, o.keyedBy⟩
  · intro σ _ c c' slot key verify h
    exact Channel.keyedBy_of_authenticate h

/-- A tag with two sessions that have one MAC key: in the second one, the host has turned
the third byte of its number and the tag the first one of its challenge. A host on a
contact with such a tag opens a session. -/
theorem session_vectors_depend_on_both_twins :
    let rndA := Block.zeroFilled [0, 0, 1]
    let rndB := Block.zeroFilled [1]
    let t := Tag.new Uid.default
    let start : Tag × ByteStream := (t, ⟨Block.zero.toBytes ++ rndB.toBytes, 0⟩)
    let opening (rndA rndB : Block) : List Tag.Event :=
      [.frame (Command.authenticate uidSlot), .frame (Tag.proofFrame t.key1 rndA rndB)]
    let first := opening Block.zero Block.zero
    let second := first ++ .activation :: opening rndA rndB
    let s := Session.establish t.key1 uidSlot Block.zero Block.zero
    let s' := Session.establish t.key1 uidSlot rndA rndB
    let contact : Contact ByteStream := ⟨⟨some t, 1, 0⟩, 1, start.2⟩
    let c : Channel (Logged (Contact ByteStream)) := Channel.new t.uid.toBytes ⟨contact, []⟩
    t.state = .idle ∧ (Tag.after start first).state = .authenticated s ∧
      (Tag.after start second).state = .authenticated s' ∧ s.macKey = s'.macKey ∧
      (∃ o : Tag.Origin start second, s' = o.current ∧ s'.KeyedBy (t.key o.slot) o.rndA o.rndB) ∧
      ChangedTogether Block.zero Block.zero rndA rndB ∧ Block.zero ≠ rndA ∧ Block.zero ≠ rndB ∧
      ∃ c' rndA rndB s, Channel.authenticate uidSlot t.key1 true c = .ok () c' ∧
        c'.link.log = Channel.handshake uidSlot t.key1 rndA rndB ∧ c'.session = some s ∧
        s.KeyedBy t.key1 rndA rndB := by
  intro rndA rndB t start opening first second s s' contact c
  obtain ⟨-, -, -, hiff, hboth, hpair, htag, hhost⟩ := session_vectors_depend_on_both
  have hidle : t.state = .idle := rfl
  have hfirst : (Tag.after start first).state = .authenticated s := by decide +kernel
  have hsecond : (Tag.after start second).state = .authenticated s' := by decide +kernel
  have hkey : s.macKey = s'.macKey := by decide +kernel
  have htwins : ChangedTogether Block.zero Block.zero rndA rndB :=
    (hpair t.key1 s s' _ _ _ _ rfl rfl hkey).resolve_right fun hcollides => hcollides.1 (by decide)
  have hA : Block.zero ≠ rndA := by decide
  have hB : Block.zero ≠ rndB := fun h => hA ((hboth _ _ _ _ htwins).mpr h)
  refine ⟨hidle, hfirst, hsecond, hkey, htag ByteStream start second s' hidle hsecond, htwins, hA, hB, ?_⟩
  have hopens : (match Channel.authenticate uidSlot t.key1 true c with
      | .ok _ _ => true
      | .error _ _ => false) = true := by decide +kernel
  cases hrun : Channel.authenticate uidSlot t.key1 true c with
  | ok u c' =>
    obtain ⟨a, b, s'', hlog, hsession, hkeyed⟩ := hhost _ c c' uidSlot t.key1 true hrun
    exact ⟨c', a, b, s'', rfl, hlog, hsession, hkeyed⟩
  | error e c' =>
    rw [hrun] at hopens
    cases hopens

end Nearfield
