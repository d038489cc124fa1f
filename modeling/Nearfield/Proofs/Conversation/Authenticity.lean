/-
# Answers speak for themselves

A transaction whose answers are verified and that succeeds has heard the tag and
nobody else, whatever the link is. Its handshakes ended with the proof that the
tag holds the key, for random bytes that the host had just drawn; and behind
every answer after them stands the MAC of its data under the session's MAC key
and the number of the answer, with no number left out. The identifier, the area,
the acknowledges and the record that is read back are these data.

Key definitions: `Messaging.sealedTurn`, `Transaction.Yields`.
Key theorem: `Transaction.answers_authenticated`.
-/
import Nearfield.Engine
import Nearfield.Proofs.Conversation.Transactions

namespace Nearfield

/-! ### A conversation with its MACs -/

namespace Messaging
variable {s : Session} {n : Nat} {turns : List Turn} {conv : List Entry}

/-- A turn in a session, as it is seen on the link. -/
def sealedTurn (s : Session) (n : Nat) (turn : Turn) : Exchanged :=
  ((s.after n).protect turn.command,
    .ok (turn.data ++ Cmac.truncated s.macKey (Bytes.littleEndian (UInt16.ofNat (n + 1)) ++ turn.data)))

/-- **Verified answers are all sealed**, the one after the other. -/
theorem Talk.exchanges_verified (h : (Messaging.secured s true).Talk n turns conv) :
    exchanges conv = turns.mapIdx fun i turn => sealedTurn s (n + i) turn := by
  generalize hm : Messaging.secured s true = m at h
  induction h with
  | nil n => rfl
  | @cons n turn turns answer conv hopens _ ih =>
    subst hm
    have hanswer : answer = turn.data ++ (s.after (n + 1)).answerMac turn.data :=
      Session.openAnswer_verified_iff.mp hopens.2
    have hrest : (turns.mapIdx fun i turn => sealedTurn s (n + 1 + i) turn)
        = turns.mapIdx fun i turn => sealedTurn s (n + (i + 1)) turn := by
      simp only [Nat.add_assoc, Nat.add_comm 1]
    rw [exchanges_exchanged, ih, hrest, List.mapIdx_cons, hanswer]
    rfl

end Messaging

namespace Transaction

open Channel Messaging

variable {σ : Type} [FrameLink σ] {uid : Bytes}

/-- What a transaction finds is made of the data of its turns. -/
def Yields : Request → List Turn → Finding → Prop
  | .read _ _ dataKey, turns, found => ∃ b bs, UidChecked b ∧ bs.length = 8 ∧
      turns = readTurn 0 b :: readTurns payloadStart bs ∧
      found.uid = (uidIn b).toBytes ∧ readOut dataKey found.uid (Block.join bs) = .ok found.payload
  | .write payload _ dataKey, turns, found => ∃ b area header body, UidChecked b ∧
      turns = readTurn 0 b :: commitTurns payloadStart PayloadArea.emptyHeader header body ∧
      found = ⟨(uidIn b).toBytes, none⟩ ∧
      PayloadArea.Encodes dataKey found.uid payload area ∧ splitPages area = header :: body
  | .test _ dataKey, turns, found => ∃ b probe readBack, UidChecked b ∧
      turns = readTurn 0 b :: testTurns (probeRecord dataKey found.uid probe) readBack ∧
      found = ⟨(uidIn b).toBytes, none⟩ ∧ readBack.toBytes = probeRecord dataKey found.uid probe

/-- The handshakes in front of the one for the identifier: a test proves the
data key as well. -/
def Preceding : Request → List Entry → Prop
  | .test _ dataKey, first => ∃ rndA rndB, first = handshake dataSlot dataKey rndA rndB
  | _, first => first = []

/-- **Verified answers authenticate the whole transaction.** If a transaction
with verified answers succeeds, then after the version exchange each of its
handshakes was a whole one, with the tag's proof for the random bytes that the
host drew; all that followed was the turns of one session, each answer under the
MAC with the next number; and what was found is made of the data in them. -/
theorem answers_authenticated {request : Request} {link : σ} {found : Finding}
    (hverified : request.verifies = true) (h : (run uid request link).1 = .ok found) :
    ∃ (v : Version) (first : List Entry) (rndA rndB : Block) (conv : List Entry) (turns : List Turn),
      record uid request link =
        versionExchange v :: (first ++ (handshake uidSlot request.uidKey rndA rndB ++ conv)) ∧
      Preceding request first ∧
      exchanges conv =
        turns.mapIdx (sealedTurn (Session.establish request.uidKey uidSlot rndA rndB)) ∧
      Yields request turns found := by
  obtain ⟨v, rest, -, hlog, hcourse⟩ := course_of_ok h
  have hsealed : ∀ {uidKey rndA rndB b : Block} {drawn : Bytes} {turns : List Turn} {conv : List Entry},
      Inside (opened uidKey rndA rndB true) b drawn turns conv → exchanges conv
        = (readTurn 0 b :: turns).mapIdx (sealedTurn (Session.establish uidKey uidSlot rndA rndB)) := by
    intro uidKey rndA rndB b drawn turns conv hinside
    obtain ⟨conv', hconv, htalk⟩ := hinside.talk
    rw [hconv, htalk.exchanges_verified]
    simp only [Nat.zero_add]
  generalize hresult : (Except.ok found : Except TagError Finding) = result at hcourse
  cases hcourse with
  | fast => cases hverified
  | clear hlen htalk => cases hverified
  | @secured mode uidKey rndA rndB dataKey b bs conv hneeds hlen hinside =>
    obtain ⟨huid, hout⟩ := readFinding_eq_ok hresult.symm
    have hverify : mode.verifiesCmac = true := hverified
    rw [hverify] at hinside
    refine ⟨v, [], rndA, rndB, conv, _, hlog, rfl, hsealed hinside, b, bs, hinside.1, hlen, rfl, huid, ?_⟩
    rw [huid]
    exact hout
  | @write payload area drawn uidKey rndA rndB dataKey b header body conv hencodes hsplit hinside =>
    cases hresult
    exact ⟨v, [], rndA, rndB, conv, _, hlog, rfl, hsealed hinside, b, area, header, body, hinside.1, rfl,
      rfl, hencodes, hsplit⟩
  | oversized hlen hinside => cases hresult
  | @test uidKey rndA rndB dataKey rndA₀ rndB₀ b readBack probe conv hlen hinside =>
    obtain ⟨hsame, rfl⟩ := testFinding_eq_ok hresult.symm
    exact ⟨v, _, rndA, rndB, conv, _, hlog, ⟨rndA₀, rndB₀, rfl⟩, hsealed hinside, b, probe, readBack,
      hinside.1, rfl, rfl, hsame⟩

/-- A test of both keys of a new tag. -/
theorem answers_authenticated_test :
    let t := Tag.new Uid.default
    let contact : Contact ByteStream := ⟨⟨some t, 1, 0⟩, 1, ⟨[], 0⟩⟩
    let request : Request := .test t.key1 t.key0
    request.verifies = true ∧ (run t.uid.toBytes request contact).1 = .ok ⟨t.uid.toBytes, none⟩ ∧
      ∃ v first rndA rndB conv turns, record t.uid.toBytes request contact =
          versionExchange v :: (first ++ (handshake uidSlot t.key1 rndA rndB ++ conv)) ∧
        Preceding request first ∧
        exchanges conv = turns.mapIdx (sealedTurn (Session.establish t.key1 uidSlot rndA rndB)) ∧
        Yields request turns ⟨t.uid.toBytes, none⟩ := by
  intro t contact request
  have hverified : request.verifies = true := rfl
  have hok : (run t.uid.toBytes request contact).1 = .ok ⟨t.uid.toBytes, none⟩ := by decide +kernel
  exact ⟨hverified, hok, answers_authenticated hverified hok⟩

end Transaction
end Nearfield
