/-
# No payload without its protection

What a read reports is what it was told, with the protection that the request
asks for, whatever the link is. With a data key a payload is reported only if
the area holds its sealed encoding under that key and the reported identifier,
and it is reported as verified; without one the stored body is reported as it
stands, and never as verified. A fast read reports no payload and asks for none.

Key definition: `Transaction.Reported`.
Key theorems: `Transaction.reported_of_readOut`, `Transaction.payload_protected`.
-/
import Nearfield.Engine
import Nearfield.Proofs.Conversation.Transactions

namespace Nearfield
namespace Transaction

open Channel Messaging

/-- What may be reported for an area, by a tag with this identifier. -/
inductive Reported (uid area : Bytes) : Option Key → Option Payload → Prop where
  | empty (dataKey : Option Key) (rest : Bytes) (harea : area = PayloadArea.emptyFormat :: rest) :
    Reported uid area dataKey none
  /-- The area opens with the sealed format, the length of the body and the body,
  which is the sealed encoding with its first block as start value. -/
  | verified (key : Key) (length : UInt8) (iv : Block) (data body fill : Bytes)
    (harea : area = PayloadArea.sealedFormat :: length :: (body ++ fill)) (hlen : body.length = length.toNat)
    (hbody : body = PayloadArea.sealedBody key uid iv data) (hiv : iv.toBytes = body.take Block.size) :
    Reported uid area (some key) (some ⟨data, .verified⟩)
  /-- The area opens with a format, the length of the body and the body. -/
  | unprotected (format length : UInt8) (body fill : Bytes)
    (hformat : format = PayloadArea.plainFormat ∨ format = PayloadArea.sealedFormat)
    (harea : area = format :: length :: (body ++ fill)) (hlen : body.length = length.toNat) :
    Reported uid area none (some ⟨body, .unprotected⟩)

theorem payloadOf_sealed (key : Key) (uid body : Bytes) : payloadOf (some key) uid (.sealed body)
    = (PayloadArea.decodeSealed key uid body).map fun data => some ⟨data, .verified⟩ := by
  rw [payloadOf]
  cases PayloadArea.decodeSealed key uid body <;> rfl

/-- In an area that is not too long the length byte tells the length. -/
theorem length_of_withHeader {area body fill : Bytes} {format : UInt8}
    (harea : area = PayloadArea.withHeader format body ++ fill) (hsize : area.length ≤ 255) :
    ∃ length : UInt8, area = format :: length :: (body ++ fill) ∧ body.length = length.toNat := by
  refine ⟨UInt8.ofNat body.length, harea, ?_⟩
  have hlen : body.length < 256 := by
    rw [harea, List.length_append, PayloadArea.length_withHeader] at hsize
    omega
  rw [UInt8.toNat_ofNat']
  exact (Nat.mod_eq_of_lt hlen).symm

/-- **All that is read out of an area may be reported.** -/
theorem reported_of_readOut {dataKey : Option Key} {uid area : Bytes} {payload : Option Payload}
    (hsize : area.length ≤ 255) (h : readOut dataKey uid area = .ok payload) :
    Reported uid area dataKey payload := by
  cases hdecode : PayloadArea.decode area with
  | error e =>
    rw [readOut_of_error hdecode] at h
    cases h
  | ok stored =>
    rw [readOut_of_ok hdecode] at h
    have hopens := PayloadArea.opens_of_decode hdecode
    cases stored with
    | empty =>
      cases h
      obtain ⟨rest, harea⟩ := hopens
      exact .empty dataKey rest harea
    | plain body =>
      obtain ⟨fill, harea⟩ := hopens
      obtain ⟨length, harea, hlen⟩ := length_of_withHeader harea hsize
      cases dataKey with
      | none =>
        cases h
        exact .unprotected _ length body fill (Or.inl rfl) harea hlen
      | some key => cases h
    | «sealed» body =>
      obtain ⟨fill, harea⟩ := hopens
      obtain ⟨length, harea, hlen⟩ := length_of_withHeader harea hsize
      cases dataKey with
      | none =>
        cases h
        exact .unprotected _ length body fill (Or.inr rfl) harea hlen
      | some key =>
        rw [payloadOf_sealed] at h
        cases hsealed : PayloadArea.decodeSealed key uid body with
        | error e =>
          rw [hsealed] at h
          cases h
        | ok data =>
          rw [hsealed] at h
          cases h
          have hbody := PayloadArea.sealedBody_of_decodeSealed hsealed
          have hiv := PayloadArea.take_sealedBody key uid (Block.zeroFilled (body.take Block.size)) data
          rw [hbody] at hiv
          exact .verified key length _ data body fill harea hlen hbody.symm hiv.symm

variable {σ : Type} [FrameLink σ] {uid : Bytes}

/-- **No link makes a read report less protection than was asked for.** A fast
read asks for the version only and reports the identifier from anticollision.
Every other read ends with the eight READs of the payload area, and reports what
may be reported for the area that the answers make up. -/
theorem payload_protected {mode : ReadMode} {uidKey : Key} {dataKey : Option Key} {link : σ}
    {found : Finding} (h : (run uid (.read mode uidKey dataKey) link).1 = .ok found) :
    (mode = .fast → found = ⟨uid, none⟩ ∧
      ∃ v, record uid (.read mode uidKey dataKey) link = [versionExchange v]) ∧
    (mode ≠ .fast → ∃ (m : Messaging) (n : Nat) (front reads : List Entry) (bs : List Block),
      ((m = .plain ∧ found.uid = uid) ∨ ∃ rndA rndB, m = opened uidKey rndA rndB mode.verifiesCmac) ∧
      record uid (.read mode uidKey dataKey) link = front ++ reads ∧ bs.length = 8 ∧
      m.Talk n (readTurns payloadStart bs) reads ∧
      Reported found.uid (Block.join bs) dataKey found.payload) := by
  obtain ⟨v, rest, -, hlog, hcourse⟩ := course_of_ok h
  have hreported : ∀ {u : Bytes} {bs : List Block}, bs.length = 8 →
      readFinding dataKey u (Block.join bs) = .ok found →
      found.uid = u ∧ Reported found.uid (Block.join bs) dataKey found.payload := by
    intro u bs hlen hresult
    have hsize : (Block.join bs).length ≤ 255 := by
      rw [Block.length_join, hlen]
      decide
    obtain ⟨huid, hout⟩ := readFinding_eq_ok hresult
    rw [huid]
    exact ⟨rfl, reported_of_readOut hsize hout⟩
  generalize hresult : (Except.ok found : Except TagError Finding) = result at hcourse
  cases hcourse with
  | fast =>
    cases hresult
    exact ⟨fun _ => ⟨rfl, v, hlog⟩, fun hne => absurd rfl hne⟩
  | @clear _ _ bs _ hlen htalk =>
    obtain ⟨huid, hbs⟩ := hreported hlen hresult.symm
    refine ⟨fun hfast => absurd hfast (by decide), fun _ => ?_⟩
    exact ⟨.plain, 0, [versionExchange v], rest, bs, Or.inl ⟨rfl, huid⟩, hlog, hlen, htalk, hbs⟩
  | @secured _ _ rndA rndB _ b bs conv hneeds hlen hinside =>
    obtain ⟨huid, hbs⟩ := hreported hlen hresult.symm
    obtain ⟨-, asked, told, rfl, -, htold⟩ := hinside
    have hfull : mode ≠ .fast := fun hfast => by
      rw [hfast] at hneeds
      cases hneeds
    refine ⟨fun hfast => absurd hfast hfull, fun _ => ?_⟩
    refine ⟨opened uidKey rndA rndB mode.verifiesCmac, 1,
      versionExchange v :: (handshake uidSlot uidKey rndA rndB ++ asked), told, bs,
      Or.inr ⟨rndA, rndB, rfl⟩, ?_, hlen, htold, hbs⟩
    rw [hlog, List.cons_append, List.append_assoc]
    rfl

/-- A sealed payload, read in a session whose answers are verified. -/
theorem payload_protected_sealed :
    let key := Block.zero
    let uid := Uid.default.toBytes
    let area := PayloadArea.withHeader PayloadArea.sealedFormat
      (PayloadArea.sealedBody key uid Block.zero [1, 2, 3])
    let t := Tag.new Uid.default
    let t' : Tag := { t with memory := t.memory.setPages payloadStart (splitPages area) }
    let contact : Contact ByteStream := ⟨⟨some t', 1, 0⟩, 1, ⟨[], 0⟩⟩
    let request : Request := .read .secure t.key1 (some key)
    (run uid request contact).1 = .ok ⟨uid, some ⟨[1, 2, 3], .verified⟩⟩ ∧
      ∃ bs, Reported uid (Block.join bs) (some key) (some ⟨[1, 2, 3], .verified⟩) := by
  intro key uid area t t' contact request
  have hok : (run uid request contact).1 = .ok ⟨uid, some ⟨[1, 2, 3], .verified⟩⟩ := by decide +kernel
  obtain ⟨-, -, -, -, bs, -, -, -, -, hreported⟩ := (payload_protected hok).2 (by decide)
  exact ⟨hok, bs, hreported⟩

end Transaction
end Nearfield
