/-
# What the payload area gives back

An encoded payload is read back whatever fill stands behind it, be it zeros or
the rest of an older payload: in the clear by its length byte, sealed by the
length byte, the MAC and the padding. `Encodes` says what an area for a payload
may look like, `Holds` what a reader finds there; the codec takes the one to
the other (`Encodes.holds`), and no area is longer than the pages set aside for
it (`Encodes.length_le`).

Nothing else is read as a payload: an area that decodes opens with the header of
its body (`opens_of_decode`), and a sealed body that opens to a payload is
the sealed body of it (`sealedBody_of_decodeSealed`).

Key definitions: `PayloadArea.capacity`, `PayloadArea.Encodes`, `PayloadArea.Holds`.
Key theorems: `PayloadArea.decode_withHeader`, `PayloadArea.decodeSealed_sealedBody`,
`PayloadArea.Encodes.holds`, `PayloadArea.sealedBody_of_decodeSealed`.
-/
import Nearfield.PayloadArea
import Nearfield.Proofs.Cipher.Cbc

namespace Nearfield
namespace PayloadArea

/-- The largest payload that can be written with or without a data key. -/
def capacity : Option Key → Nat
  | some _ => sealedCapacity
  | none => plainCapacity

theorem capacity_eq (dataKey : Option Key) : capacity dataKey = if dataKey.isSome then 95 else 126 := by
  cases dataKey <;> rfl

/-- The area of a payload that fits: for some start value if it is sealed. -/
def Encodes (dataKey : Option Key) (uid data area : Bytes) : Prop :=
  data.length ≤ capacity dataKey ∧
    match dataKey with
    | none => area = withHeader plainFormat data
    | some key => ∃ iv, area = withHeader sealedFormat (sealedBody key uid iv data)

/-- A reader finds the payload: in the clear, or sealed for this data key and
identifier. -/
def Holds (dataKey : Option Key) (uid data area : Bytes) : Prop :=
  match dataKey with
  | none => decode area = .ok (.plain data)
  | some key => ∃ body, decode area = .ok (.sealed body) ∧ decodeSealed key uid body = .ok data

/-! ### The header -/

theorem length_withHeader (format : UInt8) (body : Bytes) :
    (withHeader format body).length = body.length + headerSize := rfl

theorem decode_emptyFormat (length : UInt8) (rest : Bytes) :
    decode (emptyFormat :: length :: rest) = .ok .empty := by
  rw [decode, if_pos rfl]

/-- The body is cut out of an area by its length byte, whatever follows. -/
theorem decode_withHeader {format : UInt8} {body : Bytes} (fill : Bytes)
    (hformat : format ≠ emptyFormat) (hlen : body.length ≤ plainCapacity) :
    decode (withHeader format body ++ fill) =
      if format = plainFormat then .ok (.plain body)
      else if format = sealedFormat then .ok (.sealed body)
      else .error .unknownFormat := by
  have hbyte : (UInt8.ofNat body.length).toNat = body.length := by
    rw [UInt8.toNat_ofNat']
    exact Nat.mod_eq_of_lt (Nat.lt_of_le_of_lt hlen (by decide))
  unfold withHeader
  rw [List.cons_append, List.cons_append, decode, if_neg hformat, hbyte, if_neg (by simp)]
  simp only [List.take_left]

/-- An area whose length byte does not reach past its end. -/
theorem withHeader_take_append_drop (format : UInt8) {length : UInt8} {rest : Bytes}
    (h : length.toNat ≤ rest.length) :
    withHeader format (rest.take length.toNat) ++ rest.drop length.toNat = format :: length :: rest := by
  unfold withHeader
  rw [List.length_take_of_le h, UInt8.ofNat_toNat, List.cons_append, List.cons_append,
    List.take_append_drop]

/-- What an area holds is written at its front. -/
def Opens (area : Bytes) : Stored → Prop
  | .empty => ∃ rest, area = emptyFormat :: rest
  | .plain body => ∃ fill, area = withHeader plainFormat body ++ fill
  | .sealed body => ∃ fill, area = withHeader sealedFormat body ++ fill

/-- **An area that decodes opens with its format, its length and its body.** -/
theorem opens_of_decode {area : Bytes} {stored : Stored} (h : decode area = .ok stored) :
    Opens area stored := by
  rcases area with _ | ⟨format, _ | ⟨length, rest⟩⟩
  · cases h
  · cases h
  · rw [decode] at h
    by_cases hempty : format = emptyFormat
    · rw [if_pos hempty] at h
      cases h
      exact ⟨length :: rest, by rw [hempty]⟩
    · by_cases hlong : length.toNat > rest.length
      · rw [if_neg hempty, if_pos hlong] at h
        cases h
      · have harea := withHeader_take_append_drop format (Nat.not_lt.mp hlong)
        rw [if_neg hempty, if_neg hlong] at h
        dsimp only at h
        by_cases hplain : format = plainFormat
        · rw [if_pos hplain] at h
          cases h
          exact ⟨rest.drop length.toNat, by rw [← harea, hplain]⟩
        · by_cases hsealed : format = sealedFormat
          · rw [if_neg hplain, if_pos hsealed] at h
            cases h
            exact ⟨rest.drop length.toNat, by rw [← harea, hsealed]⟩
          · rw [if_neg hplain, if_neg hsealed] at h
            cases h

/-! ### Sealed bodies -/

/-- A start value, the text in whole blocks with at least one byte of padding,
and a MAC. -/
theorem length_sealedBody (key : Key) (uid : Bytes) (iv : Block) (data : Bytes) :
    (sealedBody key uid iv data).length =
      Block.size + (data.length / Block.size + 1) * Block.size + Cmac.truncatedSize := by
  unfold sealedBody bodyMac
  rw [List.length_append, List.length_append, Block.length_toBytes, Cbc.length_encrypt,
    Cmac.length_truncated]

theorem length_sealedBody_le (key : Key) (uid : Bytes) (iv : Block) {data : Bytes}
    (hlen : data.length ≤ sealedCapacity) : (sealedBody key uid iv data).length ≤ plainCapacity := by
  have hcap : sealedCapacity = 95 := rfl
  have hplain : plainCapacity = 126 := rfl
  rw [length_sealedBody]
  simp only [Block.size, Cmac.truncatedSize]
  omega

/-- A sealed body opens with its start value. -/
theorem take_sealedBody (key : Key) (uid : Bytes) (iv : Block) (data : Bytes) :
    (sealedBody key uid iv data).take Block.size = iv.toBytes := by
  unfold sealedBody
  rw [List.append_assoc]
  exact List.take_left' (Block.length_toBytes iv)

/-- **A sealed body opens to its payload** under the same data key and
identifier. -/
theorem decodeSealed_sealedBody (key : Key) (uid : Bytes) (iv : Block) (data : Bytes) :
    decodeSealed key uid (sealedBody key uid iv data) = .ok data := by
  have hlen := length_sealedBody key uid iv data
  set text := iv.toBytes ++ Cbc.encrypt (diversify key .payloadEncryption uid) iv data with htext
  have hbody : sealedBody key uid iv data = text ++ bodyMac key uid text := rfl
  have htake : (sealedBody key uid iv data).length - Cmac.truncatedSize = text.length := by
    rw [hbody, List.length_append, bodyMac, Cmac.length_truncated, Nat.add_sub_cancel]
  have hiv : Block.zeroFilled (text.take Block.size) = iv := by
    rw [htext, List.take_left' (Block.length_toBytes iv)]
    exact Block.zeroFilled_toBytes_append iv []
  have hcipher : text.drop Block.size = Cbc.encrypt (diversify key .payloadEncryption uid) iv data := by
    rw [htext, List.drop_left' (Block.length_toBytes iv)]
  unfold decodeSealed
  rw [if_neg (by rw [hlen]; simp only [smallestSealed, Block.size, Cmac.truncatedSize]; omega), htake,
    hbody, List.take_left, List.drop_left]
  simp only [ne_eq, not_true_eq_false, if_false, hiv, hcipher, Cbc.decrypt?_encrypt]

/-- **A sealed body that opens to a payload is the sealed body of it**, with its
first block as start value. -/
theorem sealedBody_of_decodeSealed {key : Key} {uid body data : Bytes}
    (h : decodeSealed key uid body = .ok data) :
    sealedBody key uid (Block.zeroFilled (body.take Block.size)) data = body := by
  unfold decodeSealed at h
  by_cases hlength : body.length < smallestSealed ∨
      (body.length - Cmac.truncatedSize) % Block.size ≠ 0
  · rw [if_pos hlength] at h
    cases h
  · rw [if_neg hlength] at h
    dsimp only at h
    set authenticated := body.take (body.length - Cmac.truncatedSize) with hauthenticated
    by_cases hmac : bodyMac key uid authenticated ≠ body.drop (body.length - Cmac.truncatedSize)
    · rw [if_pos hmac] at h
      cases h
    · rw [if_neg hmac] at h
      simp only [smallestSealed, Cmac.truncatedSize, Block.size] at hlength
      have hlen : authenticated.length = body.length - Cmac.truncatedSize := by
        rw [hauthenticated, List.length_take]
        omega
      have hblock : Block.size ≤ authenticated.length := by
        rw [hlen]
        simp only [Cmac.truncatedSize, Block.size]
        omega
      have hfirst : body.take Block.size = authenticated.take Block.size := by
        rw [hauthenticated, List.take_take, Nat.min_eq_left (hlen ▸ hblock)]
      have hcipher : (authenticated.drop Block.size).length % Block.size = 0 := by
        rw [List.length_drop, hlen]
        simp only [Cmac.truncatedSize, Block.size]
        omega
      split at h
      · rename_i text hdecrypt
        cases h
        have htext := Cbc.encrypt_of_decrypt? hcipher hdecrypt
        have hjoined : (Block.zeroFilled (authenticated.take Block.size)).toBytes
            ++ authenticated.drop Block.size = authenticated := by
          rw [Block.zeroFilled_take, Block.toBytes_zeroFilled_append_drop hblock]
        unfold sealedBody
        dsimp only
        rw [hfirst, htext, hjoined, Decidable.not_not.mp hmac, hauthenticated, List.take_append_drop]
      · cases h

/-! ### Encoded payloads -/

theorem Encodes.length_le {dataKey : Option Key} {uid data area : Bytes}
    (h : Encodes dataKey uid data area) : area.length ≤ size := by
  obtain ⟨hlen, h⟩ := h
  have hsize : plainCapacity + headerSize = size := rfl
  cases dataKey with
  | none =>
    rw [h, length_withHeader]
    have : data.length ≤ plainCapacity := hlen
    omega
  | some key =>
    obtain ⟨iv, h⟩ := h
    rw [h, length_withHeader]
    have := length_sealedBody_le key uid iv hlen
    omega

/-- What a channel encodes in the clear. -/
theorem encodePlain_cases (uid data : Bytes) :
    (capacity none < data.length ∧ ∃ e, encodePlain data = .error e) ∨
      ∃ area, encodePlain data = .ok area ∧ Encodes none uid data area := by
  unfold encodePlain
  by_cases hlen : data.length > plainCapacity
  · rw [if_pos hlen]
    exact Or.inl ⟨hlen, _, rfl⟩
  · rw [if_neg hlen]
    exact Or.inr ⟨_, rfl, Nat.not_lt.mp hlen, rfl⟩

/-- What a channel seals. A start value is drawn only for a payload that fits. -/
theorem encodeSealed_cases {ρ : Type} [RandomSource ρ] (key : Key) (uid data : Bytes) (rng : ρ) :
    (capacity (some key) < data.length ∧ ∃ e, encodeSealed key uid data rng = (.error e, rng)) ∨
      ∃ area, encodeSealed key uid data rng = (.ok area, (drawBlock rng).2) ∧
        Encodes (some key) uid data area := by
  unfold encodeSealed
  by_cases hlen : data.length > sealedCapacity
  · rw [if_pos hlen]
    exact Or.inl ⟨hlen, _, rfl⟩
  · rw [if_neg hlen]
    exact Or.inr ⟨_, rfl, Nat.not_lt.mp hlen, _, rfl⟩

/-- An area opens with a format that is not the empty one. -/
theorem Encodes.eq_cons {dataKey : Option Key} {uid data area : Bytes}
    (h : Encodes dataKey uid data area) :
    ∃ format length body, area = format :: length :: body ∧ format ≠ emptyFormat := by
  obtain ⟨-, h⟩ := h
  cases dataKey with
  | none => exact ⟨_, _, _, h, by decide⟩
  | some key =>
    obtain ⟨iv, h⟩ := h
    exact ⟨_, _, _, h, by decide⟩

/-- **What was encoded is found again**, whatever fill follows. -/
theorem Encodes.holds {dataKey : Option Key} {uid data area : Bytes}
    (h : Encodes dataKey uid data area) (fill : Bytes) : Holds dataKey uid data (area ++ fill) := by
  obtain ⟨hlen, h⟩ := h
  cases dataKey with
  | none =>
    rw [h]
    exact decode_withHeader fill (by decide) hlen
  | some key =>
    obtain ⟨iv, h⟩ := h
    rw [h]
    exact ⟨_, decode_withHeader fill (by decide) (length_sealedBody_le key uid iv hlen),
      decodeSealed_sealedBody key uid iv data⟩

end PayloadArea
end Nearfield
