/-
# The codec of the payload area is exact

Encoding and decoding determine each other. What is encoded decodes to itself,
whatever fill follows, and an area that decodes to a payload opens with the
encoding of that payload: no payload has a second form. A payload is refused
exactly if its header and its body are longer than the area (`sealed_fits_iff`
for the padded ones), so every accepted length stands in one byte and no room is
lost.

Key definition: `PayloadArea.Framed`.
Key theorems: `PayloadArea.encodePlain_eq_ok_iff`, `PayloadArea.encodeSealed_eq_ok_iff`,
`PayloadArea.codec_exact`.
-/
import Nearfield.Proofs.PayloadArea

namespace Nearfield

/-- A block that was drawn is the first sixteen bytes of its source. -/
theorem drawBlock_queued (b : Block) (state : UInt64) :
    (drawBlock (⟨b.toBytes, state⟩ : ByteStream)).1 = b := rfl

namespace PayloadArea

/-! ### Lengths -/

/-- The area is a format, the length of the body in one byte, and the body, and
there is room for all of them. -/
structure Framed (format : UInt8) (body area : Bytes) : Prop where
  eq_cons : ∃ length : UInt8, area = format :: length :: body ∧ length.toNat = body.length
  length_le : area.length ≤ size

theorem framed_withHeader (format : UInt8) {body : Bytes} (h : headerSize + body.length ≤ size) :
    Framed format body (withHeader format body) := by
  have hsize : size = 128 := rfl
  have hbyte : (UInt8.ofNat body.length).toNat = body.length := by
    rw [UInt8.toNat_ofNat']
    exact Nat.mod_eq_of_lt (by omega)
  refine ⟨⟨_, rfl, hbyte⟩, ?_⟩
  rw [length_withHeader, Nat.add_comm]
  exact h

theorem plain_fits_iff (data : Bytes) :
    data.length ≤ plainCapacity ↔ headerSize + data.length ≤ size := by
  have hcap : plainCapacity = 126 := rfl
  have hsize : size = 128 := rfl
  have hheader : headerSize = 2 := rfl
  omega

/-- **The capacity of a sealed payload is tight**: with its start value, its
padding and its MAC it fits exactly if it is not larger. -/
theorem sealed_fits_iff (key : Key) (uid : Bytes) (iv : Block) (data : Bytes) :
    data.length ≤ sealedCapacity ↔ headerSize + (sealedBody key uid iv data).length ≤ size := by
  have hcap : sealedCapacity = 95 := rfl
  have hsize : size = 128 := rfl
  have hheader : headerSize = 2 := rfl
  rw [length_sealedBody]
  simp only [Block.size, Cmac.truncatedSize]
  omega

/-! ### What is accepted and what is refused -/

theorem encodePlain_eq_ok_iff {data area : Bytes} : encodePlain data = .ok area ↔
    headerSize + data.length ≤ size ∧ area = withHeader plainFormat data := by
  rw [← plain_fits_iff]
  unfold encodePlain
  by_cases h : data.length > plainCapacity
  · simp [h, Nat.not_le.mpr h]
  · simp [h, Nat.not_lt.mp h, eq_comm]

theorem encodePlain_eq_error_iff {data : Bytes} {e : TagError} : encodePlain data = .error e ↔
    size < headerSize + data.length ∧ e = .payloadTooLarge data.length plainCapacity := by
  rw [← Nat.not_le, ← plain_fits_iff, Nat.not_le]
  unfold encodePlain
  by_cases h : data.length > plainCapacity
  · simp [h, eq_comm]
  · simp [h]

section
variable {ρ : Type} [RandomSource ρ] {key : Key} {uid data area : Bytes} {rng : ρ}

theorem encodeSealed_eq_ok_iff : (encodeSealed key uid data rng).1 = .ok area ↔
    data.length ≤ sealedCapacity ∧
      area = withHeader sealedFormat (sealedBody key uid (drawBlock rng).1 data) := by
  unfold encodeSealed
  by_cases h : data.length > sealedCapacity
  · simp [h, Nat.not_le.mpr h]
  · simp [h, Nat.not_lt.mp h, eq_comm]

theorem encodeSealed_eq_error_iff {e : TagError} (iv : Block) :
    (encodeSealed key uid data rng).1 = .error e ↔
      size < headerSize + (sealedBody key uid iv data).length ∧
        e = .payloadTooLarge data.length sealedCapacity := by
  rw [← Nat.not_le, ← sealed_fits_iff, Nat.not_le]
  unfold encodeSealed
  by_cases h : data.length > sealedCapacity
  · simp [h, eq_comm]
  · simp [h]

/-! ### Both directions -/

/-- The plain payload of an area is written at its front. -/
theorem encodePlain_prefix {body : Bytes} (hlen : area.length = size)
    (h : decode area = .ok (.plain body)) : ∃ front, encodePlain body = .ok front ∧ front <+: area := by
  obtain ⟨fill, harea⟩ : Opens area (.plain body) := opens_of_decode h
  have hroom : headerSize + body.length ≤ size := by
    have := congrArg List.length harea
    rw [List.length_append, length_withHeader] at this
    omega
  exact ⟨_, encodePlain_eq_ok_iff.mpr ⟨hroom, rfl⟩, fill, harea.symm⟩

/-- So is the sealed body that opens to a payload: it is the sealing of this
payload with the same start value. -/
theorem encodeSealed_prefix {body : Bytes} (hlen : area.length = size)
    (h : decode area = .ok (.sealed body)) (hopen : decodeSealed key uid body = .ok data) :
    data.length ≤ sealedCapacity ∧ ∀ {ρ : Type} [RandomSource ρ] (rng : ρ),
      (drawBlock rng).1.toBytes = body.take Block.size →
        ∃ front, (encodeSealed key uid data rng).1 = .ok front ∧ front <+: area := by
  obtain ⟨fill, harea⟩ : Opens area (.sealed body) := opens_of_decode h
  have hbody := sealedBody_of_decodeSealed hopen
  have hfits : data.length ≤ sealedCapacity := by
    rw [sealed_fits_iff key uid (Block.zeroFilled (body.take Block.size)), hbody]
    have := congrArg List.length harea
    rw [List.length_append, length_withHeader] at this
    omega
  refine ⟨hfits, fun rng hdrawn => ⟨_, encodeSealed_eq_ok_iff.mpr ⟨hfits, rfl⟩, fill, ?_⟩⟩
  have hiv : (drawBlock rng).1 = Block.zeroFilled (body.take Block.size) := by
    rw [← hdrawn]
    exact (Block.zeroFilled_toBytes_append _ []).symm
  rw [hiv, hbody, harea]

/-- **The codec is exact.** A payload that fits is encoded and found again behind
any fill; it is refused exactly if its header and its body are longer than the
area, and what is accepted is framed by its own length; and the payload of any
area is the one whose encoding stands at its front, with the start value that is
found there. -/
theorem codec_exact :
    (∀ data fill : Bytes, data.length ≤ 126 →
      ∃ area, encodePlain data = .ok area ∧ decode (area ++ fill) = .ok (.plain data)) ∧
    (∀ (key : Key) (uid data fill : Bytes) (rng : ρ), data.length ≤ 95 →
      ∃ area body, (encodeSealed key uid data rng).1 = .ok area ∧
        decode (area ++ fill) = .ok (.sealed body) ∧ decodeSealed key uid body = .ok data) ∧
    (∀ data : Bytes,
      (∀ e, encodePlain data = .error e ↔
        size < headerSize + data.length ∧ e = .payloadTooLarge data.length 126) ∧
      ∀ area, encodePlain data = .ok area → Framed plainFormat data area) ∧
    (∀ (key : Key) (uid data : Bytes) (rng : ρ),
      (∀ e iv, (encodeSealed key uid data rng).1 = .error e ↔
        size < headerSize + (sealedBody key uid iv data).length ∧ e = .payloadTooLarge data.length 95) ∧
      ∀ area, (encodeSealed key uid data rng).1 = .ok area →
        Framed sealedFormat (sealedBody key uid (drawBlock rng).1 data) area) ∧
    ∀ area : Bytes, area.length = 128 →
      (∀ body, decode area = .ok (.plain body) → ∃ front, encodePlain body = .ok front ∧ front <+: area) ∧
      ∀ (key : Key) (uid body data : Bytes), decode area = .ok (.sealed body) →
        decodeSealed key uid body = .ok data → data.length ≤ 95 ∧
          ∀ rng : ρ, (drawBlock rng).1.toBytes = body.take 16 →
            ∃ front, (encodeSealed key uid data rng).1 = .ok front ∧ front <+: area := by
  refine ⟨?_, ?_, ?_, ?_, ?_⟩
  · intro data fill hlen
    have hroom := (plain_fits_iff data).mp hlen
    exact ⟨_, encodePlain_eq_ok_iff.mpr ⟨hroom, rfl⟩, decode_withHeader fill (by decide) hlen⟩
  · intro key uid data fill rng hlen
    have hbody := length_sealedBody_le key uid (drawBlock rng).1 hlen
    exact ⟨_, _, encodeSealed_eq_ok_iff.mpr ⟨hlen, rfl⟩, decode_withHeader fill (by decide) hbody,
      decodeSealed_sealedBody key uid _ data⟩
  · intro data
    refine ⟨fun e => encodePlain_eq_error_iff, fun area h => ?_⟩
    obtain ⟨hroom, rfl⟩ := encodePlain_eq_ok_iff.mp h
    exact framed_withHeader plainFormat hroom
  · intro key uid data rng
    refine ⟨fun e iv => encodeSealed_eq_error_iff iv, fun area h => ?_⟩
    obtain ⟨hlen, rfl⟩ := encodeSealed_eq_ok_iff.mp h
    exact framed_withHeader sealedFormat ((sealed_fits_iff key uid _ data).mp hlen)
  · intro area hlen
    refine ⟨fun body h => encodePlain_prefix hlen h, fun key uid body data h hopen => ?_⟩
    obtain ⟨hfits, hfront⟩ := encodeSealed_prefix hlen h hopen
    exact ⟨hfits, fun rng => hfront rng⟩

end

/-- A payload of 95 bytes, sealed for an identifier of three bytes, in an area
with the rest of an older one; and one of 96 bytes, which is refused. -/
theorem codec_exact_full :
    let key := Block.zero
    let uid : Bytes := [1, 2, 3]
    let data := List.replicate 95 (7 : UInt8)
    let body := sealedBody key uid Block.zero data
    let area := withHeader sealedFormat body ++ List.replicate 6 9
    let rng : ByteStream := ⟨body.take 16, 0⟩
    area.length = 128 ∧ decode area = .ok (.sealed body) ∧ decodeSealed key uid body = .ok data ∧
      (∃ front, (encodeSealed key uid data rng).1 = .ok front ∧ front <+: area) ∧
      (encodeSealed key uid (8 :: data) rng).1 = .error (.payloadTooLarge 96 95) := by
  intro key uid data body area rng
  have hbody : body.length = 120 := by
    rw [length_sealedBody, List.length_replicate]
    rfl
  have hlen : area.length = 128 := by
    rw [List.length_append, length_withHeader, hbody]
    rfl
  have hdecode : decode area = .ok (.sealed body) :=
    decode_withHeader _ (by decide) (by rw [hbody]; decide)
  have hopen : decodeSealed key uid body = .ok data := decodeSealed_sealedBody key uid Block.zero data
  have hfirst : body.take 16 = Block.zero.toBytes := take_sealedBody key uid Block.zero data
  have hdrawn : (drawBlock rng).1.toBytes = body.take 16 := by
    rw [hfirst]
    show (drawBlock (⟨body.take 16, 0⟩ : ByteStream)).1.toBytes = _
    rw [hfirst, drawBlock_queued]
  obtain ⟨-, -, -, hsealed, hareas⟩ := @codec_exact ByteStream _
  refine ⟨hlen, hdecode, hopen, ((hareas area hlen).2 key uid body data hdecode hopen).2 rng hdrawn, ?_⟩
  refine ((hsealed key uid (8 :: data) rng).1 _ Block.zero).mpr ⟨?_, ?_⟩
  · rw [length_sealedBody, List.length_cons, List.length_replicate]
    decide
  · rw [List.length_cons, List.length_replicate]

end PayloadArea
end Nearfield
