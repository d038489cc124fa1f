/-
# A write that is interrupted

The link may be cut at any point of a write: some frames come through with their
answers, then every exchange fails, and the tag may or may not have taken the
first of those frames. Whatever the point, the area afterwards holds the new
payload if the write has returned; if it has failed, the area is what it was, or
it is marked empty, or it holds the new payload as a whole, and then the frame
whose answer was lost is the WRITE of the header page. Old and new pages are
never read as one payload (`write_interrupted`).

Key definition: `Severed`.
Key theorems: `Transaction.Remains.area_cases`, `Severed.write_interrupted`.
-/
import Nearfield.Proofs.Transactions

namespace Nearfield

/-! ### What is read after a write -/

namespace Transaction

theorem sameOutside_payload (m : Memory) {ps : List Page} (h : ps.length ≤ 32) :
    Memory.SameOutside 4 32 m (m.setPages payloadStart ps) :=
  Memory.sameOutside_setPages m (by decide) (by show 4 + ps.length ≤ 4 + 32; omega) (by decide)

theorem length_splitPages_encoded {dataKey : Option Key} {uid payload area : Bytes}
    (h : PayloadArea.Encodes dataKey uid payload area) : (splitPages area).length ≤ 32 := by
  obtain ⟨header, body, hsplit, hlen⟩ := splitPages_encoded h
  rw [hsplit, List.length_cons]
  omega

/-- A payload whose pages were written is read back, whatever stood there
before. -/
theorem holds_written {dataKey : Option Key} {uid payload area : Bytes} (m : Memory)
    (h : PayloadArea.Encodes dataKey uid payload area) :
    PayloadArea.Holds dataKey uid payload (m.setPages payloadStart (splitPages area)).area := by
  obtain ⟨stale, harea⟩ := m.area_setPages (length_splitPages_encoded h)
  obtain ⟨zeros, hpages⟩ := flatMap_splitPages area
  rw [harea, hpages, List.append_assoc]
  exact h.holds _

namespace Remains
variable {dataKey : Option Key} {payload : Bytes} {m m' : Memory} {lost : Option Bytes}

/-- A write that fails has touched the payload pages at most. -/
theorem sameOutside (h : Remains dataKey payload m lost m') : Memory.SameOutside 4 32 m m' := by
  cases h with
  | untouched => exact Memory.SameOutside.refl 4 32 m
  | marked body hlen => exact sameOutside_payload m (by rw [List.length_cons]; omega)
  | complete area header body s hencodes hsplit hlost =>
    rw [← hsplit]
    exact sameOutside_payload m (length_splitPages_encoded hencodes)

/-- What is read after a write that has failed: what was there before, nothing,
or the new payload. -/
theorem area_cases (h : Remains dataKey payload m lost m') :
    m'.area = m.area ∨ PayloadArea.decode m'.area = .ok .empty ∨
      (PayloadArea.Holds dataKey m.uid.toBytes payload m'.area ∧ ∃ (s : Session) (header : Page),
        lost = some (s.protect (Command.write payloadStart header)) ∧
          m'.wrapped payloadStart.toNat = header) := by
  cases h with
  | untouched => exact Or.inl rfl
  | marked body hlen =>
    have hlen' : (PayloadArea.emptyHeader :: body).length ≤ 32 := by
      rw [List.length_cons]
      omega
    obtain ⟨stale, harea⟩ := m.area_setPages hlen'
    rw [harea]
    exact Or.inr (Or.inl (PayloadArea.decode_emptyFormat _ _))
  | complete area header body s hencodes hsplit hlost =>
    have hlen := length_splitPages_encoded hencodes
    have hholds := holds_written m hencodes
    have hpages := Memory.map_wrapped_setPages (header :: body) m payloadStart
      (by rw [← hsplit]; show 4 + (splitPages area).length ≤ 40; omega)
    rw [hsplit] at hholds
    exact Or.inr (Or.inr ⟨hholds, s, header, hlost, (List.cons.inj hpages).1⟩)

end Remains
end Transaction

/-! ### Links that are cut -/

/-- A contact that is cut after a number of frames. -/
structure Severed (ρ : Type) where
  contact : Contact ρ
  /-- Frames that still come through with their answers. -/
  whole : Nat
  /-- Whether the tag takes the frame after those. -/
  reaches : Bool
  /-- The frame that the tag took although its answer was lost. -/
  lost : Option Bytes

namespace Severed
variable {ρ : Type} [RandomSource ρ]

def nextByte (s : Severed ρ) : UInt8 × Severed ρ :=
  let (b, contact) := s.contact.nextByte
  (b, { s with contact })

/-- Carries a frame, or loses its answer, or fails. -/
def exchange (frame : Bytes) (s : Severed ρ) : Except LinkError Bytes × Severed ρ :=
  match s.whole with
  | whole + 1 =>
    let (answer, contact) := s.contact.exchange frame
    (answer, { s with contact, whole })
  | 0 =>
    if s.reaches then
      match s.contact.exchange frame with
      | (.ok _, contact) => (.error .tagRemoved, ⟨contact, 0, false, some frame⟩)
      | (.error e, contact) => (.error e, { s with contact, reaches := false })
    else (.error .tagRemoved, s)

instance : FrameLink (Severed ρ) where
  nextByte := nextByte
  exchange := exchange

theorem exchange_ok {s s' : Severed ρ} {frame answer : Bytes} (h : s.exchange frame = (.ok answer, s')) :
    ∃ t t', s.contact.field.tag = some t ∧ t.Steps frame answer t' ∧
      s'.contact.field.tag = some t' := by
  unfold exchange at h
  split at h
  · rw [Prod.mk.injEq] at h
    obtain ⟨hok, rfl⟩ := h
    exact Contact.exchange_ok (Prod.ext hok rfl)
  · split at h
    · split at h <;> cases h
    · cases h

theorem exchange_error {s s' : Severed ρ} {frame : Bytes} {e : LinkError}
    (h : s.exchange frame = (.error e, s')) :
    s'.contact.field.tag = s.contact.field.tag ∨ ∃ t answer t', s.contact.field.tag = some t ∧
      t.Steps frame answer t' ∧ s'.contact.field.tag = some t' ∧ s'.lost = some frame := by
  unfold exchange at h
  split at h
  · rw [Prod.mk.injEq] at h
    obtain ⟨herror, rfl⟩ := h
    have hsame := (Contact.exchange_error (Prod.ext herror rfl)).2
    exact Or.inl (congrArg (fun c : Contact ρ => c.field.tag) hsame)
  · split at h
    · split at h
      · rename_i answer contact hok
        rw [Prod.mk.injEq] at h
        obtain ⟨-, rfl⟩ := h
        obtain ⟨t, t', htag, hstep, htag'⟩ := Contact.exchange_ok hok
        exact Or.inr ⟨t, answer, t', htag, hstep, htag', rfl⟩
      · rename_i herror
        rw [Prod.mk.injEq] at h
        obtain ⟨-, rfl⟩ := h
        exact Or.inl (congrArg (fun c : Contact ρ => c.field.tag) (Contact.exchange_error herror).2)
    · rw [Prod.mk.injEq] at h
      obtain ⟨-, rfl⟩ := h
      exact Or.inl rfl

/-- The frames may stop coming through at any moment, so no such link counts as
steady. -/
instance : TagLink (Severed ρ) where
  tag? s := s.contact.field.tag
  lost? s := s.lost
  Steady _ := False
  tag?_nextByte _ := rfl
  steady_nextByte h := h
  exchange_ok := exchange_ok
  exchange_error := exchange_error
  exchange_steady _ h := h.elim

/-- What a write has made of the tag `t` when it ends with this result: the
payload is there as a whole, or nothing of it can be read. -/
def Unmixed (dataKey : Option Key) (payload : Bytes) (lost : Option Bytes) (t t' : Tag) :
    ScanResult → Prop
  | .ok found => found.uid = t.memory.uid.toBytes ∧
      PayloadArea.Holds dataKey t.memory.uid.toBytes payload t'.memory.area
  | .error _ => t'.memory.area = t.memory.area ∨
      PayloadArea.decode t'.memory.area = .ok .empty ∨
      (PayloadArea.Holds dataKey t.memory.uid.toBytes payload t'.memory.area ∧
        ∃ (s : Session) (header : Page), lost = some (s.protect (Command.write payloadStart header)) ∧
          t'.memory.wrapped payloadStart.toNat = header)

/-- **An interrupted write never mixes payloads.** For every tag, payload and
data key, and wherever the link is cut: a write that returns has stored the
payload; one that fails leaves the area as it was, or empty, or, if only the
answer to its last frame was lost, holding the payload. Nothing outside the
payload pages changes. -/
theorem write_interrupted {station : Station ρ} {t : Tag} {uid : Bytes} {contact : Contact ρ}
    (htag : station.field.tag = some t) (hcontact : station.contact? = some (uid, contact))
    (whole : Nat) (reaches : Bool) (payload : Bytes) (dataKey : Option Key) :
    let final := Transaction.run uid (.write payload t.key1 dataKey)
      (⟨contact, whole, reaches, none⟩ : Severed ρ)
    ∃ t', final.2.contact.field.tag = some t' ∧ Memory.SameOutside 4 32 t.memory t'.memory ∧
      Unmixed dataKey payload final.2.lost t t' final.1 := by
  obtain ⟨u, hu, hsettled, hidle, -, -⟩ := Station.resting_contact htag hcontact
  have hresting : Channel.Resting (Channel.new uid (⟨contact, whole, reaches, none⟩ : Severed ρ)) t :=
    ⟨rfl, u, hu, hsettled, hidle⟩
  refine Transaction.run_of_ends (P := fun result (link : Severed ρ) =>
    ∃ t', link.contact.field.tag = some t' ∧ Memory.SameOutside 4 32 t.memory t'.memory ∧
      Unmixed dataKey payload link.lost t t' result) ?_
  refine Transaction.ends_execute hresting ?_ ?_
  · intro e c' hfacing _
    obtain ⟨v, hv, hleft⟩ := hfacing
    have hmemory : v.memory = t.memory := Tag.memory_of_settled hleft
    refine ⟨v, hv, ?_⟩
    unfold Unmixed
    rw [hmemory]
    exact ⟨Memory.SameOutside.refl 4 32 t.memory, Or.inl rfl⟩
  · intro c₁ hresting₁ _
    refine (Transaction.ends_write payload dataKey hresting₁).mono ?_ ?_
    · intro found c' hend
      obtain ⟨rfl, area, hencodes, v, hv, hwritten⟩ := hend
      have hmemory : v.memory = t.memory.setPages payloadStart (splitPages area) :=
        Tag.memory_of_settled hwritten
      refine ⟨v, hv, ?_⟩
      unfold Unmixed
      rw [hmemory]
      exact ⟨Transaction.sameOutside_payload t.memory (Transaction.length_splitPages_encoded hencodes),
        rfl, Transaction.holds_written t.memory hencodes⟩
    · intro e c' hend
      obtain ⟨-, m, ⟨v, hv, hleft⟩, hremains⟩ := hend
      have hmemory : v.memory = m := Tag.memory_of_settled hleft
      refine ⟨v, hv, ?_⟩
      unfold Unmixed
      rw [hmemory]
      exact ⟨hremains.sameOutside, hremains.area_cases⟩

/-- A write of three bytes takes seven frames; here the answer to the last one
is lost. -/
theorem write_interrupted_last :
    let t := Tag.new Uid.default
    let station : Station ByteStream := ⟨⟨some t, 1, 0⟩, ⟨[], 0⟩⟩
    let contact : Contact ByteStream := ⟨station.field, 1, station.rng⟩
    station.field.tag = some t ∧ station.contact? = some (t.uid.toBytes, contact) ∧
      let final := Transaction.run t.uid.toBytes (.write [1, 2, 3] t.key1 none)
        (⟨contact, 6, true, none⟩ : Severed ByteStream)
      ∃ t', final.2.contact.field.tag = some t' ∧ Memory.SameOutside 4 32 t.memory t'.memory ∧
        Unmixed none [1, 2, 3] final.2.lost t t' final.1 := by
  intro t station contact
  have hcontact : station.contact? = some (t.uid.toBytes, contact) := rfl
  exact ⟨rfl, hcontact, write_interrupted rfl hcontact 6 true [1, 2, 3] none⟩

end Severed
end Nearfield
