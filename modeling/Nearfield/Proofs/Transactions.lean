/-
# What a transaction does to a tag

One transaction with the identifier's key of the tag, on any link. A read leaves
the tag as it is and returns what the area holds (`ends_read`). A test changes
scratch pages at most (`ends_test`), and one that returns has left its record there
(`ends_tested`). A write that returns has put the whole area down; one that fails
has left the memory alone, or marked empty, or complete (`ends_write`, `Remains`).
On a steady link a write or a test that fails has changed nothing.

Key definitions: `Transaction.Sound`, `Transaction.readOut`,
`Transaction.foundIn`, `Transaction.Remains`, `Transaction.tested`.
Key theorems: `Transaction.ends_read`, `Transaction.ends_write`,
`Transaction.ends_tested`.
-/
import Nearfield.Proofs.Channel.Commands
import Nearfield.Proofs.PayloadArea
import Nearfield.Transaction

namespace Nearfield
namespace Transaction

open Channel

variable {σ : Type} {c : Channel σ}

/-! ### What an area gives to a reader -/

/-- What a read returns for an area. -/
def readOut (dataKey : Option Key) (uid area : Bytes) : Except TagError (Option Payload) := do
  payloadOf dataKey uid (← PayloadArea.decode area)

theorem readOut_of_ok {dataKey : Option Key} {uid area : Bytes} {stored : PayloadArea.Stored}
    (h : PayloadArea.decode area = .ok stored) :
    readOut dataKey uid area = payloadOf dataKey uid stored := by
  unfold readOut
  rw [h]
  rfl

theorem readOut_of_error {dataKey : Option Key} {uid area : Bytes} {e : TagError}
    (h : PayloadArea.decode area = .error e) : readOut dataKey uid area = .error e := by
  unfold readOut
  rw [h]
  rfl

/-- What a read makes of an area. -/
def readFinding (dataKey : Option Key) (uid area : Bytes) : Except TagError Finding :=
  (readOut dataKey uid area).map fun payload => ⟨uid, payload⟩

theorem readFinding_eq_ok {dataKey : Option Key} {u area : Bytes} {found : Finding}
    (h : readFinding dataKey u area = .ok found) :
    found.uid = u ∧ readOut dataKey u area = .ok found.payload := by
  unfold readFinding at h
  cases hout : readOut dataKey u area with
  | error e => rw [hout] at h; cases h
  | ok payload =>
    rw [hout] at h
    cases h
    exact ⟨rfl, rfl⟩

/-- What an area holds is returned with the identifier. -/
theorem ends_finding {dataKey : Option Key} {uid area : Bytes} {Q : Finding → Channel σ → Prop}
    {E : TagError → Channel σ → Prop} (hok : ∀ found, readFinding dataKey uid area = .ok found → Q found c)
    (herror : ∀ e, readFinding dataKey uid area = .error e → E e c) :
    Ends (do
      let stored ← lift (PayloadArea.decode area)
      let payload ← lift (payloadOf dataKey uid stored)
      return (⟨uid, payload⟩ : Finding)) c Q E := by
  unfold readFinding at hok herror
  rw [ends_bind]
  refine Ends.lift (fun stored hstored => ?_) fun e he => herror e (by rw [readOut_of_error he]; rfl)
  rw [readOut_of_ok hstored] at hok herror
  rw [ends_bind]
  exact Ends.lift (fun p hp => hok _ (by rw [hp]; rfl)) fun e he => herror e (by rw [he]; rfl)

variable [TagLink σ] {t : Tag} {s : Session} {n : Nat}

/-! ### The product and the handshake -/

theorem key_uidSlot (t : Tag) : t.key uidSlot = t.key1 := by
  unfold Tag.key
  rw [if_neg (by decide)]

/-- A tag that every transaction can be made with: an Ultralight AES with the
right check bytes that does not forge. -/
structure Sound (t : Tag) : Prop where
  model_eq : t.model = .ultralightAes
  checked : t.memory.Checked
  forges_eq : t.forges = false

theorem ends_checkProduct (h : Resting c t) :
    Ends checkProduct c (fun _ c' => Resting c' t ∧ Kept c c')
      (fun _ c' => Facing c' t ∧ (TagLink.Steady c.link → t.model ≠ .ultralightAes)) := by
  unfold checkProduct
  rw [ends_bind, ends_tryCatch]
  refine (ends_getVersion h).mono ?_ ?_
  · intro v c' hend
    obtain ⟨rfl, hresting, hkept⟩ := hend
    refine Ends.lift (fun _ _ => ⟨hresting, hkept⟩) fun e he => ⟨hresting.facing, ?_⟩
    intro _ hmodel
    rw [hmodel] at he
    cases he
  · intro e c' hend
    obtain ⟨hfacing, hunsteady⟩ := hend
    have hcause : Facing c' t ∧ (TagLink.Steady c.link → t.model ≠ .ultralightAes) :=
      ⟨hfacing, fun hs => absurd hs hunsteady⟩
    cases e <;> exact hcause

/-- The handshake for the identifier, with the tag's key. -/
theorem ends_authenticate_uid (h : Ready c t) (verify : Bool) :
    Ends (authenticate uidSlot t.key1 verify) c
      (fun _ c' => ∃ s : Session, s.slot = uidSlot ∧ InSession c' t s 0 ∧ c'.verify = verify ∧
        (TagLink.Steady c.link → TagLink.Steady c'.link))
      (fun _ c' => Facing c' t ∧ (TagLink.Steady c.link → t.model ≠ .ultralightAes)) := by
  refine (ends_authenticate uidSlot t.key1 verify h).mono ?_ ?_
  · intro _ c' hopened
    obtain ⟨s, hslot, hsession⟩ := hopened.session (key_uidSlot t).symm
    exact ⟨s, hslot, hsession, hopened.verify_eq, hopened.steady⟩
  · intro _ c' hfailed
    exact ⟨hfailed.facing, fun hs => hfailed.cause hs (key_uidSlot t).symm (by decide)⟩

/-! ### Reading -/

/-- In a session the identifier comes from memory. -/
theorem ends_identify {mode : ReadMode} (hneeds : mode.needsSession = true) (h : Ready c t) :
    Ends (identify mode t.key1) c
      (fun uid c' => uid = t.memory.uid.toBytes ∧ (TagLink.Steady c.link → TagLink.Steady c'.link) ∧
        ∃ s : Session, s.slot = uidSlot ∧ InSession c' t s 1)
      (fun _ c' => Facing c' t ∧ (TagLink.Steady c.link → ¬ Sound t)) := by
  unfold identify
  rw [if_pos hneeds]
  refine (ends_authenticate_uid h mode.verifiesCmac).bind ?_ ?_
  · intro e c' hend
    obtain ⟨hfacing, hcause⟩ := hend
    exact ⟨hfacing, fun hs hsound => hcause hs hsound.model_eq⟩
  intro _ c₁ hend
  obtain ⟨s, hslot, hsession, -, hsteady⟩ := hend
  refine (ends_readUid hsession (by decide) hslot).mono ?_ ?_
  · intro uid c' hend
    obtain ⟨rfl, hsession', hkept, -⟩ := hend
    exact ⟨rfl, fun hs => hkept.steady (hsteady hs), s, hslot, hsession'⟩
  · intro e c' hend
    obtain ⟨hblocked, hfacing⟩ := hend
    exact ⟨hfacing, fun hs hsound =>
      (hblocked hsound.checked).not_steady hsound.forges_eq (hsteady hs)⟩

/-- The identifier that a mode finds: the one in memory in a session, otherwise
the one that was reported. -/
def uidFound (mode : ReadMode) (reported : Bytes) (m : Memory) : Bytes :=
  if mode.needsSession then m.uid.toBytes else reported

/-- What a mode finds: in the fast mode nothing but the identifier. -/
def foundIn (mode : ReadMode) (dataKey : Option Key) (uid area : Bytes) : Except TagError Finding :=
  match mode with
  | .fast => .ok ⟨uid, none⟩
  | .full _ _ => readFinding dataKey uid area

/-- **A read leaves the tag as it is and returns what it finds.** If the link
and the tag are sound, it fails only with the failure of the area. -/
theorem ends_read (mode : ReadMode) (dataKey : Option Key) (h : Resting c t) :
    Ends (read mode t.key1 dataKey) c
      (fun found c' => Facing c' t ∧
        foundIn mode dataKey (uidFound mode c.uid t.memory) t.memory.area = .ok found)
      (fun e c' => Facing c' t ∧ (TagLink.Steady c.link → Sound t →
        foundIn mode dataKey (uidFound mode c.uid t.memory) t.memory.area = .error e)) := by
  unfold read
  cases mode with
  | fast => exact ⟨h.facing, rfl⟩
  | full auth cmac =>
    dsimp only
    by_cases hneeds : (ReadMode.full auth cmac).needsSession = true
    · rw [uidFound, if_pos hneeds]
      refine (ends_identify hneeds h.ready).bind ?_ ?_
      · intro e c' hend
        obtain ⟨hfacing, hcause⟩ := hend
        exact ⟨hfacing, fun hs hsound => absurd hsound (hcause hs)⟩
      intro uid c₁ hend
      obtain ⟨rfl, hsteady, s, hslot, hsession⟩ := hend
      refine (ends_readArea hsession (by decide) hslot).bind ?_ ?_
      · intro e c' hend
        obtain ⟨hblocked, hfacing⟩ := hend
        exact ⟨hfacing, fun hs hsound =>
          absurd (hsteady hs) (hblocked.not_steady hsound.forges_eq)⟩
      intro area c₂ hend
      obtain ⟨rfl, hsession₂, -⟩ := hend
      have hfacing := hsession₂.facing
      exact ends_finding (fun found hfound => ⟨hfacing, hfound⟩) fun e he => ⟨hfacing, fun _ _ => he⟩
    · rw [uidFound, if_neg hneeds]
      unfold identify
      rw [if_neg hneeds, ends_bind, ends_bind, ends_get, ends_pure]
      refine (ends_readArea_resting h).bind ?_ ?_
      · intro e c' hend
        obtain ⟨hfacing, hunsteady⟩ := hend
        exact ⟨hfacing, fun hs => absurd hs hunsteady⟩
      intro area c' hend
      obtain ⟨rfl, hresting, -⟩ := hend
      have hfacing := hresting.facing
      exact ends_finding (fun found hfound => ⟨hfacing, hfound⟩) fun e he => ⟨hfacing, fun _ _ => he⟩

/-! ### Writing -/

theorem ends_encodeArea {dataKey : Option Key} {uid payload : Bytes} (h : InSession c t s n) :
    Ends (encodeArea dataKey uid payload) c
      (fun area c' => PayloadArea.Encodes dataKey uid payload area ∧ InSession c' t s n ∧ Kept c c')
      (fun _ c' => PayloadArea.capacity dataKey < payload.length ∧ Facing c' t) := by
  unfold encodeArea
  cases dataKey with
  | none =>
    rcases PayloadArea.encodePlain_cases uid payload with ⟨hlen, e, he⟩ | ⟨area, hok, hencodes⟩
    · rw [he]
      exact ⟨hlen, h.facing⟩
    · rw [hok]
      exact ⟨hencodes, h, Kept.refl c⟩
  | some key =>
    dsimp only
    rw [ends_bind, ends_draw]
    rcases PayloadArea.encodeSealed_cases key uid payload c.link with
      ⟨hlen, e, he⟩ | ⟨area, hok, hencodes⟩
    · rw [he]
      exact ⟨hlen, h.facing⟩
    · rw [hok]
      exact ⟨hencodes, h.drawn (TagLink.tag?_drawBlock c.link), rfl, rfl, TagLink.steady_drawBlock⟩

/-- What a write may leave in the memory when it fails; `lost` is the frame
whose answer was lost, if any. -/
inductive Remains (dataKey : Option Key) (payload : Bytes) (m : Memory) (lost : Option Bytes) :
    Memory → Prop where
  | untouched : Remains dataKey payload m lost m
  /-- The header page is the empty one, whatever follows. -/
  | marked (body : List Page) (hlen : body.length < 32) :
    Remains dataKey payload m lost (m.setPages payloadStart (PayloadArea.emptyHeader :: body))
  /-- The header page was written as well, and the answer to that was lost. -/
  | complete (area : Bytes) (header : Page) (body : List Page) (s : Session)
    (hencodes : PayloadArea.Encodes dataKey m.uid.toBytes payload area)
    (hsplit : splitPages area = header :: body)
    (hlost : lost = some (s.protect (Command.write payloadStart header))) :
    Remains dataKey payload m lost (m.setPages payloadStart (header :: body))

/-- The pages of an encoded payload: at least the header page, and no more than
the area has. -/
theorem splitPages_encoded {dataKey : Option Key} {uid payload area : Bytes}
    (h : PayloadArea.Encodes dataKey uid payload area) :
    ∃ header body, splitPages area = header :: body ∧ body.length < 32 := by
  obtain ⟨format, length, rest, harea, -⟩ := h.eq_cons
  have hlen : (splitPages area).length = (area.length + 3) / 4 := length_splitPages area
  have hsize : area.length ≤ 128 := h.length_le
  cases hsplit : splitPages area with
  | nil =>
    rw [hsplit, harea, List.length_cons, List.length_nil] at hlen
    omega
  | cons header body =>
    rw [hsplit, List.length_cons] at hlen
    exact ⟨header, body, rfl, by omega⟩

/-- **A write puts the whole area down, or fails and leaves one of the
remains.** On a steady link a failure leaves the tag as it was, and if the tag
is sound it is the payload that does not fit. -/
theorem ends_write (payload : Bytes) (dataKey : Option Key) (h : Resting c t) :
    Ends (write payload t.key1 dataKey) c
      (fun found c' => found = ⟨t.memory.uid.toBytes, none⟩ ∧ ∃ area,
        PayloadArea.Encodes dataKey t.memory.uid.toBytes payload area ∧
          Facing c' { t with memory := t.memory.setPages payloadStart (splitPages area) })
      (fun _ c' => (TagLink.Steady c.link → Facing c' t ∧
          (Sound t → PayloadArea.capacity dataKey < payload.length)) ∧
        ∃ m, Facing c' { t with memory := m } ∧
          Remains dataKey payload t.memory (TagLink.lost? c'.link) m) := by
  unfold write
  refine (ends_authenticate_uid h.ready true).bind ?_ ?_
  · intro e c' hend
    obtain ⟨hfacing, hcause⟩ := hend
    exact ⟨fun hs => ⟨hfacing, fun hsound => absurd hsound.model_eq (hcause hs)⟩, t.memory, hfacing,
      .untouched⟩
  intro _ c₁ hend
  obtain ⟨s, hslot, hsession₁, hverify₁, hsteady₁⟩ := hend
  refine (ends_readUid hsession₁ (by decide) hslot).bind ?_ ?_
  · intro e c' hend
    obtain ⟨hblocked, hfacing⟩ := hend
    refine ⟨fun hs => ⟨hfacing, fun hsound => ?_⟩, t.memory, hfacing, .untouched⟩
    exact absurd (hsteady₁ hs) ((hblocked hsound.checked).not_steady hsound.forges_eq)
  intro uid c₂ hend
  obtain ⟨rfl, hsession₂, hkept₂, hhonest⟩ := hend
  have hforges : t.forges = false := hhonest hverify₁
  refine (ends_encodeArea hsession₂).bind ?_ ?_
  · intro e c' hend
    obtain ⟨hlen, hfacing⟩ := hend
    exact ⟨fun _ => ⟨hfacing, fun _ => hlen⟩, t.memory, hfacing, .untouched⟩
  intro area c₃ hend
  obtain ⟨hencodes, hsession₃, hkept₃⟩ := hend
  obtain ⟨header, body, hsplit, hlen⟩ := splitPages_encoded hencodes
  have hsteady₃ : TagLink.Steady c.link → TagLink.Steady c₃.link :=
    fun hs => hkept₃.steady (hkept₂.steady (hsteady₁ hs))
  have hstart : payloadStart.toNat = 4 := rfl
  have hcount : pageCount = 40 := rfl
  refine (ends_writeRangeCommitted _ hsplit hsession₃ (by omega) (by omega)
    (by rw [List.length_cons]; omega)).bind ?_ ?_
  · intro e c' hend
    obtain ⟨hblocked, hremains⟩ := hend
    refine ⟨fun hs => absurd (hsteady₃ hs) (hblocked.not_steady hforges), ?_⟩
    rcases hremains with hsame | ⟨k, hmarked⟩ | ⟨hwritten, ⟨-, hforged⟩ | hlost⟩
    · exact ⟨t.memory, hsame, .untouched⟩
    · refine ⟨_, hmarked, .marked (body.take k) ?_⟩
      rw [List.length_take]
      omega
    · rw [hforges] at hforged
      cases hforged
    · exact ⟨_, hwritten, .complete area header body _ hencodes hsplit hlost⟩
  · intro _ c' hend
    obtain ⟨hsession', -⟩ := hend
    refine ⟨rfl, area, hencodes, ?_⟩
    rw [hsplit]
    exact hsession'.facing

/-! ### Testing -/

theorem length_probeRecord (dataKey : Key) (uid probe : Bytes) :
    (probeRecord dataKey uid probe).length = probe.length + Cmac.truncatedSize := by
  unfold probeRecord
  rw [List.length_append, Cmac.length_truncated]

/-- The tag is `t` but for what the scratch pages hold. -/
def Scratched (c : Channel σ) (t : Tag) : Prop :=
  ∃ m, Facing c { t with memory := m } ∧ Memory.SameOutside 36 4 t.memory m

theorem Scratched.of_facing (h : Facing c t) : Scratched c t :=
  ⟨t.memory, h, Memory.SameOutside.refl 36 4 t.memory⟩

/-- A probe record is found as it was written. -/
theorem contents_record {record : Bytes} (hlen : record.length = 16) (m : Memory) :
    (m.setPages scratchStart (splitPages record)).contents 36 4 = record := by
  have hpages : (splitPages record).length = 4 := by
    rw [length_splitPages, hlen]
  have hcontents := m.contents_setPages scratchStart (splitPages record) (by rw [hpages]; decide)
  rw [hpages, flatMap_splitPages_of_mod (by rw [hlen])] at hcontents
  exact hcontents

theorem length_record (dataKey : Key) (uid : Bytes) {probe : Bytes} (h : probe.length = probeSize) :
    (probeRecord dataKey uid probe).length = 16 := by
  rw [length_probeRecord, h]
  rfl

/-- As much as is written of a probe record lies in the scratch area. -/
theorem sameOutside_record {record : Bytes} (hlen : record.length = 16) (m : Memory) (k : Nat) :
    Memory.SameOutside 36 4 m (m.setPages scratchStart ((splitPages record).take k)) := by
  refine Memory.sameOutside_setPages _ (by decide) ?_ (by decide)
  have hstart : scratchStart.toNat = 36 := rfl
  rw [List.length_take, length_splitPages, hlen]
  omega

/-- The memory after a test: the scratch area holds the probe and its MAC. -/
def tested (dataKey : Key) (probe : Bytes) (m : Memory) : Memory :=
  m.setPages scratchStart (splitPages (probeRecord dataKey m.uid.toBytes probe))

theorem sameOutside_tested (dataKey : Key) {probe : Bytes} (h : probe.length = probeSize) (m : Memory) :
    Memory.SameOutside 36 4 m (tested dataKey probe m) := by
  have hlen := length_record dataKey m.uid.toBytes h
  have hall := sameOutside_record hlen m (splitPages (probeRecord dataKey m.uid.toBytes probe)).length
  rwa [List.take_length] at hall

theorem contents_tested (dataKey : Key) {probe : Bytes} (h : probe.length = probeSize) (m : Memory) :
    (tested dataKey probe m).contents 36 4 = probeRecord dataKey m.uid.toBytes probe :=
  contents_record (length_record dataKey m.uid.toBytes h) m

/-- **A test leaves a probe record in the scratch area.** On a steady link a test
that fails has changed nothing, and if the tag is sound the data key is not its own. -/
theorem ends_tested (dataKey : Key) (h : Resting c t) :
    Ends (test t.key1 dataKey) c
      (fun found c' => found = ⟨t.memory.uid.toBytes, none⟩ ∧ ∃ probe : Bytes, probe.length = probeSize ∧
        Facing c' { t with memory := tested dataKey probe t.memory })
      (fun _ c' => Scratched c' t ∧
        (TagLink.Steady c.link → Facing c' t ∧ (Sound t → dataKey ≠ t.key dataSlot))) := by
  unfold test
  refine (ends_authenticate dataSlot dataKey true h.ready).bind ?_ ?_
  · intro e c' hfailed
    exact ⟨.of_facing hfailed.facing, fun hs => ⟨hfailed.facing, fun hsound hkey =>
      hfailed.cause hs hkey (by decide) hsound.model_eq⟩⟩
  intro _ c₁ hopened
  refine (ends_authenticate_uid hopened.ready true).bind ?_ ?_
  · intro e c' hend
    obtain ⟨hfacing, hcause⟩ := hend
    exact ⟨.of_facing hfacing, fun hs => ⟨hfacing, fun hsound =>
      absurd hsound.model_eq (hcause (hopened.steady hs))⟩⟩
  intro _ c₂ hend
  obtain ⟨s, hslot, hsession₂, hverify₂, hsteady₂⟩ := hend
  refine (ends_readUid hsession₂ (by decide) hslot).bind ?_ ?_
  · intro e c' hend
    obtain ⟨hblocked, hfacing⟩ := hend
    exact ⟨.of_facing hfacing, fun hs => ⟨hfacing, fun hsound => absurd (hsteady₂ (hopened.steady hs))
      ((hblocked hsound.checked).not_steady hsound.forges_eq)⟩⟩
  intro uid c₃ hend
  obtain ⟨rfl, hsession₃, hkept₃, hhonest⟩ := hend
  have hforges : t.forges = false := hhonest hverify₂
  rw [ends_bind, ends_draw]
  have hsession₄ := hsession₃.drawn (TagLink.tag?_drawBytes probeSize c₃.link)
  have hsteady₄ : TagLink.Steady c.link → TagLink.Steady (drawBytes probeSize c₃.link).2 := fun hs =>
    TagLink.steady_drawBytes probeSize (hkept₃.steady (hsteady₂ (hopened.steady hs)))
  -- the probe and its MAC fill the scratch area
  have hprobe : (drawBytes probeSize c₃.link).1.length = probeSize := length_drawBytes probeSize c₃.link
  have hsize := length_record dataKey t.memory.uid.toBytes hprobe
  set record := probeRecord dataKey t.memory.uid.toBytes (drawBytes probeSize c₃.link).1 with hrecord
  have hlen : (splitPages record).length = scratchPages := by
    rw [length_splitPages, hsize]
    rfl
  refine (ends_writeRange rfl hsession₄ (by rw [hlen]; decide) (by decide)
    (by rw [hlen]; decide)).bind ?_ ?_
  · intro e c' hend
    obtain ⟨hblocked, k, hfacing⟩ := hend
    exact ⟨⟨_, hfacing, sameOutside_record hsize t.memory k⟩,
      fun hs => absurd (hsteady₄ hs) (hblocked.not_steady hforges)⟩
  intro _ c₅ hend
  obtain ⟨hsession₅, hkept₅⟩ := hend
  refine (ends_readPages hsession₅ (by rw [hlen]; decide) (Or.inr hslot) (by decide)).bind ?_ ?_
  · intro e c' hend
    obtain ⟨hblocked, hfacing⟩ := hend
    exact ⟨⟨_, hfacing, sameOutside_tested dataKey hprobe t.memory⟩,
      fun hs => absurd (hkept₅.steady (hsteady₄ hs)) (hblocked.not_steady hforges)⟩
  intro b c' hend
  obtain ⟨hread, hsession', -⟩ := hend
  have hback : b.toBytes = record := by
    rw [hread, Memory.toBytes_block]
    exact contents_record hsize t.memory
  rw [if_pos hback]
  exact ⟨rfl, _, hprobe, hsession'.facing⟩

/-- **A test changes scratch pages at most**, whatever the data key and however
it ends. On a steady link a test that fails has changed nothing. -/
theorem ends_test (dataKey : Key) (h : Resting c t) :
    Ends (test t.key1 dataKey) c (fun _ c' => Scratched c' t)
      (fun _ c' => Scratched c' t ∧ (TagLink.Steady c.link → Facing c' t)) := by
  refine (ends_tested dataKey h).mono ?_ ?_
  · intro found c' hend
    obtain ⟨-, probe, hprobe, hfacing⟩ := hend
    exact ⟨_, hfacing, sameOutside_tested dataKey hprobe t.memory⟩
  · intro e c' hend
    exact ⟨hend.1, fun hs => (hend.2 hs).1⟩

/-! ### Whole transactions -/

/-- Every transaction stops at another product, and otherwise goes on with the
tag as it was. -/
theorem ends_execute {request : Request} {Q : Finding → Channel σ → Prop}
    {E : TagError → Channel σ → Prop} (h : Resting c t)
    (hproduct : ∀ e (c' : Channel σ), Facing c' t →
      (TagLink.Steady c.link → t.model ≠ .ultralightAes) → E e c')
    (hnext : ∀ c', Resting c' t → Kept c c' →
      Ends (match request with
        | .read mode uidKey dataKey => read mode uidKey dataKey
        | .write payload uidKey dataKey => write payload uidKey dataKey
        | .test uidKey dataKey => test uidKey dataKey) c' Q E) :
    Ends (execute request) c Q E := by
  unfold execute
  refine (ends_checkProduct h).bind ?_ ?_
  · intro e c' hend
    obtain ⟨hfacing, hcause⟩ := hend
    exact hproduct e c' hfacing hcause
  · intro _ c' hend
    obtain ⟨hresting, hkept⟩ := hend
    exact hnext c' hresting hkept

/-- What holds of the result and the link, however the transaction ends, holds
of the run. -/
theorem run_of_ends {uid : Bytes} {request : Request} {link : σ} {P : ScanResult → σ → Prop}
    (h : Ends (execute request) (Channel.new uid link) (fun found c' => P (.ok found) c'.link)
      (fun e c' => P (.error e.classify) c'.link)) :
    P (run uid request link).1 (run uid request link).2 := by
  unfold run
  cases hrun : execute request (Channel.new uid link) with
  | ok found c' => exact h.ok hrun
  | error e c' => exact h.error hrun

end Transaction

/-! ### Activated tags -/

theorem Station.contact_eq {ρ : Type} [RandomSource ρ] {station : Station ρ} {t : Tag}
    (htag : station.field.tag = some t) {uid : Bytes} {contact : Contact ρ}
    (h : station.contact? = some (uid, contact)) :
    contact = ⟨{ station.field with tag := some { t with state := .idle } }, station.field.generation,
      (t.activate station.rng).2.2⟩ := by
  unfold Station.contact? at h
  rw [htag, Option.map_some, Option.some.injEq, Prod.mk.injEq] at h
  obtain ⟨-, rfl⟩ := h
  rw [← t.activate_eq station.rng]

/-- A scan that is just starting finds the tag in the field. -/
theorem Station.activate_present {ρ : Type} [RandomSource ρ] {station : Station ρ} {t : Tag}
    (htag : station.field.tag = some t) : ∃ uid contact,
      station.contact? = some (uid, contact) ∧ station.activate none = .found uid contact := by
  obtain ⟨⟨uid, contact⟩, hcontact⟩ : ∃ x, station.contact? = some x := by
    unfold Station.contact?
    rw [htag]
    exact ⟨_, rfl⟩
  refine ⟨uid, contact, hcontact, ?_⟩
  unfold Station.activate
  rw [hcontact]
  exact if_neg fun h => h rfl

/-- A tag that was just activated is idle and otherwise as it was. -/
theorem Station.resting_contact {ρ : Type} [RandomSource ρ] {station : Station ρ} {t : Tag}
    (htag : station.field.tag = some t) {uid : Bytes} {contact : Contact ρ}
    (h : station.contact? = some (uid, contact)) :
    ∃ u, contact.field.tag = some u ∧ u.settled = t.settled ∧ u.state = .idle ∧
      u.allowance = t.allowance ∧ contact.field.generation = contact.generation := by
  rw [contact_eq htag h]
  exact ⟨_, rfl, rfl, rfl, rfl, rfl⟩

end Nearfield
