/-
# Writing a range of pages

A range goes to the tag page by page in a session, and the tag refuses the first
page that is no user page. If all of them are user pages the range is written as a
whole; if not, the pages in front of the first other one are written, the command
fails and the session ends on both sides (`ends_writePages_stopped`). With a commit
mark the same pages are taken up, and the mark is what stays in the first of them
(`ends_writeRangeCommitted_stopped`). A range whose pages cannot be numbered is not
begun.

Key definitions: `Tag.writableFrom`, `Channel.Live`.
Key theorems: `Channel.ends_writePages_stopped`,
`Channel.ends_writeRangeCommitted_stopped`, `Channel.writeRange_outcome`.
-/
import Nearfield.Proofs.Channel.Commands

namespace Nearfield

/-! ### User pages from a page on -/

namespace Tag

/-- How many pages can be written from a page on, one after the other. -/
def writableFrom (page : UInt8) : Nat := if page.toNat < 4 then 0 else pageCount - page.toNat

theorem writableFrom_of_not {page : UInt8} (h : ¬ Writable page) : writableFrom page = 0 := by
  have hcount : pageCount = 40 := rfl
  rw [writable_iff] at h
  unfold writableFrom
  split <;> omega

theorem writableFrom_succ {page : UInt8} (h : Writable page) :
    writableFrom page = writableFrom (page + 1) + 1 := by
  have hcount : pageCount = 40 := rfl
  rw [writable_iff] at h
  have hnext : (page + 1).toNat = page.toNat + 1 := Memory.toNat_succ (by omega)
  unfold writableFrom
  rw [if_neg (by omega), if_neg (by omega), hnext]
  omega

/-- The last of them is the last page of the memory. -/
theorem add_writableFrom {page : UInt8} (h : 0 < writableFrom page) :
    4 ≤ page.toNat ∧ page.toNat + writableFrom page = pageCount := by
  unfold writableFrom at h ⊢
  split at h
  · cases h
  · rw [if_neg ‹_›]
    omega

end Tag

namespace Channel

/-! ### Refused pages -/

section
variable {σ : Type} [TagLink σ] {c : Channel σ} {t : Tag} {s : Session} {n : Nat}

/-- A command that the tag refuses ends the session on both sides. -/
theorem ends_transceive_refused {instruction : UInt8} {rest : Bytes} {code : UInt8}
    (h : InSession c t s n) (hsteady : TagLink.Steady c.link) (hhead : instruction ≠ Code.authenticate)
    (hrun : ∀ u : Tag, u.runCommand (some s.slot) (instruction :: rest) = ([code], u))
    (hcode : code ≠ Code.ack) :
    Ends (transceive (instruction :: rest)) c (fun _ _ => False)
      (fun e c' => e = Answer.nakError code ∧ Resting c' t ∧ Kept c c') := by
  obtain ⟨hsession, u, htag, hsettled, hstate⟩ := h
  have hprotected : ((s.after n).protect (instruction :: rest)).head? ≠ some Code.authenticate := by
    rw [Session.head?_protect]
    exact fun he => hhead (Option.some.inj he)
  obtain ⟨answer, link', hex, hsteady'⟩ :=
    TagLink.exchange_steady ((s.after n).protect (instruction :: rest)) hsteady
  obtain ⟨v, u', hv, hstep, htag'⟩ := TagLink.exchange_ok hex
  cases htag.symm.trans hv
  obtain ⟨rfl, rfl⟩ := hstep.secured_refused hstate hprotected (hrun u.taken) hcode
  rw [← outgoing_inSession hsession] at hex
  have htaken : u.taken.settled = t.settled := Tag.taken_of_settled hsettled
  exact ends_transceive_nak hcode hex ⟨rfl, ⟨rfl, _, htag', htaken, rfl⟩, rfl, rfl, fun _ => hsteady'⟩

theorem ends_writePage_refused {page : UInt8} (data : Page) (h : InSession c t s n)
    (hsteady : TagLink.Steady c.link) (hpage : ¬ Tag.Writable page) :
    Ends (writePage page data) c (fun _ _ => False)
      (fun e c' => e = .nak Code.nakArgument ∧ Resting c' t ∧ Kept c c') := by
  unfold writePage
  refine (ends_transceive_refused h hsteady (by decide)
    (fun u => u.runCommand_write_refused _ data hpage) (by decide)).bind ?_ ?_
  · intro e c' hend
    exact hend
  · intro _ _ hend
    exact hend.elim

/-! ### Runs of pages -/

/-- The pages in front of the first one that is refused are written. -/
theorem ends_writePages_stopped (hforges : t.forges = false) :
    ∀ (ps : List Page) {c : Channel σ} {m : Memory} {n : Nat} {page : UInt8},
    InSession c { t with memory := m } s n → TagLink.Steady c.link → Tag.writableFrom page < ps.length →
    n + Tag.writableFrom page ≤ 65535 →
    Ends (writePages page ps) c (fun _ _ => False)
      (fun e c' => e = .nak Code.nakArgument ∧ Kept c c' ∧ Resting c'
        { t with memory := m.setPages page (ps.take (Tag.writableFrom page)) })
  | [], _, _, _, _, _, _, hlen, _ => absurd hlen (Nat.not_lt_zero _)
  | p :: ps, c, m, n, page, h, hsteady, hlen, hn => by
    unfold writePages
    by_cases hpage : Tag.Writable page
    · have hnext := Tag.writableFrom_succ hpage
      rw [List.length_cons] at hlen
      refine (ends_writePage p h (by omega) hpage).bind ?_ ?_
      · intro e c' hend
        exact absurd hsteady (hend.1.not_steady hforges)
      intro _ c₁ hend
      obtain ⟨hsession, hkept⟩ := hend
      refine (ends_writePages_stopped hforges ps hsession (hkept.steady hsteady) (by omega)
        (by omega)).mono (fun _ _ hend => hend) ?_
      intro e c' hend
      obtain ⟨he, hkept', hresting⟩ := hend
      rw [hnext, List.take_succ_cons, Memory.setPages_cons]
      exact ⟨he, hkept.trans hkept', hresting⟩
    · rw [Tag.writableFrom_of_not hpage]
      refine (ends_writePage_refused p h hsteady hpage).bind ?_ ?_
      · intro e c' hend
        obtain ⟨he, hresting, hkept⟩ := hend
        exact ⟨he, hkept, hresting⟩
      · intro _ _ hend
        exact hend.elim

/-! ### Ranges -/

variable {start : UInt8} {data : Bytes} {first : Page} {ps rest : List Page}

theorem ends_writeRange_stopped (hsplit : splitPages data = ps) (h : InSession c t s n)
    (hsteady : TagLink.Steady c.link) (hforges : t.forges = false) (hend : start.toNat + ps.length ≤ 256)
    (hlen : Tag.writableFrom start < ps.length) (hn : n + Tag.writableFrom start ≤ 65535) :
    Ends (writeRange start data) c (fun _ _ => False)
      (fun e c' => e = .nak Code.nakArgument ∧ Kept c c' ∧ Resting c'
        { t with memory := t.memory.setPages start (ps.take (Tag.writableFrom start)) }) := by
  unfold writeRange
  rw [ends_bind, pagesFrom_eq hsplit hend, ends_lift]
  exact ends_writePages_stopped hforges ps h hsteady hlen hn

/-- **The mark stays**, unless the first page is refused itself. -/
theorem ends_writeRangeCommitted_stopped (invalid : Page) (hsplit : splitPages data = first :: rest)
    (h : InSession c t s n) (hsteady : TagLink.Steady c.link) (hforges : t.forges = false)
    (hend : start.toNat + (first :: rest).length ≤ 256)
    (hlen : Tag.writableFrom start < (first :: rest).length)
    (hn : n + Tag.writableFrom start ≤ 65535) :
    Ends (writeRangeCommitted start data invalid) c (fun _ _ => False)
      (fun e c' => e = .nak Code.nakArgument ∧ Kept c c' ∧ Resting c'
        { t with memory := t.memory.setPages start ((invalid :: rest).take (Tag.writableFrom start)) }) := by
  -- the mark and the other pages are a run, which stops before the first page itself is due
  have hrun := ends_writePages_stopped hforges (invalid :: rest) h hsteady hlen hn
  unfold writePages at hrun
  unfold writeRangeCommitted
  rw [ends_bind, pagesFrom_eq hsplit hend, ends_lift]
  dsimp only
  rw [ends_bind] at hrun ⊢
  refine hrun.mono (fun _ c₁ hrest => ?_) (fun _ _ hstopped => hstopped)
  exact hrest.bind (fun _ _ hstopped => hstopped) fun _ _ hnever => hnever.elim

end

/-! ### Live sessions -/

section
variable {ρ : Type} [RandomSource ρ] {c : Channel (Contact ρ)} {t : Tag} {s : Session}

/-- The channel is in the session `s` with the tag `t`, which stays in the field
and does not forge. -/
structure Live (c : Channel (Contact ρ)) (t : Tag) (s : Session) : Prop where
  tag_eq : c.link.field.tag = some t
  link_eq : c.link.field.generation = c.link.generation
  stays : t.allowance = none
  honest : t.forges = false
  session_eq : c.session = some s
  state_eq : t.state = .authenticated s

theorem Live.steady (h : Live c t s) : TagLink.Steady c.link := ⟨h.link_eq, t, h.tag_eq, h.stays⟩

theorem Live.inSession (h : Live c t s) : InSession c t s s.counter.toNat :=
  .of_held h.session_eq h.tag_eq h.state_eq

theorem InSession.live {n : Nat} (h : InSession c t s n) (hsteady : TagLink.Steady c.link)
    (hforges : t.forges = false) : ∃ u, Live c u (s.after n) ∧ u.settled = t.settled := by
  obtain ⟨hsession, u, htag, hsettled, hstate⟩ := h
  obtain ⟨hlink, v, hv, hstays⟩ := hsteady
  cases htag.symm.trans hv
  have hhonest : u.forges = false := (Tag.forges_of_settled hsettled).trans hforges
  exact ⟨u, ⟨htag, hlink, hstays, hhonest, hsession, hstate⟩, hsettled⟩

end

/-! ### How a range ends -/

section
variable {σ : Type} [FrameLink σ] {start : UInt8} {data : Bytes}

/-- A range whose pages cannot be numbered is refused before anything is sent. -/
theorem writeRange_tooLarge (c : Channel σ) (invalid : Page)
    (h : 256 < start.toNat + (data.length + 3) / 4) :
    let e := TagError.payloadTooLarge data.length ((256 - start.toNat) * 4)
    writeRange start data c = .error e c ∧ writeRangeCommitted start data invalid c = .error e c := by
  have hpages : pagesFrom start data =
      .error (.payloadTooLarge data.length ((256 - start.toNat) * Page.size)) := by
    unfold pagesFrom
    dsimp only
    rw [length_splitPages, if_pos h]
  constructor
  · unfold writeRange
    rw [hpages]
    rfl
  · unfold writeRangeCommitted
    rw [hpages]
    rfl

/-- Without bytes there is nothing to send. -/
theorem writeRange_nil (c : Channel σ) (start : UInt8) (invalid : Page) :
    writeRange start [] c = .ok () c ∧ writeRangeCommitted start [] invalid c = .ok () c := by
  have hpages : pagesFrom start [] = .ok [] := by
    refine pagesFrom_eq rfl ?_
    have hstart := start.toNat_lt
    rw [List.length_nil]
    omega
  constructor
  · unfold writeRange
    rw [hpages]
    rfl
  · unfold writeRangeCommitted
    rw [hpages]
    rfl

end

/-- What a run of pages puts into the memory. -/
theorem contents_written (m : Memory) (start : UInt8) (bytes : Bytes) (k : Nat)
    (hbytes : 4 * k ≤ bytes.length) (hend : k = 0 ∨ start.toNat + k ≤ pageCount) :
    let m' := m.setPages start ((splitPages bytes).take k)
    m'.contents start.toNat k = bytes.take (4 * k) ∧ Memory.SameOutside start.toNat k m m' := by
  have hlen : ((splitPages bytes).take k).length = k := by
    rw [List.length_take, length_splitPages]
    omega
  rcases hend with rfl | hend
  · exact ⟨rfl, .refl _ _ m⟩
  · have hcontents := m.contents_setPages start ((splitPages bytes).take k) (hlen.symm ▸ hend)
    rw [hlen, flatMap_take_splitPages hbytes] at hcontents
    exact ⟨hcontents, Memory.sameOutside_setPages m (Nat.le_refl _) (by rw [hlen]) hend⟩

section
variable {ρ : Type} [RandomSource ρ] {c : Channel (Contact ρ)} {t : Tag} {s : Session} {start : UInt8}
  {data : Bytes}

/-- Both sides go on with the session, and the memory of the tag is `m`. -/
def GoesOn (c : Channel (Contact ρ)) (m : Memory) : Prop := ∃ u s, Live c u s ∧ u.memory = m

/-- The session is over on both sides, and the memory of the tag is `m`. -/
def Over (c : Channel (Contact ρ)) (m : Memory) : Prop :=
  c.session = none ∧ ∃ u, c.link.field.tag = some u ∧ u.state = .idle ∧ u.memory = m

theorem Resting.over {m : Memory} (h : Resting c { t with memory := m }) : Over c m := by
  obtain ⟨hsession, u, htag, hsettled, hidle⟩ := h
  exact ⟨hsession, u, htag, hidle, Tag.memory_of_settled hsettled⟩

theorem InSession.goesOn {m : Memory} {n : Nat} (h : InSession c { t with memory := m } s n)
    (hsteady : TagLink.Steady c.link) (hforges : t.forges = false) : GoesOn c m := by
  obtain ⟨u, hlive, hsettled⟩ := h.live hsteady hforges
  exact ⟨u, _, hlive, Tag.memory_of_settled hsettled⟩

/-- Where nothing can fail but by the link or a forgery, a live session goes on. -/
theorem Live.goesOn {prog : ChannelM (Contact ρ) Unit} {m : Memory} {n : Nat}
    {E : TagError → Channel (Contact ρ) → Prop} (h : Live c t s)
    (hends : Ends prog c (fun _ c' => InSession c' { t with memory := m } s n ∧ Kept c c')
      fun e c' => Blocked c t ∧ E e c') : ∃ c', prog c = .ok () c' ∧ GoesOn c' m := by
  obtain ⟨⟨⟩, c', hrun, hsession, hkept⟩ := (hends.mono (fun _ _ hend => hend) fun e c' hend =>
    hend.1.not_steady h.honest h.steady).returns
  exact ⟨c', hrun, hsession.goesOn (hkept.steady h.steady) h.honest⟩

/-- User pages are written. -/
theorem Live.writeRange (h : Live c t s) (hlo : 4 ≤ start.toNat)
    (hhi : start.toNat + (splitPages data).length ≤ pageCount)
    (hturns : s.counter.toNat + (splitPages data).length ≤ 65535) :
    ∃ c', Channel.writeRange start data c = .ok () c' ∧
      GoesOn c' (t.memory.setPages start (splitPages data)) :=
  h.goesOn (ends_writeRange rfl h.inSession hturns hlo hhi)

/-- So they are with a commit mark, and nothing tells the difference. -/
theorem Live.writeRangeCommitted (h : Live c t s) (invalid : Page) (hlo : 4 ≤ start.toNat)
    (hhi : start.toNat + (splitPages data).length ≤ pageCount)
    (hturns : s.counter.toNat + (splitPages data).length + 1 ≤ 65535) :
    ∃ c', Channel.writeRangeCommitted start data invalid c = .ok () c' ∧
      GoesOn c' (t.memory.setPages start (splitPages data)) := by
  cases hsplit : splitPages data with
  | nil =>
    have hdata : data = [] := by
      have hlen := length_splitPages data
      rw [hsplit, List.length_nil] at hlen
      exact List.eq_nil_of_length_eq_zero (by omega)
    exact ⟨c, hdata ▸ (writeRange_nil c start invalid).2, t, s, h, rfl⟩
  | cons first rest =>
    rw [hsplit] at hhi hturns
    rw [List.length_cons] at hturns
    exact h.goesOn (ends_writeRangeCommitted invalid hsplit h.inSession (by omega) hlo hhi)

/-- The pages in front of the first one that is refused are written. -/
theorem Live.writeRange_stopped (h : Live c t s) (hend : start.toNat + (splitPages data).length ≤ 256)
    (hlen : Tag.writableFrom start < (splitPages data).length)
    (hturns : s.counter.toNat + Tag.writableFrom start ≤ 65535) :
    ∃ c', Channel.writeRange start data c = .error (.nak 0) c' ∧
      Over c' (t.memory.setPages start ((splitPages data).take (Tag.writableFrom start))) := by
  have hends := ends_writeRange_stopped rfl h.inSession h.steady h.honest hend hlen hturns
  obtain ⟨e, c', hrun, rfl, -, hresting⟩ := hends.fails
  exact ⟨c', hrun, hresting.over⟩

/-- With a commit mark it is as if the bytes began with the mark. -/
theorem Live.writeRangeCommitted_stopped (h : Live c t s) (invalid : Page)
    (hend : start.toNat + (splitPages data).length ≤ 256)
    (hlen : Tag.writableFrom start < (splitPages data).length)
    (hturns : s.counter.toNat + Tag.writableFrom start ≤ 65535) :
    ∃ c', Channel.writeRangeCommitted start data invalid c = .error (.nak 0) c' ∧
      Over c' (t.memory.setPages start
        ((splitPages (invalid.toBytes ++ data.drop 4)).take (Tag.writableFrom start))) := by
  obtain ⟨first, rest, hsplit⟩ : ∃ first rest, splitPages data = first :: rest :=
    List.exists_cons_of_length_pos (Nat.zero_lt_of_lt hlen)
  have hmarked : splitPages (invalid.toBytes ++ data.drop 4) = invalid :: rest := by
    have htail := tail_splitPages data
    rw [hsplit, List.tail_cons] at htail
    exact congrArg (invalid :: ·) htail.symm
  rw [hsplit] at hend hlen
  have hends :=
    ends_writeRangeCommitted_stopped invalid hsplit h.inSession h.steady h.honest hend hlen hturns
  obtain ⟨e, c', hrun, rfl, -, hresting⟩ := hends.fails
  rw [hmarked]
  exact ⟨c', hrun, hresting.over⟩

/-- **How a write to a range ends**, in a live session that has turns left for the
frames. The range has `n` pages, `k` of them in front of the first one that cannot be
written.

If the pages cannot be numbered, nothing is sent and nothing changes; nor if there
are none. If they are user pages, both ways of writing succeed and leave the same
memory, with the bytes in these pages, zeros behind them, and no other page changed.
Otherwise both fail, the session is over, and only these `k` pages are changed: they
hold the bytes, with a commit mark in the first one if there is to be one. -/
theorem writeRange_outcome (h : Live c t s) (start : UInt8) (data : Bytes) (invalid : Page) :
    let n := (data.length + 3) / 4
    let k := Tag.writableFrom start
    let turn := s.counter.toNat
    (0 < n → 256 < start.toNat + n →
      let e := TagError.payloadTooLarge data.length ((256 - start.toNat) * 4)
      writeRange start data c = .error e c ∧ writeRangeCommitted start data invalid c = .error e c) ∧
    (n = 0 → writeRange start data c = .ok () c ∧ writeRangeCommitted start data invalid c = .ok () c) ∧
    (4 ≤ start.toNat → start.toNat + n ≤ 40 → ∃ m : Memory,
      m.contents start.toNat n = data ++ List.replicate (4 * n - data.length) 0 ∧
      Memory.SameOutside start.toNat n t.memory m ∧
      (turn + n ≤ 65535 → ∃ c', writeRange start data c = .ok () c' ∧ GoesOn c' m) ∧
      (turn + n + 1 ≤ 65535 →
        ∃ c', writeRangeCommitted start data invalid c = .ok () c' ∧ GoesOn c' m)) ∧
    (0 < n → start.toNat + n ≤ 256 → start.toNat < 4 ∨ 40 < start.toNat + n → turn + k ≤ 65535 →
      ∃ m m' : Memory,
        (∃ c', writeRange start data c = .error (.nak 0) c' ∧ Over c' m) ∧
        m.contents start.toNat k = data.take (4 * k) ∧ Memory.SameOutside start.toNat k t.memory m ∧
        (∃ c', writeRangeCommitted start data invalid c = .error (.nak 0) c' ∧ Over c' m') ∧
        m'.contents start.toNat k = (invalid.toBytes ++ data.drop 4).take (4 * k) ∧
        Memory.SameOutside start.toNat k t.memory m') := by
  intro n k turn
  have hcount : pageCount = 40 := rfl
  have hlen : (splitPages data).length = n := length_splitPages data
  refine ⟨fun _ hend => writeRange_tooLarge c invalid hend, fun hn => ?_, fun hlo hhi => ?_, ?_⟩
  · have hdata : data = [] := List.eq_nil_of_length_eq_zero (by omega)
    subst hdata
    exact writeRange_nil c start invalid
  · refine ⟨t.memory.setPages start (splitPages data), ?_, ?_, fun hturns => ?_, fun hturns => ?_⟩
    · have hcontents := t.memory.contents_setPages start (splitPages data) (by omega)
      rwa [hlen, flatMap_splitPages_eq] at hcontents
    · exact Memory.sameOutside_setPages _ (Nat.le_refl _) (by omega) (by omega)
    · exact h.writeRange hlo (by omega) (by omega)
    · exact h.writeRangeCommitted invalid hlo (by omega) (by omega)
  · intro hn hend hout hturns
    have hk : k < n ∧ (k = 0 ∨ start.toNat + k ≤ pageCount) := by
      rcases Nat.eq_zero_or_pos k with hzero | hpos
      · omega
      · have := Tag.add_writableFrom hpos
        omega
    have hwritten := contents_written t.memory start data k (by omega) hk.2
    have hmarked := contents_written t.memory start (invalid.toBytes ++ data.drop 4) k ?_ hk.2
    · exact ⟨_, _, h.writeRange_stopped (by omega) (by omega) hturns, hwritten.1, hwritten.2,
        h.writeRangeCommitted_stopped invalid (by omega) (by omega) hturns, hmarked.1, hmarked.2⟩
    · have hmark : invalid.toBytes.length = 4 := rfl
      rw [List.length_append, List.length_drop, hmark]
      omega

/-- Nine bytes for the last two pages. -/
theorem writeRange_outcome_last_pages :
    let s : Session := ⟨Block.zero, uidSlot, 7⟩
    let t : Tag := { Tag.new Uid.default with state := .authenticated s }
    let c : Channel (Contact ByteStream) := ⟨⟨⟨some t, 1, 0⟩, 1, ⟨[], 0⟩⟩, t.uid.toBytes, some s, true⟩
    let data : Bytes := [1, 2, 3, 4, 5, 6, 7, 8, 9]
    let invalid : Page := ⟨0xFF, 0xFF, 0xFF, 0xFF⟩
    Live c t s ∧ ∃ m m' : Memory,
      (∃ c', writeRange 0x26 data c = .error (.nak 0) c' ∧ Over c' m) ∧
      m.contents 0x26 2 = [1, 2, 3, 4, 5, 6, 7, 8] ∧
      (∃ c', writeRangeCommitted 0x26 data invalid c = .error (.nak 0) c' ∧ Over c' m') ∧
      m'.contents 0x26 2 = [0xFF, 0xFF, 0xFF, 0xFF, 5, 6, 7, 8] := by
  intro s t c data invalid
  have hlive : Live c t s := ⟨rfl, rfl, rfl, rfl, rfl, rfl⟩
  obtain ⟨-, -, -, hstopped⟩ := writeRange_outcome hlive 0x26 data invalid
  obtain ⟨m, m', hrun, hcontents, -, hrun', hcontents', -⟩ :=
    hstopped (by decide) (by decide) (Or.inr (by decide)) (by decide)
  exact ⟨hlive, m, m', hrun, hcontents, hrun', hcontents'⟩

end
end Channel
end Nearfield
