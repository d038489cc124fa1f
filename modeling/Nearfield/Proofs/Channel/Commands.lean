/-
# Reading and writing on a channel

What the commands of a channel read and write, built up from one frame: pages in
groups of four, the identifier, pages one by one, and a range with a commit mark.
In a session on the identifier's slot the answers are the tag's memory; every
command goes on with the session or says how far it came.

Key theorems: `Channel.ends_readArea`, `Channel.ends_readUid`,
`Channel.ends_writePages`, `Channel.ends_writeRangeCommitted`.
-/
import Nearfield.Proofs.Channel.Sessions
import Nearfield.Proofs.Memory

namespace Nearfield

/-! ### What a tag answers to a READ -/

namespace Tag

/-- A tag without a random identifier hides nothing, nor does any tag in a session on
the identifier's slot. -/
theorem readPages_shown {t : Tag} {slot : Option UInt8} (h : t.randomId = false ∨ slot = some uidSlot)
    (page : UInt8) : t.readPages slot page = (t.memory.block page.toNat).toBytes := by
  have hshown : ∀ n, ¬ ((t.randomId = true ∧ slot ≠ some uidSlot) ∧ n % pageCount < 3) := by
    rintro n ⟨⟨hrandom, hslot⟩, -⟩
    exact h.elim (fun hfixed => Bool.false_ne_true (hfixed.symm.trans hrandom)) hslot
  unfold readPages
  simp only [hshown, if_false]
  rfl

/-- The pages behind the identifier are hidden from nobody. -/
theorem readPages_user (t : Tag) (slot : Option UInt8) {page : UInt8} (hlo : 4 ≤ page.toNat)
    (hhi : page.toNat + 4 ≤ pageCount) :
    t.readPages slot page = (t.memory.block page.toNat).toBytes := by
  have hcount : pageCount = 40 := rfl
  have hshown : ∀ n ∈ List.range' page.toNat pagesPerRead,
      (if (t.randomId = true ∧ slot ≠ some uidSlot) ∧ n % pageCount < 3
        then Page.zero.toBytes else (t.memory.wrapped n).toBytes) = (t.memory.wrapped n).toBytes := by
    intro n hn
    have hpage : page.toNat ≤ n ∧ n < page.toNat + 4 := List.mem_range'_1.mp hn
    exact if_neg fun h => by rw [Nat.mod_eq_of_lt (by omega)] at h; omega
  unfold readPages
  rw [List.flatMap_congr hshown]
  rfl

theorem readPages_congr {t u : Tag} (h : u.settled = t.settled) (slot : Option UInt8) (page : UInt8) :
    u.readPages slot page = t.readPages slot page :=
  (congrArg (fun v : Tag => v.readPages slot page) h :)

end Tag

namespace Channel

variable {σ : Type} [TagLink σ] {c : Channel σ} {t : Tag} {s : Session} {n : Nat}

/-! ### Reading -/

theorem le_lastPage {page : UInt8} (h : page.toNat < pageCount) : page ≤ lastPage := by
  have hcount : pageCount = 40 := rfl
  rw [UInt8.le_iff_toNat_le]
  show page.toNat ≤ 39
  omega

theorem toNat_nextGroup {page : UInt8} (h : page.toNat < pageCount) :
    (page + 4).toNat = page.toNat + 4 := by
  have hcount : pageCount = 40 := rfl
  rw [UInt8.toNat_add]
  exact Nat.mod_eq_of_lt (by show page.toNat + 4 < 256; omega)

theorem ends_readPages {page : UInt8} (h : InSession c t s n) (hn : n < 65535)
    (hshown : t.randomId = false ∨ s.slot = uidSlot) (hpage : page ≤ lastPage) :
    Ends (readPages page) c
      (fun b c' => b = t.memory.block page.toNat ∧ InSession c' t s (n + 1) ∧ Kept c c' ∧
        (c.verify = true → t.forges = false))
      (fun _ c' => Blocked c t ∧ Facing c' t) := by
  have hrun : ∀ u : Tag, u.settled = t.settled → u.runCommand (some s.slot) (Command.read page)
      = ((t.memory.block page.toNat).toBytes, { u with memory := t.memory }) := by
    intro u hsettled
    have hmemory : u.memory = t.memory := Tag.memory_of_settled hsettled
    have hread := Tag.readPages_shown (hshown.imp_right (congrArg some)) page
    rw [Tag.runCommand_read u _ hpage, Tag.readPages_congr hsettled, hread, ← hmemory]
  unfold readPages
  refine (ends_transceive h hn (by decide) hrun rfl).bind ?_ ?_
  · intro e c' hend
    rcases hend with ⟨hblocked, hsame | ⟨hsame, -⟩⟩ <;> exact ⟨hblocked, hsame⟩
  · intro d c' hend
    obtain ⟨rfl, hsession, hkept, hhonest⟩ := hend
    exact ⟨rfl, hsession, hkept, hhonest⟩

/-- Reading group after group. -/
theorem ends_readGroups (hslot : s.slot = uidSlot) :
    ∀ (k : Nat) {c : Channel σ} {n : Nat} {page : UInt8}, InSession c t s n → n + k ≤ 65535 →
    page.toNat + 4 * k ≤ pageCount →
    Ends (readGroups page k) c
      (fun d c' => d = t.memory.contents page.toNat (4 * k) ∧ InSession c' t s (n + k) ∧ Kept c c')
      (fun _ c' => Blocked c t ∧ Facing c' t)
  | 0, c, n, page, h, _, _ => ⟨rfl, h, Kept.refl c⟩
  | k + 1, c, n, page, h, hn, hend => by
    have hcount : pageCount = 40 := rfl
    have hpage : page ≤ lastPage := le_lastPage (by omega)
    have hnext : (page + 4).toNat = page.toNat + 4 := toNat_nextGroup (by omega)
    unfold readGroups
    refine (ends_readPages h (by omega) (Or.inr hslot) hpage).bind (fun _ _ h => h) ?_
    intro b c' hend
    obtain ⟨rfl, hsession, hkept, -⟩ := hend
    refine (ends_readGroups hslot k hsession (by omega) (by omega)).bind ?_ ?_
    · intro e c'' hend
      obtain ⟨hblocked, hfacing⟩ := hend
      exact ⟨hblocked.of_kept hkept, hfacing⟩
    · intro d c'' hend
      obtain ⟨rfl, hsession', hkept'⟩ := hend
      refine ⟨?_, ?_, hkept.trans hkept'⟩
      · rw [Memory.contents_four_mul_succ, hnext]
      · rwa [Nat.add_assoc, Nat.add_comm 1 k] at hsession'

/-- The payload area is what the tag has in it. -/
theorem ends_readArea (h : InSession c t s n) (hn : n + 8 ≤ 65535) (hslot : s.slot = uidSlot) :
    Ends (readRange payloadStart payloadPages) c
      (fun d c' => d = t.memory.area ∧ InSession c' t s (n + 8) ∧ Kept c c')
      (fun _ c' => Blocked c t ∧ Facing c' t) := by
  unfold readRange
  rw [if_neg (by decide)]
  refine (ends_readGroups hslot 8 h hn (by decide)).bind (fun _ _ h => h) ?_
  intro d c' hend
  obtain ⟨rfl, hsession, hkept⟩ := hend
  exact ⟨t.memory.area_eq.symm, hsession, hkept⟩

/-- The identifier is the tag's, and it is refused only if its check bytes are
wrong. -/
theorem ends_readUid (h : InSession c t s n) (hn : n < 65535) (hslot : s.slot = uidSlot) :
    Ends readUid c
      (fun uid c' => uid = t.memory.uid.toBytes ∧ InSession c' t s (n + 1) ∧ Kept c c' ∧
        (c.verify = true → t.forges = false))
      (fun _ c' => (t.memory.Checked → Blocked c t) ∧ Facing c' t) := by
  unfold readUid
  refine (ends_readPages h hn (Or.inr hslot) (by decide)).bind ?_ ?_
  · intro e c' hend
    obtain ⟨hblocked, hfacing⟩ := hend
    exact ⟨fun _ => hblocked, hfacing⟩
  · intro b c' hend
    obtain ⟨rfl, hsession, hkept, hhonest⟩ := hend
    dsimp only
    split
    · exact ⟨rfl, hsession, hkept, hhonest⟩
    · rename_i hcheck
      exact ⟨fun hchecked => absurd hchecked hcheck, hsession.facing⟩

/-! ### Outside a session -/

theorem ends_getVersion (h : Resting c t) :
    Ends getVersion c (fun v c' => v = t.model.version ∧ Resting c' t ∧ Kept c c')
      (fun _ c' => Facing c' t ∧ ¬ TagLink.Steady c.link) := by
  have hrun : ∀ u : Tag, u.settled = t.settled → u.runCommand none Command.getVersion
      = (t.model.version.toBytes, u) := by
    intro u hsettled
    have hmodel : u.model = t.model := Tag.model_of_settled hsettled
    rw [Tag.runCommand_getVersion, hmodel]
  unfold getVersion
  refine (ends_transceive_resting h (by decide) hrun rfl).bind (fun _ _ h => h) ?_
  intro d c' hend
  obtain ⟨rfl, hresting, hkept⟩ := hend
  exact ⟨rfl, hresting, hkept⟩

/-- Reads outside a session leave the tag as it is, and return what it has in memory
if it does not hide that. -/
theorem ends_readPages_resting {page : UInt8} (h : Resting c t) (hpage : page ≤ lastPage)
    (hread : t.readPages none page = (t.memory.block page.toNat).toBytes) :
    Ends (readPages page) c
      (fun b c' => b = t.memory.block page.toNat ∧ Resting c' t ∧ Kept c c')
      (fun _ c' => Facing c' t ∧ ¬ TagLink.Steady c.link) := by
  have hrun : ∀ u : Tag, u.settled = t.settled → u.runCommand none (Command.read page)
      = ((t.memory.block page.toNat).toBytes, u) := by
    intro u hsettled
    rw [Tag.runCommand_read u _ hpage, Tag.readPages_congr hsettled, hread]
  unfold readPages
  refine (ends_transceive_resting h (by decide) hrun rfl).bind (fun _ _ h => h) ?_
  intro d c' hend
  obtain ⟨rfl, hresting, hkept⟩ := hend
  exact ⟨rfl, hresting, hkept⟩

theorem ends_readGroups_resting : ∀ (k : Nat) {c : Channel σ} {page : UInt8},
    Resting c t → 4 ≤ page.toNat → page.toNat + 4 * k ≤ pageCount →
    Ends (readGroups page k) c
      (fun d c' => d = t.memory.contents page.toNat (4 * k) ∧ Resting c' t ∧ Kept c c')
      (fun _ c' => Facing c' t ∧ ¬ TagLink.Steady c.link)
  | 0, c, _, h, _, _ => ⟨rfl, h, Kept.refl c⟩
  | k + 1, c, page, h, hlo, hend => by
    have hcount : pageCount = 40 := rfl
    have hnext : (page + 4).toNat = page.toNat + 4 := toNat_nextGroup (by omega)
    unfold readGroups
    have hread := t.readPages_user none hlo (show page.toNat + 4 ≤ pageCount by omega)
    refine (ends_readPages_resting h (le_lastPage (by omega)) hread).bind (fun _ _ h => h) ?_
    intro b c' hend
    obtain ⟨rfl, hresting, hkept⟩ := hend
    refine (ends_readGroups_resting k hresting (by omega) (by omega)).bind ?_ ?_
    · intro e c'' hend
      obtain ⟨hfacing, hunsteady⟩ := hend
      exact ⟨hfacing, fun hs => hunsteady (hkept.steady hs)⟩
    · intro d c'' hend
      obtain ⟨rfl, hresting', hkept'⟩ := hend
      refine ⟨?_, hresting', hkept.trans hkept'⟩
      rw [Memory.contents_four_mul_succ, hnext]

theorem ends_readArea_resting (h : Resting c t) :
    Ends (readRange payloadStart payloadPages) c
      (fun d c' => d = t.memory.area ∧ Resting c' t ∧ Kept c c')
      (fun _ c' => Facing c' t ∧ ¬ TagLink.Steady c.link) := by
  unfold readRange
  rw [if_neg (by decide)]
  refine (ends_readGroups_resting 8 h (by decide) (by decide)).bind (fun _ _ h => h) ?_
  intro d c' hend
  obtain ⟨rfl, hresting, hkept⟩ := hend
  exact ⟨t.memory.area_eq.symm, hresting, hkept⟩

/-! ### Writing -/

/-- A page is written or not; if it is and the command failed, the answer was
forged or lost. -/
theorem ends_writePage {page : UInt8} (data : Page) (h : InSession c t s n) (hn : n < 65535)
    (hpage : Tag.Writable page) :
    Ends (writePage page data) c
      (fun _ c' => InSession c' { t with memory := t.memory.setPage page data } s (n + 1) ∧ Kept c c')
      (fun _ c' => Blocked c t ∧ (Facing c' t ∨
        (Facing c' { t with memory := t.memory.setPage page data } ∧
          ((c.verify = true ∧ t.forges = true) ∨
            TagLink.lost? c'.link = some ((s.after n).protect (Command.write page data)))))) := by
  have hrun : ∀ u : Tag, u.settled = t.settled → u.runCommand (some s.slot) (Command.write page data)
      = ([Code.ack], { u with memory := t.memory.setPage page data }) := by
    intro u hsettled
    have hmemory : u.memory = t.memory := Tag.memory_of_settled hsettled
    rw [Tag.runCommand_write u s.slot data hpage, hmemory]
  unfold writePage
  refine (ends_transceive h hn (by decide) hrun rfl).bind (fun _ _ h => h) ?_
  intro d c' hend
  obtain ⟨rfl, hsession, hkept, -⟩ := hend
  exact ⟨hsession, hkept⟩

/-- Of a run of pages the first ones are written, in order. -/
theorem ends_writePages : ∀ (ps : List Page) {c : Channel σ} {t : Tag} {n : Nat} {page : UInt8},
    InSession c t s n → n + ps.length ≤ 65535 → 4 ≤ page.toNat → page.toNat + ps.length ≤ pageCount →
    Ends (writePages page ps) c
      (fun _ c' => InSession c' { t with memory := t.memory.setPages page ps } s (n + ps.length) ∧
        Kept c c')
      (fun _ c' => Blocked c t ∧
        ∃ k, Facing c' { t with memory := t.memory.setPages page (ps.take k) })
  | [], c, _, _, _, h, _, _, _ => ⟨h, Kept.refl c⟩
  | p :: ps, c, t, n, page, h, hn, hlo, hhi => by
    have hcount : pageCount = 40 := rfl
    rw [List.length_cons] at hn hhi
    have hpage : Tag.Writable page := Tag.writable_iff.mpr ⟨hlo, by omega⟩
    have hnext : (page + 1).toNat = page.toNat + 1 := Memory.toNat_succ (by omega)
    unfold writePages
    refine (ends_writePage p h (by omega) hpage).bind ?_ ?_
    · intro e c' hend
      rcases hend with ⟨hblocked, hsame | ⟨hwritten, -⟩⟩
      · exact ⟨hblocked, 0, hsame⟩
      · exact ⟨hblocked, 1, hwritten⟩
    · intro _ c' hend
      obtain ⟨hsession, hkept⟩ := hend
      refine (ends_writePages ps hsession (by omega) (by omega) (by omega)).mono ?_ ?_
      · intro _ c'' hend
        obtain ⟨hsession', hkept'⟩ := hend
        rw [Nat.add_assoc, Nat.add_comm 1] at hsession'
        exact ⟨hsession', hkept.trans hkept'⟩
      · intro e c'' hend
        obtain ⟨hblocked, k, hfacing⟩ := hend
        exact ⟨Blocked.of_kept hblocked hkept, k + 1, hfacing⟩

theorem pagesFrom_eq {start : UInt8} {data : Bytes} {ps : List Page} (h : splitPages data = ps)
    (hend : start.toNat + ps.length ≤ 256) : pagesFrom start data = .ok ps := by
  unfold pagesFrom
  rw [h]
  dsimp only
  rw [if_neg (by omega)]

theorem ends_writeRange {start : UInt8} {data : Bytes} {ps : List Page} (hsplit : splitPages data = ps)
    (h : InSession c t s n) (hn : n + ps.length ≤ 65535) (hlo : 4 ≤ start.toNat)
    (hhi : start.toNat + ps.length ≤ pageCount) :
    Ends (writeRange start data) c
      (fun _ c' => InSession c' { t with memory := t.memory.setPages start ps } s (n + ps.length) ∧
        Kept c c')
      (fun _ c' => Blocked c t ∧
        ∃ k, Facing c' { t with memory := t.memory.setPages start (ps.take k) }) := by
  have hcount : pageCount = 40 := rfl
  unfold writeRange
  rw [ends_bind, pagesFrom_eq hsplit (by omega), ends_lift]
  exact ends_writePages ps h hn hlo hhi

/-- **A range with a commit mark** is written as a whole. If the command fails,
nothing was written; or the mark stands in front of whatever was written; or all
was written, and the last answer was forged or lost. -/
theorem ends_writeRangeCommitted {start : UInt8} {data : Bytes} (invalid : Page) {first : Page}
    {rest : List Page} (hsplit : splitPages data = first :: rest) (h : InSession c t s n)
    (hn : n + rest.length + 2 ≤ 65535) (hlo : 4 ≤ start.toNat)
    (hhi : start.toNat + (first :: rest).length ≤ pageCount) :
    Ends (writeRangeCommitted start data invalid) c
      (fun _ c' => InSession c' { t with memory := t.memory.setPages start (first :: rest) } s
        (n + rest.length + 2) ∧ Kept c c')
      (fun _ c' => Blocked c t ∧ (Facing c' t ∨
        (∃ k, Facing c' { t with memory :=
          (t.memory.setPage start invalid).setPages (start + 1) (rest.take k) }) ∨
        (Facing c' { t with memory := t.memory.setPages start (first :: rest) } ∧
          ((c.verify = true ∧ t.forges = true) ∨ TagLink.lost? c'.link =
            some ((s.after (n + rest.length + 1)).protect (Command.write start first)))))) := by
  have hcount : pageCount = 40 := rfl
  rw [List.length_cons] at hhi
  have hpage : Tag.Writable start := Tag.writable_iff.mpr ⟨hlo, by omega⟩
  have hnext : (start + 1).toNat = start.toNat + 1 := Memory.toNat_succ (by omega)
  -- the page that is written last might as well have been written first
  have hcommit : ((t.memory.setPage start invalid).setPages (start + 1) rest).setPage start first
      = t.memory.setPages start (first :: rest) := by
    rw [Memory.setPages_setPage_comm rest _ start (start + 1) first (by omega) (by omega),
      Memory.setPage_setPage, Memory.setPages_cons]
  unfold writeRangeCommitted
  rw [ends_bind, pagesFrom_eq hsplit (by rw [List.length_cons]; omega), ends_lift]
  dsimp only
  refine (ends_writePage invalid h (by omega) hpage).bind ?_ ?_
  · intro e c' hend
    rcases hend with ⟨hblocked, hsame | ⟨hmarked, -⟩⟩
    · exact ⟨hblocked, Or.inl hsame⟩
    · exact ⟨hblocked, Or.inr (Or.inl ⟨0, hmarked⟩)⟩
  intro _ c₁ hend
  obtain ⟨hsession₁, hkept₁⟩ := hend
  refine (ends_writePages rest hsession₁ (by omega) (by omega) (by omega)).bind ?_ ?_
  · intro e c' hend
    obtain ⟨hblocked, k, hfacing⟩ := hend
    exact ⟨Blocked.of_kept hblocked hkept₁, Or.inr (Or.inl ⟨k, hfacing⟩)⟩
  intro _ c₂ hend
  obtain ⟨hsession₂, hkept₂⟩ := hend
  have hkept := hkept₁.trans hkept₂
  refine (ends_writePage first hsession₂ (by omega) hpage).mono ?_ ?_
  · intro _ c' hend
    obtain ⟨hsession', hkept'⟩ := hend
    rw [hcommit, show n + 1 + rest.length + 1 = n + rest.length + 2 by omega] at hsession'
    exact ⟨hsession', hkept.trans hkept'⟩
  · intro e c' hend
    rcases hend with ⟨hblocked, hmarked | ⟨hwritten, hcause⟩⟩
    · exact ⟨Blocked.of_kept hblocked hkept, Or.inr (Or.inl ⟨rest.length, by rwa [List.take_length]⟩)⟩
    · rw [hcommit] at hwritten
      rw [hkept.verify_eq, show n + 1 + rest.length = n + rest.length + 1 by omega] at hcause
      exact ⟨Blocked.of_kept hblocked hkept, Or.inr (Or.inr ⟨hwritten, hcause⟩)⟩

end Channel
end Nearfield
