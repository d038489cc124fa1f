/-
# Reading a range of pages

A range is read in groups of four pages, and the last group may reach beyond the
range. The host refuses a range whose pages cannot be numbered, and the tag refuses a
group that begins behind its last page. A group that begins in the memory and ends
behind it is answered: the tag goes on with page 0. So a read returns the contents
from the first page on, counted as the tag counts them (`readRange_ok`), and it
returns them whenever the last group begins in the memory (`readRange_returns`).

Up to the last page these are the pages of the range. Behind it there is a margin of
up to three pages where the range is not refused and the first pages of the memory
are returned in their place.

Key definitions: `Channel.Matched`, `Channel.Serves`.
Key theorems: `Channel.ends_readGroups_matched`, `Channel.readRange_ok`,
`Channel.readRange_returns`, `Channel.readRange_outcome`.
-/
import Nearfield.Proofs.Channel.Commands

namespace Nearfield

/-! ### What a tag answers to a READ -/

namespace Tag
variable {t t' u : Tag} {slot : Option UInt8} {page : UInt8} {answer data : Bytes}

/-- A READ that is not refused begins in the memory. -/
theorem runCommand_read_ok (hrun : t.runCommand slot (Command.read page) = (data, u))
    (hnak : Answer.nak? data = none) : page ≤ lastPage ∧ data = t.readPages slot page ∧ u = t := by
  by_cases hpage : page ≤ lastPage
  · rw [runCommand_read t slot hpage, Prod.mk.injEq] at hrun
    exact ⟨hpage, hrun.1.symm, hrun.2.symm⟩
  · have hout : ¬ (Code.read = Code.read ∧ page ≤ lastPage) := fun h => hpage h.2
    unfold Command.read at hrun
    rw [runCommand, if_neg hout, Prod.mk.injEq] at hrun
    rw [← hrun.1] at hnak
    cases hnak

/-- Without a MAC, only an idle tag answers a READ. -/
theorem Answers.read_plain (h : t.Answers (Command.read page) answer t')
    (hnak : Answer.nak? answer = none) :
    page ≤ lastPage ∧ answer = t.taken.readPages none page ∧ t' = t.taken := by
  cases h with
  | refused code hcode =>
    rw [nak?_refused hcode] at hnak
    cases hnak
  | challenged slot rndB hstate hframe hmodel hslot => exact absurd (List.cons.inj hframe).1 (by decide)
  | opened slot rndB rndA hstate htoken => cases htoken
  | plain answer hstate hrun hnone => exact runCommand_read_ok hrun hnone
  | secured s next command data u hstate hhead hcheck hrun hnone hnext => cases hcheck
  | exhausted s command data u hstate hhead hcheck hrun hnone hnext => cases hcheck

end Tag

/-- A session that goes on has a next turn. -/
theorem Session.lt_of_advance? {s next : Session} (h : s.advance? = some next) :
    s.counter.toNat < 65535 ∧ next = s.after (s.counter.toNat + 1) := by
  obtain ⟨hne, -⟩ := advance?_eq_some h
  have hlt : s.counter.toNat < 65535 := by
    have hbound := s.counter.toNat_lt
    have hlast : s.counter.toNat ≠ 65535 := fun he => hne (UInt16.toNat_inj.mp he)
    omega
  have hnext := advance?_after s hlt
  rw [after_counter, h, Option.some.injEq] at hnext
  exact ⟨hlt, hnext⟩

namespace Channel

section
variable {σ : Type} [TagLink σ] {c : Channel σ} {t : Tag} {start pages : UInt8}

/-! ### What is returned -/

/-- The tag behind the link is `t` in all that lasts, and in the session of the host
if that has one. -/
def Matched (c : Channel σ) (t : Tag) : Prop :=
  ∃ u, TagLink.tag? c.link = some u ∧ u.settled = t.settled ∧
    ∀ s, c.session = some s → u.state = .authenticated s

/-- A group that is answered begins in the memory. -/
theorem ends_transceive_read {page : UInt8} (hshown : t.randomId = false) (h : Matched c t) :
    Ends (transceive (Command.read page)) c
      (fun data c' => page ≤ lastPage ∧ data = (t.memory.block page.toNat).toBytes ∧ Matched c' t)
      fun _ _ => True := by
  obtain ⟨u, htag, hsettled, hstate⟩ := h
  have htaken : u.taken.settled = t.settled := Tag.taken_of_settled hsettled
  have hread : ∀ slot, u.taken.readPages slot page = (t.memory.block page.toNat).toBytes := fun slot => by
    rw [Tag.readPages_congr htaken, Tag.readPages_shown (Or.inl hshown)]
  unfold transceive
  rw [ends_bind, ends_get, ends_bind]
  refine ends_exchange_of htag ?_ (fun _ _ _ _ => trivial) fun _ _ _ _ _ _ _ _ => trivial
  intro answer u' link' hs htag' _
  cases hnak : Answer.nak? answer with
  | some code => exact trivial
  | none =>
    cases hsession : c.session with
    | none =>
      rw [outgoing_resting hsession] at hs
      obtain ⟨hpage, rfl, rfl⟩ := hs.answers.read_plain hnak
      exact ⟨hpage, hread none, _, htag', htaken, fun _ hnone => nomatch hnone⟩
    | some s =>
      rw [outgoing_inSession hsession] at hs
      obtain ⟨next, data, v, hnext, hrun, hnone, rfl, rfl⟩ :=
        hs.answers.secured_cases (hstate s hsession) hnak
      obtain ⟨hpage, rfl, rfl⟩ := Tag.runCommand_read_ok hrun hnone
      obtain ⟨hlt, rfl⟩ := Session.lt_of_advance? hnext
      have hreceive := ends_receive (c := ⟨link', c.uid, some s, c.verify⟩) (s := s) u.taken
        (u.taken.readPages (some s.slot) page) hlt
      rw [s.after_counter] at hreceive
      refine hreceive.mono ?_ fun _ _ _ => trivial
      intro d c' hend
      obtain ⟨rfl, rfl, -⟩ := hend
      exact ⟨hpage, hread _, _, htag', htaken, fun s' hs' => congrArg _ (Option.some.inj hs')⟩

theorem ends_readPages_matched {page : UInt8} (hshown : t.randomId = false) (h : Matched c t) :
    Ends (readPages page) c
      (fun b c' => page ≤ lastPage ∧ b = t.memory.block page.toNat ∧ Matched c' t) fun _ _ => True := by
  unfold readPages
  refine (ends_transceive_read hshown h).bind (fun _ _ _ => trivial) ?_
  intro data c' hend
  obtain ⟨hpage, rfl, hmatched⟩ := hend
  exact ⟨hpage, rfl, hmatched⟩

theorem ends_readGroups_matched (hshown : t.randomId = false) :
    ∀ (k : Nat) {c : Channel σ} {page : UInt8}, Matched c t →
    Ends (readGroups page k) c
      (fun d c' => d = t.memory.contents page.toNat (4 * k) ∧
        (k = 0 ∨ page.toNat + 4 * (k - 1) < pageCount) ∧ Matched c' t) fun _ _ => True
  | 0, c, page, h => ⟨rfl, Or.inl rfl, h⟩
  | k + 1, c, page, h => by
    unfold readGroups
    refine (ends_readPages_matched hshown h).bind (fun _ _ _ => trivial) ?_
    intro b c' hend
    obtain ⟨hpage, rfl, hmatched⟩ := hend
    have hlt : page.toNat < pageCount := Nat.lt_succ_of_le (UInt8.le_iff_toNat_le.mp hpage)
    have hnext : (page + 4).toNat = page.toNat + 4 := toNat_nextGroup hlt
    refine (ends_readGroups_matched hshown k hmatched).bind (fun _ _ _ => trivial) ?_
    intro d c'' hend
    obtain ⟨rfl, hlast, hmatched'⟩ := hend
    refine ⟨?_, Or.inr ?_, hmatched'⟩
    · rw [Memory.contents_four_mul_succ, hnext]
    · omega

/-- The pages of the last group behind the range are cut off. -/
theorem take_contents_groups (m : Memory) (start pages : Nat) :
    (m.contents start (4 * ((pages + pagesPerRead - 1) / pagesPerRead))).take (pages * Page.size)
      = m.contents start pages := by
  have hgroup : pagesPerRead = 4 := rfl
  have hsize : Page.size = 4 := rfl
  have hsplit : 4 * ((pages + 4 - 1) / 4) = pages + (4 * ((pages + 4 - 1) / 4) - pages) := by omega
  rw [hgroup, hsize, hsplit, Memory.contents_add, List.take_left']
  rw [Memory.length_contents, Nat.mul_comm]

/-- **What is returned are the contents from the first page on**, and the last group
begins in the memory. -/
theorem readRange_ok (hshown : t.randomId = false) (h : Matched c t) {data : Bytes} {c' : Channel σ}
    (hrun : readRange start pages c = .ok data c') :
    (pages.toNat = 0 ∨ start.toNat + 4 * ((pages.toNat - 1) / 4) < pageCount) ∧
      data = t.memory.contents start.toNat pages.toNat := by
  have hends : Ends (readRange start pages) c
      (fun data _ => (pages.toNat = 0 ∨ start.toNat + 4 * ((pages.toNat - 1) / 4) < pageCount) ∧
        data = t.memory.contents start.toNat pages.toNat) fun _ _ => True := by
    unfold readRange
    split
    · exact trivial
    refine (ends_readGroups_matched hshown _ h).bind (fun _ _ _ => trivial) ?_
    intro d c' hend
    obtain ⟨rfl, hlast, -⟩ := hend
    have hgroup : pagesPerRead = 4 := rfl
    rw [hgroup] at hlast
    exact ⟨by omega, take_contents_groups _ _ _⟩
  exact hends.ok hrun

/-! ### When it is returned -/

/-- On a steady link, the tag takes at least `k` more commands from the host. -/
def Serves (c : Channel σ) (t : Tag) (k : Nat) : Prop :=
  TagLink.Steady c.link ∧ (Resting c t ∨ ∃ s n, InSession c t s n ∧ n + k ≤ 65535)

theorem Serves.matched {k : Nat} (h : Serves c t k) : Matched c t := by
  obtain ⟨-, ⟨hnone, u, htag, hsettled, -⟩ | ⟨s, n, ⟨hsome, u, htag, hsettled, hstate⟩, -⟩⟩ := h
  · refine ⟨u, htag, hsettled, fun s hs => ?_⟩
    rw [hnone] at hs
    cases hs
  · refine ⟨u, htag, hsettled, fun s' hs' => ?_⟩
    rw [hsome, Option.some.injEq] at hs'
    rw [← hs', hstate]

theorem ends_readPages_serves {page : UInt8} {k : Nat} (hshown : t.randomId = false)
    (hforges : t.forges = false) (hpage : page ≤ lastPage) (h : Serves c t (k + 1)) :
    Ends (readPages page) c (fun _ c' => Serves c' t k) fun _ _ => False := by
  obtain ⟨hsteady, hresting | ⟨s, n, hsession, hn⟩⟩ := h
  · refine (ends_readPages_resting hresting hpage (Tag.readPages_shown (Or.inl hshown) page)).mono ?_ ?_
    · intro b c' hend
      obtain ⟨-, hresting', hkept⟩ := hend
      exact ⟨hkept.steady hsteady, Or.inl hresting'⟩
    · intro e c' hend
      exact hend.2 hsteady
  · refine (ends_readPages hsession (by omega) (Or.inl hshown) hpage).mono ?_ ?_
    · intro b c' hend
      obtain ⟨-, hsession', hkept, -⟩ := hend
      exact ⟨hkept.steady hsteady, Or.inr ⟨s, n + 1, hsession', by omega⟩⟩
    · intro e c' hend
      exact hend.1.not_steady hforges hsteady

theorem ends_readGroups_serves (hshown : t.randomId = false) (hforges : t.forges = false) :
    ∀ (k : Nat) {c : Channel σ} {page : UInt8}, Serves c t k →
    k = 0 ∨ page.toNat + 4 * (k - 1) < pageCount →
    Ends (readGroups page k) c (fun _ _ => True) fun _ _ => False
  | 0, _, _, _, _ => trivial
  | k + 1, c, page, h, hlast => by
    have hlt : page.toNat < pageCount := by omega
    have hnext : (page + 4).toNat = page.toNat + 4 := toNat_nextGroup hlt
    unfold readGroups
    refine (ends_readPages_serves hshown hforges (le_lastPage hlt) h).bind (fun _ _ hend => hend) ?_
    intro b c' hserves
    refine (ends_readGroups_serves hshown hforges k hserves (by omega)).bind (fun _ _ hend => hend) ?_
    intro _ _ _
    trivial

/-- **The contents are returned** if the last group begins in the memory, whatever
lies behind it. -/
theorem readRange_returns (hshown : t.randomId = false) (hforges : t.forges = false)
    (h : Serves c t ((pages.toNat + 3) / 4))
    (hlast : pages.toNat = 0 ∨ start.toNat + 4 * ((pages.toNat - 1) / 4) < pageCount) :
    ∃ c', readRange start pages c = .ok (t.memory.contents start.toNat pages.toNat) c' := by
  have hcount : pageCount = 40 := rfl
  have hgroup : pagesPerRead = 4 := rfl
  have hstart := start.toNat_lt
  have hends : Ends (readRange start pages) c (fun _ _ => True) fun _ _ => False := by
    unfold readRange
    rw [if_neg (by omega), hgroup]
    refine (ends_readGroups_serves hshown hforges _ h (by omega)).bind (fun _ _ hend => hend) ?_
    intro _ _ _
    trivial
  obtain ⟨data, c', hrun, -⟩ := hends.returns
  obtain ⟨-, rfl⟩ := readRange_ok hshown h.matched hrun
  exact ⟨c', hrun⟩

end

/-! ### How a range ends -/

variable {ρ : Type} [RandomSource ρ] {c : Channel (Contact ρ)} {t : Tag}

/-- **How a read of a range ends**, for a tag that shows its identifier, stays and does
not forge, and a host that has no session or the session of the tag.

A range whose pages cannot be numbered is refused, and nothing is sent. A read that
returns has read every page of a range within the memory, in order. Of a range that
ends behind the last page it has read the pages up to that one and then, in place of
the others, the first pages of the memory; that happens only if the last group of
four begins in the memory, and if it does the read returns, as long as the tag is
listening and the session has turns left. -/
theorem readRange_outcome (htag : c.link.field.tag = some t)
    (hlink : c.link.field.generation = c.link.generation) (hstays : t.allowance = none)
    (hforges : t.forges = false) (hshown : t.randomId = false)
    (hsession : ∀ s, c.session = some s → t.state = .authenticated s) (start pages : UInt8) :
    let last := start.toNat + 4 * ((pages.toNat - 1) / 4)
    (256 < start.toNat + pages.toNat → readRange start pages c = .error (.pageRange start pages) c) ∧
    (∀ data c', readRange start pages c = .ok data c' → data.length = 4 * pages.toNat ∧
      (start.toNat + pages.toNat ≤ 40 → data = (t.memory.pages start pages).flatMap Word.toBytes) ∧
      (0 < pages.toNat → 40 < start.toNat + pages.toNat → last < 40 ∧
        data = t.memory.contents start.toNat (40 - start.toNat)
          ++ t.memory.contents 0 (start.toNat + pages.toNat - 40))) ∧
    (pages.toNat = 0 ∨ last < 40 → (c.session = none → t.state = .idle) →
      (∀ s, c.session = some s → s.counter.toNat + (pages.toNat + 3) / 4 ≤ 65535) →
      ∃ data c', readRange start pages c = .ok data c') := by
  intro last
  have hcount : pageCount = 40 := rfl
  have hsteady : TagLink.Steady c.link := ⟨hlink, t, htag, hstays⟩
  refine ⟨fun hfar => ?_, fun data c' hrun => ?_, fun hlast hidle hturns => ?_⟩
  · unfold readRange
    rw [if_pos hfar]
    rfl
  · obtain ⟨hlast, rfl⟩ := readRange_ok hshown ⟨t, htag, rfl, hsession⟩ hrun
    refine ⟨Memory.length_contents _ _ _, fun hin => t.memory.contents_eq_pages hin, fun hpos hover => ?_⟩
    have hbegins : last < 40 := by omega
    have hsplit : pages.toNat = (40 - start.toNat) + (start.toNat + pages.toNat - 40) := by omega
    have hwraps := t.memory.contents_pageCount (start.toNat + pages.toNat - 40)
    refine ⟨hbegins, ?_⟩
    conv => lhs; rw [hsplit]
    rw [Memory.contents_add, show start.toNat + (40 - start.toNat) = pageCount by omega, hwraps]
  · have hserves : Serves c t ((pages.toNat + 3) / 4) := by
      refine ⟨hsteady, ?_⟩
      cases hs : c.session with
      | none => exact Or.inl ⟨hs, t, htag, rfl, hidle hs⟩
      | some s => exact Or.inr ⟨s, _, .of_held hs htag (hsession s hs), hturns s hs⟩
    obtain ⟨c', hrun⟩ := readRange_returns hshown hforges hserves hlast
    exact ⟨_, c', hrun⟩

/-- The last two pages, and two pages more. -/
theorem readRange_outcome_last_pages :
    let t := Tag.new Uid.default
    let c : Channel (Contact ByteStream) := Channel.new t.uid.toBytes ⟨⟨some t, 1, 0⟩, 1, ⟨[], 0⟩⟩
    (c.link.field.tag = some t ∧ c.link.field.generation = c.link.generation ∧ t.allowance = none ∧
      t.forges = false ∧ t.randomId = false ∧ ∀ s, c.session = some s → t.state = .authenticated s) ∧
    (∃ c', readRange 0x26 2 c = .ok ((t.memory.pages 0x26 2).flatMap Word.toBytes) c') ∧
    ∃ c', readRange 0x26 4 c = .ok (t.memory.contents 0x26 2 ++ t.memory.contents 0 2) c' := by
  intro t c
  have hnone : ∀ s, c.session = some s → t.state = .authenticated s := fun _ hs => nomatch hs
  obtain ⟨-, hok, hreturns⟩ := readRange_outcome (c := c) (t := t) rfl rfl rfl rfl rfl hnone 0x26 2
  obtain ⟨-, hok', hreturns'⟩ := readRange_outcome (c := c) (t := t) rfl rfl rfl rfl rfl hnone 0x26 4
  obtain ⟨data, c', hrun⟩ := hreturns (Or.inr (by decide)) (fun _ => rfl) fun _ hs => nomatch hs
  obtain ⟨data', c'', hrun'⟩ := hreturns' (Or.inr (by decide)) (fun _ => rfl) fun _ hs => nomatch hs
  obtain ⟨-, hin, -⟩ := hok data c' hrun
  obtain ⟨-, -, hover⟩ := hok' data' c'' hrun'
  have hdata := hin (by decide)
  obtain ⟨-, hdata'⟩ := hover (by decide) (by decide)
  exact ⟨⟨rfl, rfl, rfl, rfl, rfl, hnone⟩, ⟨c', hdata ▸ hrun⟩, c'', hdata' ▸ hrun'⟩

/-- Two pages behind the last one are not refused: the first two pages are returned,
which hold the identifier. -/
theorem overhang_returned :
    let t := Tag.new Uid.default
    let c : Channel (Contact ByteStream) := Channel.new t.uid.toBytes ⟨⟨some t, 1, 0⟩, 1, ⟨[], 0⟩⟩
    t.memory.page? 0x28 = none ∧ t.memory.page? 0x29 = none ∧ ∃ c', readRange 0x26 4 c = .ok
      [0, 0, 0, 0, 0, 0, 0, 0, 0x04, 0xA2, 0x3B, 0x15, 0x1C, 0x5D, 0x6E, 0x80] c' := by
  intro t c
  exact ⟨by decide, by decide, _, rfl⟩

end Channel
end Nearfield
