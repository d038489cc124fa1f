/-
# Pages written and read back

All reading is said through `wrapped`, the page at a number, which is what a
tag answers with: one write changes that page and no other
(`wrapped_setPage`), a run of writes puts its pages where they belong and
leaves the rest (`wrapped_setPages_of_lt`, `map_wrapped_setPages`). The bytes of
a run of pages are its `contents`, and one run behind another has its contents
behind the other's (`contents_add`), whether they are read four pages at a time
or written one by one. The payload area is such a run; whatever is written from
its first page on stands at its front, followed by what was there before
(`area_setPages`).

Key definitions: `Memory.contents`, `Memory.block`, `Memory.area`, `Memory.uid`,
`Memory.Checked`, `Memory.SameOutside`.
Key theorems: `Memory.contents_setPages`, `Memory.area_setPages`,
`Memory.sameOutside_setPages`, `flatMap_splitPages_eq`.
-/
import Mathlib.Data.List.Basic
import Nearfield.PayloadArea

namespace Nearfield

/-! ### Byte strings in pages -/

/-- Pages hold the byte string and zeros behind it. -/
theorem flatMap_splitPages (d : Bytes) :
    ∃ n, (splitPages d).flatMap Word.toBytes = d ++ List.replicate n 0 := by
  fun_induction splitPages d with
  | case1 => exact ⟨0, rfl⟩
  | case2 => exact ⟨3, rfl⟩
  | case3 => exact ⟨2, rfl⟩
  | case4 => exact ⟨1, rfl⟩
  | case5 b0 b1 b2 b3 rest ih =>
    obtain ⟨n, h⟩ := ih
    exact ⟨n, by rw [List.flatMap_cons, h]; rfl⟩

theorem length_splitPages (d : Bytes) : (splitPages d).length = (d.length + 3) / 4 := by
  fun_induction splitPages d with
  | case1 => rfl
  | case2 => simp only [List.length_cons, List.length_nil]
  | case3 => simp only [List.length_cons, List.length_nil]
  | case4 => simp only [List.length_cons, List.length_nil]
  | case5 b0 b1 b2 b3 rest ih =>
    rw [List.length_cons, ih]
    simp only [List.length_cons]
    omega

theorem length_flatMap_toBytes (ps : List Page) : (ps.flatMap Word.toBytes).length = 4 * ps.length := by
  induction ps with
  | nil => rfl
  | cons p ps ih =>
    have hpage : p.toBytes.length = 4 := rfl
    rw [List.flatMap_cons, List.length_append, ih, hpage, List.length_cons]
    omega

/-- The zeros fill the last page. -/
theorem flatMap_splitPages_eq (d : Bytes) : (splitPages d).flatMap Word.toBytes
    = d ++ List.replicate (4 * ((d.length + 3) / 4) - d.length) 0 := by
  obtain ⟨n, h⟩ := flatMap_splitPages d
  have hlen := congrArg List.length h
  rw [length_flatMap_toBytes, length_splitPages, List.length_append, List.length_replicate] at hlen
  rw [h, hlen, Nat.add_sub_cancel_left]

/-- Whole pages leave no room for zeros. -/
theorem flatMap_splitPages_of_mod {d : Bytes} (h : d.length % 4 = 0) :
    (splitPages d).flatMap Word.toBytes = d := by
  have hfull : 4 * ((d.length + 3) / 4) - d.length = 0 := by omega
  rw [flatMap_splitPages_eq, hfull, List.replicate_zero, List.append_nil]

/-- The first pages hold the first bytes. -/
theorem take_splitPages (d : Bytes) (k : Nat) : (splitPages d).take k = splitPages (d.take (4 * k)) := by
  cases k with
  | zero => rfl
  | succ k =>
    fun_induction splitPages d generalizing k with
    | case1 => rfl
    | case2 => simp [Nat.mul_succ, splitPages]
    | case3 => simp [Nat.mul_succ, splitPages]
    | case4 => simp [Nat.mul_succ, splitPages]
    | case5 b0 b1 b2 b3 rest ih =>
      cases k with
      | zero => rfl
      | succ k => exact congrArg (⟨b0, b1, b2, b3⟩ :: ·) (ih k)

/-- The other pages hold the other bytes. -/
theorem tail_splitPages (d : Bytes) : (splitPages d).tail = splitPages (d.drop 4) := by
  fun_cases splitPages d <;> rfl

theorem flatMap_take_splitPages {d : Bytes} {k : Nat} (h : 4 * k ≤ d.length) :
    ((splitPages d).take k).flatMap Word.toBytes = d.take (4 * k) := by
  rw [take_splitPages, flatMap_splitPages_of_mod]
  rw [List.length_take, Nat.min_eq_left h]
  omega

namespace Memory

/-! ### One page -/

theorem wrapped_of_lt (m : Memory) {n : Nat} (h : n < pageCount) : m.wrapped n = m[n] := by
  unfold wrapped
  simp only [Nat.mod_eq_of_lt h]
  rfl

theorem wrapped_setPage (m : Memory) (page : UInt8) (data : Page) (n : Nat) :
    (m.setPage page data).wrapped n = if page.toNat = n % pageCount then data else m.wrapped n := by
  unfold wrapped setPage
  exact Vector.getElem_setIfInBounds _

/-- Two memories with the same pages are the same. -/
theorem ext_wrapped {m m' : Memory} (h : ∀ n < pageCount, m.wrapped n = m'.wrapped n) : m = m' := by
  apply Vector.ext
  intro n hn
  have := h n hn
  rwa [wrapped_of_lt m hn, wrapped_of_lt m' hn] at this

/-- The last of two writes to a page counts. -/
theorem setPage_setPage (m : Memory) (page : UInt8) (p q : Page) :
    (m.setPage page p).setPage page q = m.setPage page q := by
  apply ext_wrapped
  intro n _
  simp only [wrapped_setPage]
  split <;> rfl

/-- Writes to different pages may change places. -/
theorem setPage_comm (m : Memory) {page page' : UInt8} (h : page ≠ page') (p q : Page) :
    (m.setPage page p).setPage page' q = (m.setPage page' q).setPage page p := by
  have hne : page.toNat ≠ page'.toNat := fun he => h (UInt8.toNat_inj.mp he)
  apply ext_wrapped
  intro n _
  simp only [wrapped_setPage]
  split <;> split <;> first | rfl | omega

/-! ### Runs of pages -/

theorem toNat_succ {page : UInt8} (h : page.toNat < 255) : (page + 1).toNat = page.toNat + 1 := by
  rw [UInt8.toNat_add]
  exact Nat.mod_eq_of_lt (by show page.toNat + 1 < 256; omega)

theorem setPages_cons (m : Memory) (start : UInt8) (p : Page) (ps : List Page) :
    m.setPages start (p :: ps) = (m.setPage start p).setPages (start + 1) ps := rfl

/-- Pages in front of a run and behind it stay. -/
theorem wrapped_setPages_of_lt : ∀ (ps : List Page) (m : Memory) (start : UInt8) (n : Nat),
    start.toNat + ps.length ≤ pageCount → n < pageCount →
    n < start.toNat ∨ start.toNat + ps.length ≤ n → (m.setPages start ps).wrapped n = m.wrapped n
  | [], _, _, _, _, _, _ => rfl
  | p :: ps, m, start, n, hlen, hn, hout => by
    rw [List.length_cons] at hlen hout
    have hnext : (start + 1).toNat = start.toNat + 1 :=
      toNat_succ (by simp only [pageCount] at hlen; omega)
    rw [setPages_cons, wrapped_setPages_of_lt ps _ (start + 1) n (by omega) hn (by omega),
      wrapped_setPage, if_neg (by rw [Nat.mod_eq_of_lt hn]; omega)]

/-- A run is found where it was written. -/
theorem map_wrapped_setPages : ∀ (ps : List Page) (m : Memory) (start : UInt8),
    start.toNat + ps.length ≤ pageCount →
    (List.range' start.toNat ps.length).map (m.setPages start ps).wrapped = ps
  | [], _, _, _ => rfl
  | p :: ps, m, start, hlen => by
    rw [List.length_cons] at hlen
    have hnext : (start + 1).toNat = start.toNat + 1 :=
      toNat_succ (by simp only [pageCount] at hlen; omega)
    have hfirst : ((m.setPage start p).setPages (start + 1) ps).wrapped start.toNat = p := by
      rw [wrapped_setPages_of_lt ps _ (start + 1) start.toNat (by omega) (by omega) (by omega),
        wrapped_setPage, if_pos (Nat.mod_eq_of_lt (by omega)).symm]
    rw [List.length_cons, List.range'_succ, List.map_cons, setPages_cons, hfirst, ← hnext,
      map_wrapped_setPages ps _ (start + 1) (by omega)]

/-- A page in front of a run can be written before it or after it. -/
theorem setPages_setPage_comm : ∀ (ps : List Page) (m : Memory) (page start : UInt8) (q : Page),
    page.toNat < start.toNat → start.toNat + ps.length ≤ 256 →
    (m.setPages start ps).setPage page q = (m.setPage page q).setPages start ps
  | [], _, _, _, _, _, _ => rfl
  | p :: ps, m, page, start, q, hlt, hlen => by
    rw [List.length_cons] at hlen
    have hne : start ≠ page := fun h => by rw [h] at hlt; omega
    rcases ps with _ | ⟨p', ps⟩
    · exact setPage_comm m hne p q
    · rw [List.length_cons] at hlen
      have hnext : (start + 1).toNat = start.toNat + 1 := toNat_succ (by omega)
      rw [setPages_cons, setPages_setPage_comm (p' :: ps) _ page (start + 1) q (by omega)
        (by rw [List.length_cons]; omega), setPage_comm m hne, setPages_cons _ start]

/-! ### Contents -/

/-- The contents of `count` pages from page `start`, as a tag counts them: from
the last page on to the first. -/
def contents (m : Memory) (start count : Nat) : Bytes :=
  ((List.range' start count).map m.wrapped).flatMap Word.toBytes

theorem length_contents (m : Memory) (start count : Nat) : (m.contents start count).length = 4 * count := by
  rw [contents, length_flatMap_toBytes, List.length_map, List.length_range']

theorem contents_add (m : Memory) (start n k : Nat) :
    m.contents start (n + k) = m.contents start n ++ m.contents (start + n) k := by
  unfold contents
  rw [← List.range'_append_1, List.map_append, List.flatMap_append]

/-- The first page follows the last one. -/
theorem contents_pageCount (m : Memory) (count : Nat) : m.contents pageCount count = m.contents 0 count := by
  have hwrapped : ∀ n, m.wrapped (pageCount + n) = m.wrapped (0 + n) := fun n => by
    unfold wrapped
    simp only [Nat.add_mod_left, Nat.zero_add]
  unfold contents
  rw [List.range'_eq_map_range, List.range'_eq_map_range, List.map_map, List.map_map]
  simp only [Function.comp_def, hwrapped]

/-- A run of pages is found where it was written. -/
theorem contents_setPages (m : Memory) (start : UInt8) (ps : List Page)
    (h : start.toNat + ps.length ≤ pageCount) :
    (m.setPages start ps).contents start.toNat ps.length = ps.flatMap Word.toBytes := by
  rw [contents, map_wrapped_setPages ps m start h]

theorem pages_eq_map (m : Memory) {start count : UInt8} (h : start.toNat + count.toNat ≤ pageCount) :
    m.pages start count = (List.range' start.toNat count.toNat).map m.wrapped := by
  unfold pages
  rw [← List.filterMap_eq_map]
  apply List.filterMap_congr
  intro n hn
  have hlt : n < pageCount := by rw [List.mem_range'_1] at hn; omega
  rw [Function.comp_apply, wrapped_of_lt m hlt]
  exact Vector.getElem?_eq_getElem hlt

/-- Within the memory the contents are its pages. -/
theorem contents_eq_pages (m : Memory) {start count : UInt8} (h : start.toNat + count.toNat ≤ pageCount) :
    m.contents start.toNat count.toNat = (m.pages start count).flatMap Word.toBytes := by
  rw [pages_eq_map m h]
  rfl

/-! ### Blocks of four pages -/

/-- Four pages as they are read. -/
def block (m : Memory) (n : Nat) : Block :=
  ⟨m.wrapped n, m.wrapped (n + 1), m.wrapped (n + 2), m.wrapped (n + 3)⟩

theorem toBytes_block (m : Memory) (n : Nat) : (m.block n).toBytes = m.contents n 4 := rfl

/-- Pages read four at a time. -/
theorem contents_four_mul_succ (m : Memory) (n k : Nat) :
    m.contents n (4 * (k + 1)) = (m.block n).toBytes ++ m.contents (n + 4) (4 * k) := by
  rw [Nat.mul_succ, Nat.add_comm (4 * k) 4, contents_add, toBytes_block]

/-! ### The payload area -/

/-- The pages of the payload area as bytes. -/
def area (m : Memory) : Bytes := (m.pages payloadStart payloadPages).flatMap Word.toBytes

theorem area_eq (m : Memory) : m.area = m.contents 4 32 := (m.contents_eq_pages (by decide)).symm

/-- What is written from the first page of the area on stands at its front. -/
theorem area_setPages (m : Memory) {ps : List Page} (h : ps.length ≤ 32) :
    ∃ stale, (m.setPages payloadStart ps).area = ps.flatMap Word.toBytes ++ stale := by
  have hsplit : 32 = ps.length + (32 - ps.length) := by omega
  have hfront := m.contents_setPages payloadStart ps (by simp only [pageCount]; show 4 + _ ≤ _; omega)
  rw [area_eq, hsplit, contents_add]
  exact ⟨_, congrArg (· ++ _) hfront⟩

/-! ### The identifier -/

/-- The identifier that the first two pages hold. -/
def uid (m : Memory) : Uid :=
  let p := m.block 0
  ⟨p.w0.b0, p.w0.b1, p.w0.b2, p.w1.b0, p.w1.b1, p.w1.b2, p.w1.b3⟩

/-- Both check bytes fit the identifier. -/
def Checked (m : Memory) : Prop :=
  (m.block 0).w0.b3 = m.uid.check0 ∧ (m.block 0).w2.b0 = m.uid.check1

/-! ### Writes within bounds -/

/-- The memories differ in these pages at most. -/
def SameOutside (start count : Nat) (m m' : Memory) : Prop :=
  ∀ n : Fin pageCount, n.val < start ∨ start + count ≤ n.val → getElem m' n n.isLt = getElem m n n.isLt

theorem SameOutside.refl (start count : Nat) (m : Memory) : SameOutside start count m m :=
  fun _ _ => rfl

theorem SameOutside.trans {start count : Nat} {m m' m'' : Memory} (h : SameOutside start count m m')
    (h' : SameOutside start count m' m'') : SameOutside start count m m'' :=
  fun n hn => (h' n hn).trans (h n hn)

theorem SameOutside.mono {start count start' count' : Nat} {m m' : Memory}
    (h : SameOutside start count m m') (hstart : start' ≤ start)
    (hend : start + count ≤ start' + count') : SameOutside start' count' m m' :=
  fun n hn => h n (by omega)

theorem SameOutside.wrapped_eq {start count : Nat} {m m' : Memory} (h : SameOutside start count m m')
    {n : Nat} (hn : n < pageCount) (hout : n < start ∨ start + count ≤ n) :
    m'.wrapped n = m.wrapped n := by
  rw [wrapped_of_lt m' hn, wrapped_of_lt m hn]
  exact h ⟨n, hn⟩ hout

theorem sameOutside_setPages {start count : Nat} (m : Memory) {page : UInt8} {ps : List Page}
    (hstart : start ≤ page.toNat) (hend : page.toNat + ps.length ≤ start + count)
    (hcount : start + count ≤ pageCount) : SameOutside start count m (m.setPages page ps) := by
  intro n hout
  have := wrapped_setPages_of_lt ps m page n (by omega) n.isLt (by omega)
  rwa [wrapped_of_lt _ n.isLt, wrapped_of_lt _ n.isLt] at this

theorem sameOutside_setPage {start count : Nat} (m : Memory) {page : UInt8} (p : Page)
    (hstart : start ≤ page.toNat) (hend : page.toNat < start + count)
    (hcount : start + count ≤ pageCount) : SameOutside start count m (m.setPage page p) :=
  (sameOutside_setPages m hstart hend hcount : SameOutside start count m (m.setPages page [p]))

/-- The identifier pages lie in front of all that can be written. -/
theorem SameOutside.block_zero {start count : Nat} {m m' : Memory} (h : SameOutside start count m m')
    (hstart : 4 ≤ start) : m'.block 0 = m.block 0 := by
  have hw : ∀ n < 4, m'.wrapped n = m.wrapped n := fun n hn =>
    h.wrapped_eq (by simp only [pageCount]; omega) (Or.inl (by omega))
  unfold block
  rw [hw 0 (by decide), hw (0 + 1) (by decide), hw (0 + 2) (by decide), hw (0 + 3) (by decide)]

/-- Writes behind the payload area leave it. -/
theorem SameOutside.area_eq {start count : Nat} {m m' : Memory} (h : SameOutside start count m m')
    (hstart : 36 ≤ start) : m'.area = m.area := by
  rw [Memory.area_eq, Memory.area_eq, contents, contents]
  congr 1
  apply List.map_congr_left
  intro n hn
  rw [List.mem_range'_1] at hn
  exact h.wrapped_eq (by simp only [pageCount]; omega) (Or.inl (by omega))

end Memory
end Nearfield
