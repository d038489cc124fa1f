/-
# What is read from a text

Trimming leaves the part of a text between the blanks at its ends
(`Text.trim_eq_iff`). Decoding reads the digits of a text in pairs, high half first, and
accepts a text exactly if its characters spell the bytes, each digit in either case
(`Hex.decode_eq_ok_iff`). Otherwise, if the number of bytes is even, it names the first
byte that is no digit and its place (`Hex.decode_of_bad`).

Digits are ASCII characters, and a text whose bytes are ASCII has one byte for each
character (`Text.utf8_eq_map`); so nothing else can pass for a digit.

Key definitions: `Text.Trimmed`, `Hex.IsDigit`, `Hex.DigitOf`, `Hex.Spells`.
Key theorems: `Text.trim_eq_iff`, `Text.utf8_eq_map`, `Hex.decode_eq_ok_iff`,
`Hex.decode_of_bad`, `Hex.exists_decode`, `Hex.exists_spells_iff`.
-/
import Mathlib.Data.List.Forall2
import Mathlib.Data.List.TakeWhile
import Nearfield.Text.Blank
import Nearfield.Text.Hex

namespace Nearfield

/-! ### ASCII -/

namespace Text

/-- The byte of an ASCII character. -/
def ascii (c : Char) : UInt8 := UInt8.ofNat c.toNat

theorem utf8_ofList (cs : List Char) : utf8 (String.ofList cs) = cs.flatMap String.utf8EncodeChar := by
  simp [utf8, List.utf8Encode]

theorem utf8_eq (text : String) : utf8 text = text.toList.flatMap String.utf8EncodeChar := by
  rw [← utf8_ofList, String.ofList_toList]

theorem utf8EncodeChar_of_ascii {c : Char} (h : c.toNat < 128) : String.utf8EncodeChar c = [ascii c] := by
  unfold String.utf8EncodeChar
  exact if_pos (Nat.le_of_lt_succ h)

/-- Every other character has bytes that are not ASCII only. -/
theorem le_of_mem_utf8EncodeChar {c : Char} (h : 128 ≤ c.toNat) {b : UInt8}
    (hb : b ∈ String.utf8EncodeChar c) : 128 ≤ b.toNat := by
  have hv : ¬ c.val.toNat ≤ 127 := Nat.not_le.mpr h
  unfold String.utf8EncodeChar at hb
  rw [if_neg hv] at hb
  split at hb
  · simp only [List.mem_cons, List.not_mem_nil, or_false] at hb
    rcases hb with rfl | rfl <;> rw [UInt8.toNat_ofNat'] <;> omega
  · split at hb
    · simp only [List.mem_cons, List.not_mem_nil, or_false] at hb
      rcases hb with rfl | rfl | rfl <;> rw [UInt8.toNat_ofNat'] <;> omega
    · simp only [List.mem_cons, List.not_mem_nil, or_false] at hb
      rcases hb with rfl | rfl | rfl | rfl <;> rw [UInt8.toNat_ofNat'] <;> omega

/-- A text of ASCII characters has one byte for each. -/
theorem utf8_eq_map {text : String} (h : ∀ c ∈ text.toList, c.toNat < 128) :
    utf8 text = text.toList.map ascii := by
  rw [utf8_eq, List.map_eq_flatMap]
  exact List.flatMap_congr fun c hc => utf8EncodeChar_of_ascii (h c hc)

/-- ASCII bytes are those of ASCII characters. -/
theorem ascii_of_utf8 {text : String} (h : ∀ b ∈ utf8 text, b.toNat < 128) :
    ∀ c ∈ text.toList, c.toNat < 128 := by
  intro c hc
  by_contra hlarge
  obtain ⟨b, hb⟩ : ∃ b, b ∈ String.utf8EncodeChar c := by
    refine List.exists_mem_of_ne_nil _ ?_
    unfold String.utf8EncodeChar
    dsimp only
    split_ifs <;> exact List.cons_ne_nil _ _
  have hlt := h b (by rw [utf8_eq]; exact List.mem_flatMap.mpr ⟨c, hc, hb⟩)
  have hle := le_of_mem_utf8EncodeChar (Nat.le_of_not_lt hlarge) hb
  omega

/-! ### Blanks -/

/-- The text is this one between blanks, and this one has none at either end. -/
structure Trimmed (text core : String) : Prop where
  between : ∃ front back, text.toList = front ++ core.toList ++ back ∧
    (∀ c ∈ front, isBlank c) ∧ (∀ c ∈ back, isBlank c)
  head : ∀ c ∈ core.toList.head?, ¬ isBlank c
  last : ∀ c ∈ core.toList.getLast?, ¬ isBlank c

theorem dropWhile_isBlank {cs : List Char} (h : ∀ c ∈ cs.head?, ¬ isBlank c) :
    cs.dropWhile isBlank = cs := by
  cases cs with
  | nil => rfl
  | cons c cs => exact List.dropWhile_cons_of_neg (h c rfl)

theorem trimChars_of_between {front core back : List Char} (hfront : ∀ c ∈ front, isBlank c)
    (hback : ∀ c ∈ back, isBlank c) (hhead : ∀ c ∈ core.head?, ¬ isBlank c)
    (hlast : ∀ c ∈ core.getLast?, ¬ isBlank c) : trimChars (front ++ core ++ back) = core := by
  have hreverse : ∀ c ∈ back.reverse, isBlank c := fun c hc => hback c (List.mem_reverse.mp hc)
  rw [trimChars, List.append_assoc, List.dropWhile_append_of_pos hfront]
  cases core with
  | nil =>
    have hdrop : back.dropWhile isBlank = [] := List.dropWhile_eq_nil_iff.mpr hback
    rw [List.nil_append, hdrop]
    rfl
  | cons c core =>
    have hdrop : (c :: core ++ back).dropWhile isBlank = c :: core ++ back :=
      dropWhile_isBlank (by simpa using hhead)
    rw [hdrop, List.reverse_append, List.dropWhile_append_of_pos hreverse,
      dropWhile_isBlank (by rw [List.head?_reverse]; exact hlast), List.reverse_reverse]

theorem not_isBlank_head?_dropWhile (cs : List Char) : ∀ c ∈ (cs.dropWhile isBlank).head?, ¬ isBlank c := by
  intro c hc
  have := List.head?_dropWhile_not isBlank cs
  rw [Option.mem_def.mp hc] at this
  simpa using this

theorem trim_eq_iff {text core : String} : trim text = core ↔ Trimmed text core := by
  constructor
  · rintro rfl
    have hfront := List.takeWhile_append_dropWhile (p := isBlank) (l := text.toList)
    set mid := text.toList.dropWhile isBlank with hmid
    have hback : trimChars text.toList ++ (mid.reverse.takeWhile isBlank).reverse = mid := by
      rw [trimChars, ← hmid, ← List.reverse_append, List.takeWhile_append_dropWhile, List.reverse_reverse]
    refine ⟨⟨text.toList.takeWhile isBlank, (mid.reverse.takeWhile isBlank).reverse, ?_, ?_, ?_⟩, ?_, ?_⟩
    · rw [trim, String.toList_ofList, List.append_assoc, hback, hfront]
    · exact fun c hc => List.mem_takeWhile_imp hc
    · exact fun c hc => List.mem_takeWhile_imp (List.mem_reverse.mp hc)
    · intro c hc
      rw [trim, String.toList_ofList] at hc
      refine not_isBlank_head?_dropWhile text.toList c ?_
      rw [← hmid, ← hback, List.head?_append, Option.mem_def.mp hc]
      rfl
    · intro c hc
      rw [trim, String.toList_ofList, trimChars, List.getLast?_reverse] at hc
      exact not_isBlank_head?_dropWhile _ c hc
  · rintro ⟨⟨front, back, htext, hfront, hback⟩, hhead, hlast⟩
    rw [trim, htext, trimChars_of_between hfront hback hhead hlast, String.ofList_toList]

end Text

namespace Hex

/-! ### Digits -/

/-- The byte is a digit in ASCII: `0` to `9`, `A` to `F` or `a` to `f`. -/
def IsDigit (b : UInt8) : Prop := 48 ≤ b ∧ b ≤ 57 ∨ 65 ≤ b ∧ b ≤ 70 ∨ 97 ≤ b ∧ b ≤ 102

instance (b : UInt8) : Decidable (IsDigit b) := inferInstanceAs (Decidable (_ ∨ _))

/-- The character is the digit of this value, in one case or the other. -/
def DigitOf (c : Char) (n : Nat) : Prop := n < 16 ∧ (c = Nat.digitChar n ∨ c = upperDigitChar n)

instance (c : Char) (n : Nat) : Decidable (DigitOf c n) := inferInstanceAs (Decidable (_ ∧ _))

/-- The byte is read as a digit of this value. -/
def ReadAs (b : UInt8) (n : Nat) : Prop := (digitValue? b).map UInt8.toNat = some n

theorem digitValue?_eq_none_iff {b : UInt8} : digitValue? b = none ↔ ¬ IsDigit b := by
  unfold digitValue? IsDigit
  split_ifs <;> simp_all

theorem isDigit_iff {b : UInt8} : IsDigit b ↔ ∃ n, ReadAs b n := by
  rw [← not_iff_not, ← digitValue?_eq_none_iff]
  cases h : digitValue? b <;> simp [ReadAs, h]

theorem toNat_lt_of_isDigit {b : UInt8} (h : IsDigit b) : b.toNat < 103 := by
  simp only [IsDigit, UInt8.le_iff_toNat_le, UInt8.reduceToNat] at h
  omega

theorem ReadAs.lt {b : UInt8} {n : Nat} (h : ReadAs b n) : n < 16 := by
  obtain ⟨v, hv, rfl⟩ := Option.map_eq_some_iff.mp h
  unfold digitValue? at hv
  simp only [UInt8.le_iff_toNat_le] at hv
  split_ifs at hv <;> obtain rfl := Option.some.inj hv
  all_goals
    rename_i hrange
    obtain ⟨hle, hge⟩ := hrange
    rw [UInt8.toNat_sub_of_le _ _ (UInt8.le_iff_toNat_le.mpr (by simp at hle ⊢; omega))]
    simp at hle hge ⊢
    omega

/-- Among the ASCII characters, the digits of a value are those read as it. -/
theorem readAs_ascii_iff {c : Char} (hc : c.toNat < 128) {n : Nat} :
    ReadAs (Text.ascii c) n ↔ DigitOf c n := by
  have table : ∀ m : Fin 128, ∀ n : Fin 16,
      (digitValue? (UInt8.ofNat m)).map UInt8.toNat = some n.val ↔ DigitOf (Char.ofNat m) n := by
    decide +kernel
  by_cases hn : n < 16
  · have := table ⟨c.toNat, hc⟩ ⟨n, hn⟩
    rwa [Char.ofNat_toNat] at this
  · exact iff_of_false (fun h => hn h.lt) fun h => hn h.1

theorem DigitOf.ascii {c : Char} {n : Nat} (h : DigitOf c n) : c.toNat < 128 := by
  have table : ∀ n : Fin 16, (Nat.digitChar n).toNat < 128 ∧ (upperDigitChar n).toNat < 128 := by
    decide
  obtain ⟨hn, rfl | rfl⟩ := h
  · exact (table ⟨n, hn⟩).1
  · exact (table ⟨n, hn⟩).2

theorem DigitOf.not_isBlank {c : Char} {n : Nat} (h : DigitOf c n) : ¬ Text.isBlank c := by
  have table : ∀ n : Fin 16, ¬ Text.isBlank (Nat.digitChar n) ∧ ¬ Text.isBlank (upperDigitChar n) := by
    decide
  obtain ⟨hn, rfl | rfl⟩ := h
  · exact (table ⟨n, hn⟩).1
  · exact (table ⟨n, hn⟩).2

/-! ### Pairs -/

/-- These digits, in either case, spell the bytes. -/
def Spells (digits : List Char) (data : Bytes) : Prop := List.Forall₂ DigitOf digits (data.flatMap halves)

theorem digit_eq_ok_iff {i : Nat} {b v : UInt8} : digit i b = .ok v ↔ digitValue? b = some v := by
  unfold digit
  cases digitValue? b <;> simp

theorem digit_of_not_isDigit (i : Nat) {b : UInt8} (h : ¬ IsDigit b) : digit i b = .error (.badDigit b i) := by
  rw [digit, digitValue?_eq_none_iff.mpr h]

theorem exists_digit (i : Nat) {b : UInt8} (h : IsDigit b) : ∃ v, digit i b = .ok v := by
  cases hv : digitValue? b with
  | none => exact absurd h (digitValue?_eq_none_iff.mp hv)
  | some v => exact ⟨v, digit_eq_ok_iff.mpr hv⟩

@[simp] theorem length_flatMap_halves (data : Bytes) : (data.flatMap halves).length = 2 * data.length := by
  induction data with
  | nil => rfl
  | cons b rest ih => simp [halves, ih]; omega

/-- Two digits are those of a byte exactly if they are put together to it. -/
theorem pair_eq_iff {h l b : UInt8} (hh : h.toNat < 16) (hl : l.toNat < 16) :
    h * 16 + l = b ↔ halves b = [h.toNat, l.toNat] := by
  rw [← UInt8.toNat_inj, UInt8.toNat_add, UInt8.toNat_mul]
  simp only [halves, UInt8.reduceToNat, List.cons.injEq, and_true]
  have := b.toNat_lt
  omega

theorem decodePairs_pair_eq_ok_iff (i : Nat) (high low : UInt8) (rest : Bytes) (b : UInt8) (data : Bytes) :
    decodePairs i (high :: low :: rest) = .ok (b :: data) ↔
      (ReadAs high (b.toNat / 16) ∧ ReadAs low (b.toNat % 16)) ∧ decodePairs (i + 2) rest = .ok data := by
  have readAs {c v : UInt8} (h : digitValue? c = some v) (n : Nat) : ReadAs c n ↔ v.toNat = n := by
    simp [ReadAs, h]
  rw [decodePairs]
  cases hh : digitValue? high with
  | none => simp [digit, ReadAs, hh, bind, Except.bind]
  | some h =>
    cases hl : digitValue? low with
    | none => simp [digit, ReadAs, hh, hl, bind, Except.bind]
    | some l =>
      have bound {c v : UInt8} (hv : digitValue? c = some v) : v.toNat < 16 := ((readAs hv _).mpr rfl).lt
      have hpair := pair_eq_iff (b := b) (bound hh) (bound hl)
      simp only [halves, List.cons.injEq, and_true] at hpair
      rw [readAs hh, readAs hl, eq_comm (a := h.toNat), eq_comm (a := l.toNat), ← hpair]
      rw [digit_eq_ok_iff.mpr hh, digit_eq_ok_iff.mpr hl]
      cases decodePairs (i + 2) rest <;> simp [bind, Except.bind, pure, Except.pure]

theorem decodePairs_pair_ne_nil (i : Nat) (high low : UInt8) (rest : Bytes) :
    decodePairs i (high :: low :: rest) ≠ .ok [] := by
  rw [decodePairs]
  cases digit i high <;> cases digit (i + 1) low <;> cases decodePairs (i + 2) rest <;>
    simp [bind, Except.bind, pure, Except.pure]

/-- Pairs are decoded to the bytes whose digits they are read as. -/
theorem decodePairs_eq_ok_iff (i : Nat) (codes data : Bytes) (heven : codes.length % 2 = 0) :
    decodePairs i codes = .ok data ↔ List.Forall₂ ReadAs codes (data.flatMap halves) := by
  induction i, codes using decodePairs.induct generalizing data with
  | case1 i high low rest ih =>
    have hrest : rest.length % 2 = 0 := by rwa [← Nat.add_mod_right]
    cases data with
    | nil => exact iff_of_false (decodePairs_pair_ne_nil i high low rest) fun h => nomatch h
    | cons b data =>
      rw [decodePairs_pair_eq_ok_iff, ih data hrest]
      simp [halves, and_assoc]
  | case2 codes i hshort =>
    -- what is shorter than a pair has no bytes at all, or an odd one
    match codes with
    | [] => cases data <;> simp [decodePairs, halves]
    | [_] => exact absurd heven (by simp)
    | high :: low :: rest => exact absurd rfl (hshort high low rest)

/-- Decoding stops at the first byte that is no digit. -/
theorem decodePairs_of_bad (i : Nat) {b : UInt8} (rest : Bytes) (hb : ¬ IsDigit b) :
    ∀ front : Bytes, (∀ d ∈ front, IsDigit d) → (front ++ b :: rest).length % 2 = 0 →
      decodePairs i (front ++ b :: rest) = .error (.badDigit b (i + front.length))
  | [], _, heven => by
    cases rest with
    | nil => exact absurd heven (by simp)
    | cons low rest =>
      rw [List.nil_append, decodePairs, digit_of_not_isDigit i hb]
      rfl
  | [high], hfront, _ => by
    obtain ⟨h, hh⟩ := exists_digit i (hfront high (List.mem_singleton_self high))
    rw [List.singleton_append, decodePairs, hh, digit_of_not_isDigit (i + 1) hb]
    rfl
  | high :: low :: front, hfront, heven => by
    obtain ⟨h, hh⟩ := exists_digit i (hfront high (by simp))
    obtain ⟨l, hl⟩ := exists_digit (i + 1) (hfront low (by simp))
    have hrest := decodePairs_of_bad (i + 2) rest hb front (fun d hd => hfront d (by simp [hd]))
      (by rwa [← Nat.add_mod_right])
    rw [List.cons_append, List.cons_append, decodePairs, hh, hl, hrest, List.length_cons,
      List.length_cons, Nat.add_assoc, Nat.add_comm 2]
    rfl

/-! ### Texts -/

theorem decode_of_odd {text : String} (h : (Text.utf8 text).length % 2 = 1) :
    decode text = .error .oddLength :=
  if_pos h

theorem decode_of_even {text : String} (h : (Text.utf8 text).length % 2 = 0) :
    decode text = decodePairs 0 (Text.utf8 text) :=
  if_neg (by rw [h]; decide)

theorem exists_of_forall₂ {α β : Type} {r : α → β → Prop} {l : List α} {l' : List β}
    (h : List.Forall₂ r l l') : ∀ a ∈ l, ∃ b, r a b := by
  induction h with
  | nil => exact nofun
  | cons hr _ ih => exact List.forall_mem_cons.mpr ⟨⟨_, hr⟩, ih⟩

theorem Spells.digits {digits : List Char} {data : Bytes} (h : Spells digits data) :
    ∀ c ∈ digits, ∃ value, DigitOf c value :=
  exists_of_forall₂ h

theorem Spells.ascii {digits : List Char} {data : Bytes} (h : Spells digits data) :
    ∀ c ∈ digits, c.toNat < 128 :=
  fun c hc => (h.digits c hc).elim fun _ hn => hn.ascii

theorem Spells.not_isBlank {digits : List Char} {data : Bytes} (h : Spells digits data) :
    ∀ c ∈ digits, ¬ Text.isBlank c :=
  fun c hc => (h.digits c hc).elim fun _ hn => hn.not_isBlank

theorem Spells.length {digits : List Char} {data : Bytes} (h : Spells digits data) :
    digits.length = 2 * data.length :=
  h.length_eq.trans (length_flatMap_halves data)

theorem Spells.utf8 {text : String} {data : Bytes} (h : Spells text.toList data) :
    Text.utf8 text = text.toList.map Text.ascii :=
  Text.utf8_eq_map h.ascii

/-- Among ASCII characters, those that spell the bytes are those read as their digits. -/
theorem spells_iff {cs : List Char} (h : ∀ c ∈ cs, c.toNat < 128) {data : Bytes} :
    List.Forall₂ ReadAs (cs.map Text.ascii) (data.flatMap halves) ↔ Spells cs data := by
  rw [List.forall₂_map_left_iff, Spells]
  generalize data.flatMap halves = digits
  constructor <;> intro hread
  · exact ((List.forall₂_and_left _ _).mpr ⟨h, hread⟩).imp fun _ _ hc => (readAs_ascii_iff hc.1).mp hc.2
  · exact ((List.forall₂_and_left _ _).mpr ⟨h, hread⟩).imp fun _ _ hc => (readAs_ascii_iff hc.1).mpr hc.2

/-- A text is accepted exactly if its characters spell the bytes. -/
theorem decode_eq_ok_iff {text : String} {data : Bytes} :
    decode text = .ok data ↔ Spells text.toList data := by
  constructor
  · intro h
    rcases Nat.mod_two_eq_zero_or_one (Text.utf8 text).length with heven | hodd
    · rw [decode_of_even heven, decodePairs_eq_ok_iff _ _ _ heven] at h
      -- the bytes are digits, hence those of ASCII characters
      have hdigits : ∀ b ∈ Text.utf8 text, b.toNat < 128 := fun b hb =>
        Nat.lt_trans (toNat_lt_of_isDigit (isDigit_iff.mpr (exists_of_forall₂ h b hb))) (by decide)
      have hascii := Text.ascii_of_utf8 hdigits
      rw [Text.utf8_eq_map hascii] at h
      exact (spells_iff hascii).mp h
    · rw [decode_of_odd hodd] at h
      nomatch h
  · intro h
    have heven : (Text.utf8 text).length % 2 = 0 := by
      rw [h.utf8, List.length_map, h.length, Nat.mul_mod_right]
    rw [decode_of_even heven, decodePairs_eq_ok_iff _ _ _ heven, h.utf8]
    exact (spells_iff h.ascii).mpr h

/-- The first byte that is no digit is named, with its place. -/
theorem decode_of_bad {text : String} {front rest : Bytes} {b : UInt8}
    (htext : Text.utf8 text = front ++ b :: rest) (hfront : ∀ d ∈ front, IsDigit d) (hb : ¬ IsDigit b)
    (heven : (Text.utf8 text).length % 2 = 0) : decode text = .error (.badDigit b front.length) := by
  rw [decode_of_even heven, htext, decodePairs_of_bad 0 rest hb front hfront (htext ▸ heven), Nat.zero_add]

/-- A byte string is all digits, or has a first byte that is none. -/
theorem all_digits_or_first_bad (codes : Bytes) :
    (∀ d ∈ codes, IsDigit d) ∨
      ∃ front b rest, codes = front ++ b :: rest ∧ (∀ d ∈ front, IsDigit d) ∧ ¬ IsDigit b := by
  induction codes with
  | nil => exact .inl nofun
  | cons c codes ih =>
    by_cases hc : IsDigit c
    · rcases ih with hall | ⟨front, b, rest, rfl, hfront, hb⟩
      · exact .inl (List.forall_mem_cons.mpr ⟨hc, hall⟩)
      · exact .inr ⟨c :: front, b, rest, rfl, List.forall_mem_cons.mpr ⟨hc, hfront⟩, hb⟩
    · exact .inr ⟨[], c, codes, rfl, nofun, hc⟩

/-- Digits are decoded two by two. -/
theorem exists_decodePairs (i : Nat) (codes : Bytes) (h : ∀ d ∈ codes, IsDigit d) :
    ∃ data, decodePairs i codes = .ok data := by
  induction i, codes using decodePairs.induct with
  | case1 i high low rest ih =>
    obtain ⟨hhigh, hlow, hrest⟩ : IsDigit high ∧ IsDigit low ∧ ∀ d ∈ rest, IsDigit d := by simpa using h
    obtain ⟨hv, hh⟩ := exists_digit i hhigh
    obtain ⟨lv, hl⟩ := exists_digit (i + 1) hlow
    obtain ⟨data, hdata⟩ := ih hrest
    exact ⟨(hv * 16 + lv) :: data, by rw [decodePairs, hh, hl, hdata]; rfl⟩
  | case2 codes i hshort => exact ⟨[], decodePairs.eq_2 i codes hshort⟩

/-- An even number of digits is decoded. -/
theorem exists_decode {text : String} (hdigits : ∀ d ∈ Text.utf8 text, IsDigit d)
    (heven : (Text.utf8 text).length % 2 = 0) : ∃ data, decode text = .ok data := by
  rw [decode_of_even heven]
  exact exists_decodePairs 0 _ hdigits

/-- Digits in pairs spell some bytes, and nothing else does. -/
theorem exists_spells_iff {cs : List Char} {n : Nat} :
    (∃ data : Bytes, data.length = n ∧ Spells cs data) ↔
      cs.length = 2 * n ∧ ∀ c ∈ cs, ∃ value, DigitOf c value := by
  constructor
  · rintro ⟨data, rfl, h⟩
    exact ⟨h.length, h.digits⟩
  · rintro ⟨hlength, hdigits⟩
    have hascii : ∀ c ∈ (String.ofList cs).toList, c.toNat < 128 := by
      rw [String.toList_ofList]
      exact fun c hc => (hdigits c hc).elim fun _ hv => hv.ascii
    have hutf8 : Text.utf8 (String.ofList cs) = cs.map Text.ascii := by
      rw [Text.utf8_eq_map hascii, String.toList_ofList]
    obtain ⟨data, hdata⟩ : ∃ data, decode (String.ofList cs) = .ok data := by
      refine exists_decode ?_ (by rw [hutf8, List.length_map, hlength, Nat.mul_mod_right])
      rw [hutf8]
      intro b hb
      obtain ⟨c, hc, rfl⟩ := List.mem_map.mp hb
      obtain ⟨v, hv⟩ := hdigits c hc
      exact isDigit_iff.mpr ⟨v, (readAs_ascii_iff hv.ascii).mpr hv⟩
    rw [decode_eq_ok_iff, String.toList_ofList] at hdata
    exact ⟨data, by have := hdata.length; omega, hdata⟩

end Hex
end Nearfield
