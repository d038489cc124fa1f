/-
# What is shown tells the bytes

Bytes are shown as quoted text or as digits, and no two byte strings are shown alike
(`Text.shown_unambiguous`). Only well formed bytes are read as a text, and they are its bytes
(`Text.ofUtf8?_eq_some_iff`). Between the quotes a character stands for itself, or
behind a backslash as a letter or as its code point in hexadecimal; these forms are a
code in which none is the front of another (`Text.Writes.append_inj`), so a written text
is read in one way only. The digits of bytes are read back by decoding, and never begin
with a quote.

It does not matter which characters are written as code points. That is a table of the
Unicode standard, which grows; two writers with different tables still never show
different bytes alike.

Key definitions: `Text.Writes`, `Text.quotedBy`, `Text.shownBy`.
Key theorems: `Text.Writes.append_inj`, `Text.quotedBy_inj`, `Hex.decode_encode`,
`Text.shownBy_inj`, `Text.shown_unambiguous`.
-/
import Nearfield.Proofs.Text
import Nearfield.Text.Shown

namespace Nearfield

/-! ### Digits -/

namespace Hex

theorem digitChar_inj {m n : Nat} (hm : m < 16) (hn : n < 16) (h : Nat.digitChar m = Nat.digitChar n) :
    m = n := by
  have table : ∀ m n : Fin 16, Nat.digitChar m = Nat.digitChar n → m = n := by decide
  exact congrArg Fin.val (table ⟨m, hm⟩ ⟨n, hn⟩ h)

/-- A number is its hexadecimal digits. -/
theorem toDigits_inj {m n : Nat} (h : Nat.toDigits 16 m = Nat.toDigits 16 n) : m = n := by
  induction m using Nat.strongRecOn generalizing n with
  | ind m ih =>
    -- one digit is not the end of several
    have hone (k l : Nat) (hl : 16 ≤ l) (hk : k < 16) : Nat.toDigits 16 k ≠ Nat.toDigits 16 l := by
      rw [Nat.toDigits_of_lt_base hk, Nat.toDigits_of_base_le (by decide) hl]
      intro hsame
      have hlen := congrArg List.length hsame
      simp at hlen
    rcases Nat.lt_or_ge m 16 with hm | hm <;> rcases Nat.lt_or_ge n 16 with hn | hn
    · rw [Nat.toDigits_of_lt_base hm, Nat.toDigits_of_lt_base hn, List.cons.injEq] at h
      exact digitChar_inj hm hn h.1
    · exact absurd h (hone m n hn hm)
    · exact absurd h.symm (hone n m hm hn)
    · rw [Nat.toDigits_of_base_le (by decide) hm, Nat.toDigits_of_base_le (by decide) hn] at h
      obtain ⟨hfront, hlast⟩ := List.append_inj' h rfl
      have hdiv := ih (m / 16) (by omega) hfront
      have hmod := digitChar_inj (Nat.mod_lt m (by decide)) (Nat.mod_lt n (by decide))
        (List.cons.inj hlast).1
      omega

theorem exists_digitOf_of_mem_toDigits (n : Nat) : ∀ c ∈ Nat.toDigits 16 n, ∃ v, DigitOf c v := by
  induction n using Nat.strongRecOn with
  | ind n ih =>
    intro c hc
    rcases Nat.lt_or_ge n 16 with hn | hn
    · rw [Nat.toDigits_of_lt_base hn, List.mem_singleton] at hc
      exact ⟨n, hn, Or.inl hc⟩
    · rw [Nat.toDigits_of_base_le (by decide) hn, List.mem_append, List.mem_singleton] at hc
      rcases hc with hc | hc
      · exact ih (n / 16) (by omega) c hc
      · exact ⟨n % 16, Nat.mod_lt n (by decide), Or.inl hc⟩

/-- Digits are no punctuation. -/
theorem DigitOf.not_punctuation {c : Char} {n : Nat} (h : DigitOf c n) : c ≠ '"' ∧ c ≠ '\x7d' := by
  have table : ∀ n : Fin 16, (Nat.digitChar n ≠ '"' ∧ Nat.digitChar n ≠ '\x7d') ∧
      (upperDigitChar n ≠ '"' ∧ upperDigitChar n ≠ '\x7d') := by
    decide
  obtain ⟨hn, rfl | rfl⟩ := h
  · exact (table ⟨n, hn⟩).1
  · exact (table ⟨n, hn⟩).2

/-- The digits of a number end at the brace. -/
theorem takeWhile_toDigits (n : Nat) (rest : List Char) :
    (Nat.toDigits 16 n ++ '\x7d' :: rest).takeWhile (· ≠ '\x7d') = Nat.toDigits 16 n := by
  have hdigits : ∀ c ∈ Nat.toDigits 16 n, decide (c ≠ '\x7d') = true := by
    intro c hc
    obtain ⟨v, hv⟩ := exists_digitOf_of_mem_toDigits n c hc
    exact decide_eq_true hv.not_punctuation.2
  rw [List.takeWhile_append_of_pos hdigits, List.takeWhile_cons_of_neg (by decide), List.append_nil]

theorem spells_encode (data : Bytes) : Spells (encode data).toList data := by
  rw [encode, String.toList_ofList, Spells, List.forall₂_map_left_iff, List.forall₂_same]
  intro n hn
  obtain ⟨b, -, hb⟩ := List.mem_flatMap.mp hn
  refine ⟨?_, Or.inl rfl⟩
  have := b.toNat_lt
  simp only [halves, List.mem_cons, List.not_mem_nil, or_false] at hb
  omega

/-- Bytes are decoded from their digits. -/
theorem decode_encode (data : Bytes) : decode (encode data) = .ok data :=
  decode_eq_ok_iff.mpr (spells_encode data)

theorem encode_inj {a b : Bytes} : encode a = encode b ↔ a = b := by
  constructor
  · intro h
    have hsame : decode (encode a) = decode (encode b) := congrArg decode h
    rw [decode_encode, decode_encode] at hsame
    exact Except.ok.inj hsame
  · rintro rfl
    rfl

end Hex

namespace Text

/-! ### One character -/

/-- The letters behind a backslash, each with its character. -/
def namedEscapes : List (Char × Char) :=
  [('\x00', '0'), ('\t', 't'), ('\n', 'n'), ('\r', 'r'), ('\\', '\\'), ('"', '"')]

/-- The forms of a character between double quotes. -/
inductive Writes : Char → List Char → Prop where
  | itself {c : Char} (hbackslash : c ≠ '\\') (hquote : c ≠ '"') : Writes c [c]
  | named {c letter : Char} (h : (c, letter) ∈ namedEscapes) : Writes c ['\\', letter]
  | coded (c : Char) : Writes c (codePointEscape c)

namespace Writes
variable {c c' : Char} {w w' xs ys : List Char}

theorem ne_nil (h : Writes c w) : w ≠ [] := by
  cases h <;> exact List.cons_ne_nil _ _

theorem codePoint_append_inj (h : codePointEscape c ++ xs = codePointEscape c' ++ ys) :
    c = c' ∧ xs = ys := by
  simp only [codePointEscape, List.append_assoc, List.cons_append, List.nil_append, List.cons.injEq,
    true_and] at h
  have hdigits := congrArg (List.takeWhile (· ≠ '\x7d')) h
  rw [Hex.takeWhile_toDigits, Hex.takeWhile_toDigits] at hdigits
  obtain rfl : c = c' := Char.toNat_inj.mp (Hex.toDigits_inj hdigits)
  exact ⟨rfl, (List.cons.inj (List.append_cancel_left h)).2⟩

/-- **No form of a character is the front of another one's**: what follows can be told
from it. -/
theorem append_inj (h : Writes c w) (h' : Writes c' w') (heq : w ++ xs = w' ++ ys) : c = c' ∧ xs = ys := by
  have names : ∀ p ∈ namedEscapes, p.2 ≠ 'u' ∧ ∀ q ∈ namedEscapes, p.2 = q.2 → p.1 = q.1 := by decide
  cases h with
  | itself hbackslash hquote =>
    cases h' with
    | itself => exact List.cons.inj heq
    | named => exact absurd (List.cons.inj heq).1 hbackslash
    | coded => exact absurd (List.cons.inj heq).1 hbackslash
  | named hmem =>
    cases h' with
    | itself hbackslash => exact absurd (List.cons.inj heq).1.symm hbackslash
    | named hmem' =>
      simp only [List.cons_append, List.nil_append, List.cons.injEq, true_and] at heq
      exact ⟨(names _ hmem).2 _ hmem' heq.1, heq.2⟩
    | coded =>
      simp only [codePointEscape, List.cons_append, List.nil_append, List.cons.injEq, true_and] at heq
      exact absurd heq.1 (names _ hmem).1
  | coded =>
    cases h' with
    | itself hbackslash => exact absurd (List.cons.inj heq).1.symm hbackslash
    | named hmem =>
      simp only [codePointEscape, List.cons_append, List.nil_append, List.cons.injEq, true_and] at heq
      exact absurd heq.1.symm (names _ hmem).1
    | coded => exact codePoint_append_inj heq

end Writes

/-! ### A text -/

/-- A text is read in one way only, whatever forms two writers choose. -/
theorem flatMap_inj_of_writes {write write' : Char → List Char} (h : ∀ c, Writes c (write c))
    (h' : ∀ c, Writes c (write' c)) :
    ∀ {cs cs' : List Char}, cs.flatMap write = cs'.flatMap write' → cs = cs'
  | [], [], _ => rfl
  | [], c' :: _, heq => absurd (List.append_eq_nil_iff.mp heq.symm).1 (h' c').ne_nil
  | c :: _, [], heq => absurd (List.append_eq_nil_iff.mp heq).1 (h c).ne_nil
  | c :: _, c' :: _, heq => by
    rw [List.flatMap_cons, List.flatMap_cons] at heq
    obtain ⟨rfl, hrest⟩ := (h c).append_inj (h' c') heq
    rw [flatMap_inj_of_writes h h' hrest]

/-- A character between double quotes. Those of `coded` are written as code points,
unless they have a letter. -/
def escapeBy (coded : Char → Bool) (c : Char) : List Char :=
  match namedEscapes.lookup c with
  | some letter => ['\\', letter]
  | none => if coded c then codePointEscape c else [c]

/-- A text in double quotes, with this choice of code points. -/
def quotedBy (coded : Char → Bool) (text : String) : String :=
  String.ofList (['"'] ++ text.toList.flatMap (escapeBy coded) ++ ['"'])

/-- The characters that are written as code points. -/
def isCoded (c : Char) : Bool := isExtender c || !isPrintable c

theorem mem_namedEscapes_of_lookup {c letter : Char} (h : namedEscapes.lookup c = some letter) :
    (c, letter) ∈ namedEscapes := by
  obtain ⟨front, rest, hsplit, -⟩ := List.lookup_eq_some_iff.mp h
  rw [hsplit]
  exact List.mem_append_right front List.mem_cons_self

theorem writes_escapeBy (coded : Char → Bool) (c : Char) : Writes c (escapeBy coded c) := by
  unfold escapeBy
  split
  · rename_i letter hletter
    exact .named (mem_namedEscapes_of_lookup hletter)
  · rename_i hnone
    have hno := List.lookup_eq_none_iff.mp hnone
    split
    · exact .coded c
    · have hbackslash := hno ('\\', '\\') (by decide)
      have hquote := hno ('"', '"') (by decide)
      exact .itself (bne_iff_ne.mp hbackslash) (bne_iff_ne.mp hquote)

/-- Quoted text is written with this choice. -/
theorem escape_eq_escapeBy (c : Char) : escape '"' c = escapeBy isCoded c := by
  cases hletter : namedEscapes.lookup c with
  | some letter =>
    have table : ∀ p ∈ namedEscapes, escape '"' p.1 = ['\\', p.2] := by decide
    rw [escapeBy, hletter]
    exact table _ (mem_namedEscapes_of_lookup hletter)
  | none =>
    have hno := List.lookup_eq_none_iff.mp hletter
    simp only [namedEscapes, List.forall_mem_cons, bne_iff_ne, List.not_mem_nil, false_implies,
      implies_true, and_true] at hno
    obtain ⟨h0, ht, hn, hr, hbackslash, hquote⟩ := hno
    have hmark : ¬ (c = '\\' ∨ c = '"') := not_or.mpr ⟨hbackslash, hquote⟩
    rw [escapeBy, hletter, escape, if_neg h0, if_neg ht, if_neg hn, if_neg hr, if_neg hmark]
    simp [isCoded]

theorem quoted_eq_quotedBy (text : String) : quoted text = quotedBy isCoded text := by
  rw [quoted, quotedBy, funext escape_eq_escapeBy]

theorem quotedBy_inj {coded coded' : Char → Bool} {s t : String} (h : quotedBy coded s = quotedBy coded' t) :
    s = t := by
  have hbody := List.append_cancel_left (List.append_cancel_right (String.ofList_inj.mp h))
  exact String.toList_inj.mp
    (flatMap_inj_of_writes (writes_escapeBy coded) (writes_escapeBy coded') hbody)

/-- Digits do not begin with a quote. -/
theorem quotedBy_ne_encode (coded : Char → Bool) (text : String) (data : Bytes) :
    quotedBy coded text ≠ Hex.encode data := by
  intro h
  have hquote : '"' ∈ (Hex.encode data).toList := by
    rw [← h, quotedBy, String.toList_ofList]
    exact List.mem_cons_self
  obtain ⟨v, hv⟩ := (Hex.spells_encode data).digits _ hquote
  exact hv.not_punctuation.1 rfl

/-! ### Bytes -/

/-- Only well formed bytes are a text, and they are its bytes. -/
theorem ofUtf8?_eq_some_iff {data : Bytes} {text : String} : ofUtf8? data = some text ↔ utf8 text = data := by
  unfold ofUtf8? utf8 String.fromUTF8?
  constructor
  · intro h
    split at h
    · cases h
      rfl
    · cases h
  · rintro rfl
    have hvalid : text.toUTF8.IsValidUTF8 := text.isValidUTF8
    exact dif_pos hvalid

theorem showable?_eq_some_iff {data : Bytes} {text : String} :
    showable? data = some text ↔ utf8 text = data ∧ ∀ c ∈ text.toList, ¬ isControl c := by
  rw [showable?, Option.filter_eq_some_iff, ofUtf8?_eq_some_iff]
  simp

theorem showable?_eq_none_iff {data : Bytes} :
    showable? data = none ↔ ¬ ∃ text, utf8 text = data ∧ ∀ c ∈ text.toList, ¬ isControl c := by
  simp only [← showable?_eq_some_iff, ← Option.isSome_iff_exists, Option.not_isSome_iff_eq_none]

/-- How bytes are shown with this choice of code points. -/
def shownBy (coded : Char → Bool) (data : Bytes) : String :=
  match showable? data with
  | some text => quotedBy coded text
  | none => Hex.encode data

theorem shown_eq_shownBy (data : Bytes) : shown data = shownBy isCoded data := by
  unfold shown shownBy
  cases showable? data with
  | some text => exact quoted_eq_quotedBy text
  | none => rfl

/-- Bytes that are shown as a text are shown in no other way, and the same for digits. -/
theorem shownBy_inj {coded coded' : Char → Bool} {a b : Bytes} (h : shownBy coded a = shownBy coded' b) :
    a = b := by
  unfold shownBy at h
  cases ha : showable? a with
  | some s =>
    cases hb : showable? b with
    | some t =>
      rw [ha, hb] at h
      rw [← (showable?_eq_some_iff.mp ha).1, ← (showable?_eq_some_iff.mp hb).1, quotedBy_inj h]
    | none =>
      rw [ha, hb] at h
      exact absurd h (quotedBy_ne_encode coded s b)
  | none =>
    cases hb : showable? b with
    | some t =>
      rw [ha, hb] at h
      exact absurd h.symm (quotedBy_ne_encode coded' t a)
    | none =>
      rw [ha, hb] at h
      exact Hex.encode_inj.mp h

/-- **What is shown tells the bytes.** Bytes are shown as a quoted text if they are the
bytes of one without control characters, and by their digits otherwise, and no two byte
strings are shown alike. This does not depend on the characters that are written as code
points: for any choice, and even between two choices, a quoted text tells the text, is
never the digits of any bytes, and what is shown tells the bytes. -/
theorem shown_unambiguous :
    (∀ a b, shown a = shown b ↔ a = b) ∧
    (∀ data, (∃ text, utf8 text = data ∧ (∀ c ∈ text.toList, ¬ isControl c) ∧ shown data = quoted text) ∨
      (¬ ∃ text, utf8 text = data ∧ ∀ c ∈ text.toList, ¬ isControl c) ∧ shown data = Hex.encode data) ∧
    (∀ s t, quoted s = quoted t ↔ s = t) ∧
    (∀ a b, Hex.encode a = Hex.encode b ↔ a = b) ∧
    (∀ text data, quoted text = quotedBy isCoded text ∧ shown data = shownBy isCoded data) ∧
    ∀ coded coded' : Char → Bool,
      (∀ s t, quotedBy coded s = quotedBy coded' t → s = t) ∧
      (∀ text data, quotedBy coded text ≠ Hex.encode data) ∧
      ∀ a b, shownBy coded a = shownBy coded' b → a = b := by
  refine ⟨fun a b => ⟨fun h => ?_, congrArg shown⟩, fun data => ?_, fun s t => ⟨fun h => ?_, congrArg quoted⟩,
    fun _ _ => Hex.encode_inj, fun text data => ⟨quoted_eq_quotedBy text, shown_eq_shownBy data⟩,
    fun coded coded' => ⟨fun _ _ => quotedBy_inj, quotedBy_ne_encode coded, fun _ _ => shownBy_inj⟩⟩
  · rw [shown_eq_shownBy, shown_eq_shownBy] at h
    exact shownBy_inj h
  · unfold shown
    cases htext : showable? data with
    | some text =>
      obtain ⟨hutf8, hcontrol⟩ := showable?_eq_some_iff.mp htext
      exact Or.inl ⟨text, hutf8, hcontrol, rfl⟩
    | none => exact Or.inr ⟨showable?_eq_none_iff.mp htext, rfl⟩
  · rw [quoted_eq_quotedBy, quoted_eq_quotedBy] at h
    exact quotedBy_inj h

/-- Bytes that look like an escape, under two choices that differ. -/
theorem shown_unambiguous_backslash :
    let coded (c : Char) : Bool := c = 'A'
    let coded' (c : Char) : Bool := c = 'B'
    let a := utf8 "\\u\x7b41\x7d"
    let b : Bytes := [0x5C, 0x75, 0x7B, 0x34, 0x31, 0x7D]
    shownBy coded a = shownBy coded' b ∧ a = b ∧ shownBy coded a ≠ shownBy coded' (utf8 "A") := by
  intro coded coded' a b
  have h : shownBy coded a = shownBy coded' b := by decide +kernel
  obtain ⟨-, -, -, -, -, hchoice⟩ := shown_unambiguous
  obtain ⟨-, -, htells⟩ := hchoice coded coded'
  refine ⟨h, htells a b h, fun hsame => ?_⟩
  exact absurd (htells a _ hsame) (by decide)

end Text
end Nearfield
