/-
# What is a key

A text is a key exactly if the part between its blanks spells sixteen bytes, so every
text that does gives the key back, in either case of its digits and with any blanks
around it (`Key.Decodes`). Otherwise the fault is the number of bytes, if it is not 32,
and else the first of them that is no digit. An issued pair is decoded if both of its
halves are; if not, the fault is that of the first bad half under the name of that
half alone (`KeyPair.Decodes`), and it stays the root under whatever else is put
around it (`KeyError.root_foldr_context`).

Key definitions: `Key.Decodes`, `KeyPair.Decodes`.
Key theorems: `Key.ofText_eq_iff`, `KeyPair.ofIssued_eq_iff`, `key_decoding`.
-/
import Nearfield.Key
import Nearfield.Proofs.Cipher.Cbc
import Nearfield.Proofs.Text

namespace Nearfield

namespace Key

/-- What comes of a text that is to be a key. -/
inductive Decodes (text : String) : Except KeyError Key → Prop where
  | spelled {front digits back : List Char} {key : Key}
      (htext : text.toList = front ++ digits ++ back) (hfront : ∀ c ∈ front, Text.isBlank c)
      (hback : ∀ c ∈ back, Text.isBlank c) (hdigits : Hex.Spells digits key.toBytes) :
      Decodes text (.ok key)
  | length {core : String} (hcore : Text.Trimmed text core) (hlength : (Text.utf8 core).length ≠ 32) :
      Decodes text (.error (.invalidLength (Text.utf8 core).length))
  | digit {core : String} {front rest : Bytes} {b : UInt8} (hcore : Text.Trimmed text core)
      (hlength : (Text.utf8 core).length = 32) (hsplit : Text.utf8 core = front ++ b :: rest)
      (hfront : ∀ d ∈ front, Hex.IsDigit d) (hbad : ¬ Hex.IsDigit b) :
      Decodes text (.error (.invalidHex (.badDigit b front.length)))

/-- The checks on the trimmed text. -/
theorem ofText_eq {text core : String} (h : Text.Trimmed text core) :
    ofText text =
      if (Text.utf8 core).length ≠ 32 then .error (.invalidLength (Text.utf8 core).length)
      else match Hex.decode core with
        | .ok bytes => .ok (Block.zeroFilled bytes)
        | .error fault => .error (.invalidHex fault) := by
  rw [ofText, Text.trim_eq_iff.mpr h]
  rfl

theorem trimmed_of_spells {text : String} {front digits back : List Char} {data : Bytes}
    (htext : text.toList = front ++ digits ++ back) (hfront : ∀ c ∈ front, Text.isBlank c)
    (hback : ∀ c ∈ back, Text.isBlank c) (hdigits : Hex.Spells digits data) :
    Text.Trimmed text (String.ofList digits) := by
  have hblank : ∀ c ∈ digits, ¬ Text.isBlank c := hdigits.not_isBlank
  refine ⟨⟨front, back, ?_, hfront, hback⟩, fun c hc => hblank c ?_, fun c hc => hblank c ?_⟩
  · rwa [String.toList_ofList]
  · exact List.mem_of_mem_head? (by rwa [String.toList_ofList] at hc)
  · exact List.mem_of_mem_getLast? (by rwa [String.toList_ofList] at hc)

theorem Decodes.eq {text : String} {r : Except KeyError Key} (h : Decodes text r) : ofText text = r := by
  cases h with
  | @spelled front digits back key htext hfront hback hdigits =>
    have hdecode : Hex.decode (String.ofList digits) = .ok key.toBytes :=
      Hex.decode_eq_ok_iff.mpr (by rwa [String.toList_ofList])
    have hlength : (Text.utf8 (String.ofList digits)).length = 32 := by
      rw [Hex.Spells.utf8 (by rwa [String.toList_ofList]), List.length_map, String.toList_ofList,
        hdigits.length]
      rfl
    rw [ofText_eq (trimmed_of_spells htext hfront hback hdigits), if_neg (not_not.mpr hlength), hdecode]
    rfl
  | length hcore hlength => rw [ofText_eq hcore, if_pos hlength]
  | digit hcore hlength hsplit hfront hbad =>
    rw [ofText_eq hcore, if_neg (not_not.mpr hlength),
      Hex.decode_of_bad hsplit hfront hbad (by rw [hlength])]

/-- Every text has an outcome: its length is wrong, or it has a first bad byte, or its
digits spell a key. -/
theorem decodes_ofText (text : String) : Decodes text (ofText text) := by
  have hcore : Text.Trimmed text (Text.trim text) := Text.trim_eq_iff.mp rfl
  by_cases hlength : (Text.utf8 (Text.trim text)).length = 32
  · rcases Hex.all_digits_or_first_bad (Text.utf8 (Text.trim text)) with
      hall | ⟨front, b, rest, hsplit, hfront, hbad⟩
    · obtain ⟨data, hdata⟩ := Hex.exists_decode hall (by rw [hlength])
      have hspells := Hex.decode_eq_ok_iff.mp hdata
      have h16 : data.length = Block.size := by
        have := hspells.length
        rw [hspells.utf8, List.length_map] at hlength
        rw [Block.size]
        omega
      obtain ⟨front, back, htext, hfront, hback⟩ := hcore.between
      have h : Decodes text (.ok (Block.zeroFilled data)) := .spelled htext hfront hback
        (by rwa [Block.toBytes_zeroFilled_of_length h16])
      rwa [h.eq]
    · have h := Decodes.digit hcore hlength hsplit hfront hbad
      rwa [h.eq]
  · have h := Decodes.length hcore hlength
    rwa [h.eq]

theorem ofText_eq_iff {text : String} {r : Except KeyError Key} : ofText text = r ↔ Decodes text r :=
  ⟨fun h => h ▸ decodes_ofText text, Decodes.eq⟩

/-- A text is a key if 32 digits are between its blanks, whichever they are. -/
theorem exists_ofText_iff {text : String} :
    (∃ key, ofText text = .ok key) ↔ ∃ core, Text.Trimmed text core ∧ core.toList.length = 32 ∧
      ∀ c ∈ core.toList, ∃ value, Hex.DigitOf c value := by
  constructor
  · rintro ⟨key, h⟩
    cases ofText_eq_iff.mp h with
    | @spelled front digits back _ htext hfront hback hdigits =>
      refine ⟨String.ofList digits, trimmed_of_spells htext hfront hback hdigits, ?_⟩
      rw [String.toList_ofList]
      exact Hex.exists_spells_iff.mp ⟨key.toBytes, rfl, hdigits⟩
  · rintro ⟨core, hcore, hdigits⟩
    obtain ⟨data, hlength, hspells⟩ := (Hex.exists_spells_iff (n := Block.size)).mpr hdigits
    obtain ⟨front, back, htext, hfront, hback⟩ := hcore.between
    exact ⟨Block.zeroFilled data, ofText_eq_iff.mpr (.spelled htext hfront hback
      (by rwa [Block.toBytes_zeroFilled_of_length hlength]))⟩

/-- The fault of a text stands alone. -/
theorem Decodes.root_eq {text : String} {e : KeyError} (h : Decodes text (.error e)) : e.root = e := by
  cases h <;> rfl

end Key

/-- Whatever is put around an error, its root stays. -/
theorem KeyError.root_foldr_context (labels : List String) (e : KeyError) :
    (labels.foldr KeyError.context e).root = e.root := by
  induction labels with
  | nil => rfl
  | cons label labels ih => exact ih

namespace KeyPair

/-- What comes of an issued pair. -/
inductive Decodes (issued : IssuedKeys) : Except KeyError KeyPair → Prop where
  | both {key0 key1 : Key} (h0 : Key.Decodes issued.key0 (.ok key0))
      (h1 : Key.Decodes issued.key1 (.ok key1)) :
      Decodes issued (.ok { dataKey := some key0, uidKey := some key1 })
  | key0 {e : KeyError} (h0 : Key.Decodes issued.key0 (.error e)) :
      Decodes issued (.error (.context "key0" e))
  | key1 {key0 : Key} {e : KeyError} (h0 : Key.Decodes issued.key0 (.ok key0))
      (h1 : Key.Decodes issued.key1 (.error e)) : Decodes issued (.error (.context "key1" e))

theorem ofIssued_eq (issued : IssuedKeys) :
    ofIssued issued =
      match Key.ofText issued.key0, Key.ofText issued.key1 with
      | .error e, _ => .error (.context "key0" e)
      | .ok _, .error e => .error (.context "key1" e)
      | .ok key0, .ok key1 => .ok { dataKey := some key0, uidKey := some key1 } := by
  unfold ofIssued decodeHalf
  cases Key.ofText issued.key0 <;> cases Key.ofText issued.key1 <;> rfl

theorem Decodes.eq {issued : IssuedKeys} {r : Except KeyError KeyPair} (h : Decodes issued r) :
    ofIssued issued = r := by
  rw [ofIssued_eq]
  cases h with
  | both h0 h1 => rw [h0.eq, h1.eq]
  | key0 h0 => rw [h0.eq]
  | key1 h0 h1 => rw [h0.eq, h1.eq]

theorem decodes_ofIssued (issued : IssuedKeys) : Decodes issued (ofIssued issued) := by
  have h0 := Key.decodes_ofText issued.key0
  have h1 := Key.decodes_ofText issued.key1
  rw [ofIssued_eq]
  cases hkey0 : Key.ofText issued.key0 with
  | error e => exact .key0 (hkey0 ▸ h0)
  | ok key0 =>
    cases hkey1 : Key.ofText issued.key1 with
    | error e => exact .key1 (hkey0 ▸ h0) (hkey1 ▸ h1)
    | ok key1 => exact .both (hkey0 ▸ h0) (hkey1 ▸ h1)

theorem ofIssued_eq_iff {issued : IssuedKeys} {r : Except KeyError KeyPair} :
    ofIssued issued = r ↔ Decodes issued r :=
  ⟨fun h => h ▸ decodes_ofIssued issued, Decodes.eq⟩

/-- The fault of a half is under one label, and under any others it is the root. -/
theorem Decodes.root {issued : IssuedKeys} {e : KeyError} (h : Decodes issued (.error e)) :
    ∃ half inner, e = .context half inner ∧ inner.root = inner ∧
      ∀ labels : List String, (labels.foldr KeyError.context e).root = inner := by
  obtain ⟨half, inner, rfl, hroot⟩ : ∃ half inner, e = .context half inner ∧ inner.root = inner := by
    cases h with
    | key0 h0 => exact ⟨_, _, rfl, h0.root_eq⟩
    | key1 _ h1 => exact ⟨_, _, rfl, h1.root_eq⟩
  exact ⟨half, inner, rfl, hroot, fun labels => (KeyError.root_foldr_context labels _).trans hroot⟩

end KeyPair

/-- **What is a key, and what is wrong with what is none.** A text is decoded to the key
its digits spell, between any blanks and in either case, and every 32 digits spell one.
Any other text gives the number of its bytes between the blanks if that is not 32, and
else the first byte that is no digit and its place. An issued pair is decoded to both
its keys, or to the fault of its first bad half under that half's name, which is the
root of every error made from it by adding labels. -/
theorem key_decoding :
    (∀ text r, Key.ofText text = r ↔ Key.Decodes text r) ∧
      (∀ text, (∃ key, Key.ofText text = .ok key) ↔
        ∃ core, Text.Trimmed text core ∧ core.toList.length = 32 ∧
          ∀ c ∈ core.toList, ∃ value, Hex.DigitOf c value) ∧
      (∀ issued r, KeyPair.ofIssued issued = r ↔ KeyPair.Decodes issued r) ∧
      ∀ issued e, KeyPair.ofIssued issued = .error e →
        ∃ half inner, e = .context half inner ∧ inner.root = inner ∧
          ∀ labels : List String, (labels.foldr KeyError.context e).root = inner :=
  ⟨fun _ _ => Key.ofText_eq_iff, fun _ => Key.exists_ofText_iff, fun _ _ => KeyPair.ofIssued_eq_iff,
    fun _ _ h => (KeyPair.ofIssued_eq_iff.mp h).root⟩

/-- A pair whose second half is too short. -/
theorem key_decoding_short_half :
    let issued : IssuedKeys := ⟨" 000102030405060708090a0B0C0D0E0F\n", "not hex"⟩
    let e : KeyError := .context "key1" (.invalidLength 7)
    KeyPair.ofIssued issued = .error e ∧ ∃ half inner, e = .context half inner ∧ inner.root = inner ∧
      ∀ labels : List String, (labels.foldr KeyError.context e).root = inner := by
  intro issued e
  have h : KeyPair.ofIssued issued = .error e := by decide +kernel
  obtain ⟨-, -, -, hfault⟩ := key_decoding
  exact ⟨h, hfault issued e h⟩

end Nearfield
