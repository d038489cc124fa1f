/-
# All full modes read the same

A full read takes the identifier from anticollision, or from memory in a session,
and its pages come with a MAC or without. On an Ultralight AES as it is issued,
which shows its own identifier, none of this makes a difference: every mode finds
the one identifier with what the area holds (`run_read_issued`), and so any two
full modes return the same result, also where it is a failure of the area, and
the fast mode the same identifier (`full_reads_agree`).

Key theorems: `Transaction.run_read_issued`, `Transaction.full_reads_agree`.
-/
import Nearfield.Proofs.LastWrite

namespace Nearfield

section
variable {ρ : Type} [RandomSource ρ] {station : Station ρ} {t : Tag} {uid : Bytes} {contact : Contact ρ}

/-- A tag without a random identifier reports its own. -/
theorem Station.reported_uid (htag : station.field.tag = some t) (hown : t.randomId = false)
    (h : station.contact? = some (uid, contact)) : uid = t.uid.toBytes := by
  unfold Station.contact? Tag.activate at h
  rw [htag, Option.map_some, Option.some.injEq, Prod.mk.injEq] at h
  dsimp only at h
  rw [if_neg (ne_true_of_eq_false hown)] at h
  exact h.1.symm

end

/-- Tags that agree in all that lasts were issued alike. -/
theorem Tag.Issued.of_settled {t u : Tag} (h : t.Issued) (hsame : u.settled = t.settled) : u.Issued :=
  (h.written (Memory.SameOutside.refl 4 36 t.memory) hsame).1

namespace Transaction

variable {ρ ρ' : Type} [RandomSource ρ] [RandomSource ρ'] {station : Station ρ} {station' : Station ρ'}
  {t t' : Tag} {uid uid' : Bytes} {contact : Contact ρ} {contact' : Contact ρ'}

/-- Both places that an identifier is taken from hold the same one. -/
theorem uidFound_issued (ht : t.Issued) (mode : ReadMode) :
    uidFound mode t.uid.toBytes t.memory = t.uid.toBytes := by
  unfold uidFound
  rw [ht.uid_eq, ite_self]

theorem readResult_uid {dataKey : Option Key} {area : Bytes} {found : Finding}
    (h : readResult dataKey uid area = .ok found) : found.uid = uid := by
  unfold readResult at h
  split at h
  · cases h
    rfl
  · cases h

/-- **A read of an issued tag finds its identifier and its area**, in any mode,
and leaves the tag as it is. -/
theorem run_read_issued (htag : station.field.tag = some t) (ht : t.Issued) (hown : t.randomId = false)
    (hcontact : station.contact? = some (uid, contact)) (mode : ReadMode) (dataKey : Option Key) :
    let ended := run uid (.read mode t.key1 dataKey) contact
    ended.1 = (foundIn mode dataKey t.uid.toBytes t.memory.area).mapError TagError.classify ∧
      ∃ u, ended.2.field.tag = some u ∧ u.settled = t.settled := by
  obtain ⟨u, hu, hsettled, hidle, hallowance, hgeneration⟩ := Station.resting_contact htag hcontact
  have hresting : Channel.Resting (Channel.new uid contact) t := ⟨rfl, u, hu, hsettled, hidle⟩
  have hsteady : contact.Steady := ⟨hgeneration, u, hu, hallowance.trans ht.allowance_eq⟩
  obtain rfl : uid = t.uid.toBytes := Station.reported_uid htag hown hcontact
  refine run_of_ends (P := fun result (link : Contact ρ) =>
    result = (foundIn mode dataKey t.uid.toBytes t.memory.area).mapError TagError.classify ∧
      ∃ u, link.field.tag = some u ∧ u.settled = t.settled) ?_
  refine ends_execute hresting (fun e c' _ hproduct => absurd ht.model_eq (hproduct hsteady)) ?_
  intro c₁ hresting₁ hkept₁
  refine (ends_read mode dataKey hresting₁).mono ?_ ?_
  · intro found c' hend
    obtain ⟨hfacing, hfound⟩ := hend
    rw [hkept₁.uid_eq, Channel.new, uidFound_issued ht] at hfound
    rw [hfound]
    exact ⟨rfl, hfacing⟩
  · intro e c' hend
    obtain ⟨hfacing, hcause⟩ := hend
    have hfailed := hcause (hkept₁.steady hsteady) ht.sound
    rw [hkept₁.uid_eq, Channel.new, uidFound_issued ht] at hfailed
    rw [hfailed]
    exact ⟨rfl, hfacing⟩

/-- **All full modes agree.** Two full reads of a tag, each with or without a
session and with answers verified or not, return the same: the identifier of the
tag with what the area holds, or the same failure. Whenever they return, so does
a fast read, with the same identifier. The tags may differ in how far they are
with authentication, the stations in their random bytes. -/
theorem full_reads_agree (htag : station.field.tag = some t) (htag' : station'.field.tag = some t')
    (hsame : t'.settled = t.settled) (ht : t.Issued) (hown : t.randomId = false)
    (hcontact : station.contact? = some (uid, contact))
    (hcontact' : station'.contact? = some (uid', contact')) (dataKey : Option Key)
    (auth cmac auth' cmac' : Bool) :
    let result := (run uid (.read (.full auth cmac) t.key1 dataKey) contact).1
    let result' := (run uid' (.read (.full auth' cmac') t.key1 dataKey) contact').1
    let fast := (run uid' (.read .fast t.key1 dataKey) contact').1
    result' = result ∧ result = readResult dataKey t.uid.toBytes t.memory.area ∧
      ∀ found, result = .ok found → fast = .ok ⟨found.uid, none⟩ := by
  intro result result' fast
  have huid : t'.uid = t.uid := (congrArg Tag.uid hsame :)
  have hkey : t'.key1 = t.key1 := (congrArg Tag.key1 hsame :)
  have hmemory : t'.memory = t.memory := Tag.memory_of_settled hsame
  have hown' : t'.randomId = false := (congrArg Tag.randomId hsame :).trans hown
  have hread := fun mode => (run_read_issued htag ht hown hcontact mode dataKey).1
  have hread' := fun mode =>
    (run_read_issued htag' (ht.of_settled hsame) hown' hcontact' mode dataKey).1
  simp only [huid, hkey, hmemory] at hread'
  have hresult : result = readResult dataKey t.uid.toBytes t.memory.area := by
    rw [readResult_eq auth cmac]
    exact hread (.full auth cmac)
  have hresult' : result' = readResult dataKey t.uid.toBytes t.memory.area := by
    rw [readResult_eq auth' cmac']
    exact hread' (.full auth' cmac')
  refine ⟨hresult'.trans hresult.symm, hresult, fun found hfound => ?_⟩
  have hfast : fast = .ok ⟨t.uid.toBytes, none⟩ := hread' .fast
  rw [hfast, readResult_uid (hresult.symm.trans hfound)]

/-- A payload in the clear, read without a session and, by a tag that waits for
the answer to a challenge, in a session with everything verified. -/
theorem full_reads_agree_plain :
    let area : List Page := [⟨PayloadArea.plainFormat, 3, 0x4E, 0x46⟩, ⟨0x43, 0, 0, 0⟩]
    let t : Tag := { Tag.new Uid.default with
      memory := (Memory.factory Uid.default).setPages payloadStart area }
    let t' : Tag := { t with state := .challenged uidSlot Block.zero }
    let station : Station ByteStream := ⟨⟨some t, 1, 0⟩, ⟨[], 0⟩⟩
    let station' : Station ByteStream := ⟨⟨some t', 1, 0⟩, ⟨[7], 3⟩⟩
    let contact : Contact ByteStream := ⟨⟨some t, 1, 0⟩, 1, ⟨[], 0⟩⟩
    let contact' : Contact ByteStream := ⟨⟨some t, 1, 0⟩, 1, ⟨[7], 3⟩⟩
    let found : Finding := ⟨Uid.default.toBytes, some ⟨[0x4E, 0x46, 0x43], .unprotected⟩⟩
    t'.settled = t.settled ∧ t.Issued ∧ t.randomId = false ∧
      station.contact? = some (Uid.default.toBytes, contact) ∧
      station'.contact? = some (Uid.default.toBytes, contact') ∧
      (run Uid.default.toBytes (.read (.full false false) t.key1 none) contact).1 = .ok found ∧
      (run Uid.default.toBytes (.read (.full true true) t.key1 none) contact').1 = .ok found ∧
      (run Uid.default.toBytes (.read .fast t.key1 none) contact').1 = .ok ⟨found.uid, none⟩ := by
  intro area t t' station station' contact contact' found
  have hissued : t.Issued := ⟨rfl, rfl, rfl, Memory.sameOutside_setPages _ (by decide) (by decide) (by decide)⟩
  have hsame : t'.settled = t.settled := rfl
  have hcontact : station.contact? = some (Uid.default.toBytes, contact) := rfl
  have hcontact' : station'.contact? = some (Uid.default.toBytes, contact') := rfl
  obtain ⟨hagree, hresult, hfast⟩ :=
    full_reads_agree rfl rfl hsame hissued rfl hcontact hcontact' none false false true true
  have hfound : readResult none t.uid.toBytes t.memory.area = .ok found := readResult_same rfl
  rw [hresult] at hagree
  refine ⟨hsame, hissued, rfl, hcontact, hcontact', hresult.trans hfound, hagree.trans hfound, ?_⟩
  exact hfast found (hresult.trans hfound)

end Transaction
end Nearfield
