/-
# The last write is what is read

Any run of scans on one tag that stays in the field, in any order and with any
payloads and data keys. Each scan takes the memory of the tag from one value to
the next (`Effect`): a read keeps it, a write that fits stores its payload, one
that does not fit is refused and keeps it, and a test changes scratch pages. So a
read in a session finds the payload of the last write that was not refused
(`last_write_wins`), whatever was scanned before and since.

Covered are an Ultralight AES as it is issued, in any state and with anything on
its user pages, and the identifier's key of that tag in every request.

Key definitions: `Tag.Issued`, `ScanQueue.scans`, `ScanQueue.Effect`,
`ScanQueue.Effects`.
Key theorems: `ScanQueue.effect_start`, `ScanQueue.Effects.holds`,
`ScanQueue.effects_scans`, `ScanQueue.last_write_wins`.
-/
import Mathlib.Data.Nat.Init
import Nearfield.Proofs.Interruption
import Nearfield.ScanQueue

namespace Nearfield

/-! ### Tags as they are issued -/

namespace Memory

/-- The pages of a new tag that hold the identifier. -/
theorem block_zero_factory (u : Uid) : ((factory u).block 0) =
    ⟨⟨u.u0, u.u1, u.u2, u.check0⟩, ⟨u.u3, u.u4, u.u5, u.u6⟩, ⟨u.check1, 0x48, 0, 0⟩, Page.zero⟩ := by
  rfl

end Memory

namespace Tag

/-- An Ultralight AES with its identifier in memory, which neither forges nor
leaves. Its keys, its user pages and its state are any. -/
structure Issued (t : Tag) : Prop where
  model_eq : t.model = .ultralightAes
  forges_eq : t.forges = false
  allowance_eq : t.allowance = none
  front : Memory.SameOutside 4 36 (Memory.factory t.uid) t.memory

theorem issued_new (u : Uid) : (Tag.new u).Issued :=
  ⟨rfl, rfl, rfl, Memory.SameOutside.refl 4 36 _⟩

namespace Issued
variable {t u : Tag}

theorem uid_eq (h : Issued t) : t.memory.uid = t.uid := by
  unfold Memory.uid
  rw [h.front.block_zero (Nat.le_refl 4), Memory.block_zero_factory]

theorem checked (h : Issued t) : t.memory.Checked := by
  unfold Memory.Checked
  rw [h.uid_eq, h.front.block_zero (Nat.le_refl 4), Memory.block_zero_factory]
  exact ⟨rfl, rfl⟩

theorem sound (h : Issued t) : Transaction.Sound t := ⟨h.model_eq, h.checked, h.forges_eq⟩

/-- Writes to user pages do not change what was issued. -/
theorem written {m : Memory} (h : Issued t) (hm : Memory.SameOutside 4 36 t.memory m)
    (hu : u.settled = Tag.settled { t with memory := m }) : Issued u ∧ u.uid = t.uid ∧
      u.key1 = t.key1 ∧ u.memory = m := by
  have huid : u.uid = t.uid := (congrArg Tag.uid hu :)
  have hmemory : u.memory = m := memory_of_settled hu
  have hallowance : u.allowance.map (fun _ => 0) = t.allowance.map (fun _ => 0) :=
    (congrArg Tag.allowance hu :)
  rw [h.allowance_eq, Option.map_none, Option.map_eq_none_iff] at hallowance
  refine ⟨⟨?_, ?_, hallowance, ?_⟩, huid, (congrArg Tag.key1 hu :), hmemory⟩
  · exact (model_of_settled hu).trans h.model_eq
  · exact (forges_of_settled hu).trans h.forges_eq
  · rw [huid, hmemory]
    exact h.front.trans hm

end Issued
end Tag

/-! ### What a read returns -/

/-- Only the full modes read in a session. -/
theorem ReadMode.eq_full {mode : ReadMode} (h : mode.needsSession = true) :
    ∃ auth cmac, mode = .full auth cmac := by
  cases mode with
  | fast => cases h
  | full auth cmac => exact ⟨auth, cmac, rfl⟩

namespace Transaction

/-- The result of a full read that finds this area. -/
def readResult (dataKey : Option Key) (uid area : Bytes) : ScanResult :=
  match readOut dataKey uid area with
  | .ok payload => .ok ⟨uid, payload⟩
  | .error e => .error e.classify

/-- It is what any full mode finds. -/
theorem readResult_eq (auth cmac : Bool) (dataKey : Option Key) (uid area : Bytes) :
    readResult dataKey uid area =
      (foundIn (.full auth cmac) dataKey uid area).mapError TagError.classify := by
  unfold readResult foundIn readFinding
  cases readOut dataKey uid area <;> rfl

/-- A payload is read back with the key that it was written with, and marked
verified if there is one. -/
theorem readResult_same {dataKey : Option Key} {uid payload area : Bytes}
    (h : PayloadArea.Holds dataKey uid payload area) :
    readResult dataKey uid area =
      .ok ⟨uid, some ⟨payload, if dataKey.isSome then .verified else .unprotected⟩⟩ := by
  unfold readResult
  cases dataKey with
  | none =>
    rw [readOut_of_ok h]
    rfl
  | some key =>
    obtain ⟨body, hsealed, hopen⟩ := h
    rw [readOut_of_ok hsealed, payloadOf, hopen]
    rfl

/-- With a data key a payload in the clear is refused. -/
theorem readResult_plain {key : Key} {uid payload area : Bytes}
    (h : PayloadArea.Holds none uid payload area) :
    readResult (some key) uid area = .error .integrityFailed := by
  have hplain : PayloadArea.decode area = .ok (.plain payload) := h
  unfold readResult
  rw [readOut_of_ok hplain]
  rfl

end Transaction

/-! ### One scan -/

namespace ScanQueue

/-- What a scan makes of a memory, and its result: on the tag with this
identifier, with the key of its slot 1. -/
inductive Effect (uid : Bytes) (key : Key) : Request → Memory → ScanResult → Memory → Prop where
  | read (mode : ReadMode) (dataKey : Option Key) (m : Memory) (result : ScanResult)
    (hresult : mode.needsSession = true → result = Transaction.readResult dataKey uid m.area) :
    Effect uid key (.read mode key dataKey) m result m
  | write (payload : Bytes) (dataKey : Option Key) (m m' : Memory)
    (hfits : payload.length ≤ PayloadArea.capacity dataKey)
    (hholds : PayloadArea.Holds dataKey uid payload m'.area) (hout : Memory.SameOutside 4 32 m m') :
    Effect uid key (.write payload key dataKey) m (.ok ⟨uid, none⟩) m'
  | refused (payload : Bytes) (dataKey : Option Key) (m : Memory) (e : ScanError)
    (hlarge : PayloadArea.capacity dataKey < payload.length) :
    Effect uid key (.write payload key dataKey) m (.error e) m
  | test (dataKey : Key) (m m' : Memory) (result : ScanResult) (hout : Memory.SameOutside 36 4 m m') :
    Effect uid key (.test key dataKey) m result m'

/-- No scan changes anything but user pages. -/
theorem Effect.sameOutside {uid : Bytes} {key : Key} {request : Request} {m m' : Memory}
    {result : ScanResult} (h : Effect uid key request m result m') : Memory.SameOutside 4 36 m m' := by
  cases h with
  | read mode dataKey m result hresult => exact Memory.SameOutside.refl 4 36 m
  | write payload dataKey m m' hfits hholds hout => exact hout.mono (Nat.le_refl 4) (by decide)
  | refused payload dataKey m e hlarge => exact Memory.SameOutside.refl 4 36 m
  | test dataKey m m' result hout => exact hout.mono (by decide) (by decide)

/-- What was stored stays stored through everything but a write that is not
refused. -/
theorem Effect.holds {uid : Bytes} {key : Key} {request : Request} {m m' : Memory}
    {result : ScanResult} (h : Effect uid key request m result m') {dataKey : Option Key}
    {payload : Bytes} (hholds : PayloadArea.Holds dataKey uid payload m.area)
    (hother : ∀ p k d found, request = .write p k d → result ≠ .ok found) :
    PayloadArea.Holds dataKey uid payload m'.area := by
  cases h with
  | read mode dataKey m result hresult => exact hholds
  | write p d m m' hfits hstored hout => exact absurd rfl (hother p key d _ rfl)
  | refused p d m e hlarge => exact hholds
  | test d m m' result hout => rwa [hout.area_eq (Nat.le_refl 36)]

/-- A write is refused exactly if its payload is too large. -/
theorem Effect.write_cases {uid payload : Bytes} {key uidKey : Key} {dataKey : Option Key}
    {m m' : Memory} {result : ScanResult}
    (h : Effect uid key (.write payload uidKey dataKey) m result m') :
    result = .ok ⟨uid, none⟩ ∧ payload.length ≤ PayloadArea.capacity dataKey ∧
        PayloadArea.Holds dataKey uid payload m'.area ∨
      (∃ e, result = .error e) ∧ PayloadArea.capacity dataKey < payload.length := by
  cases h with
  | write payload dataKey m m' hfits hholds hout => exact Or.inl ⟨rfl, hfits, hholds⟩
  | refused payload dataKey m e hlarge => exact Or.inr ⟨⟨e, rfl⟩, hlarge⟩

theorem Effect.read_eq {uid : Bytes} {key uidKey : Key} {mode : ReadMode} {dataKey : Option Key}
    {m m' : Memory} {result : ScanResult} (h : Effect uid key (.read mode uidKey dataKey) m result m')
    (hneeds : mode.needsSession = true) :
    result = Transaction.readResult dataKey uid m.area := by
  cases h with
  | read mode dataKey m result hresult => exact hresult hneeds

/-! ### Scan after scan -/

/-- Every scan has its effect on the memory that the scans before it have left:
`memory n` is what the tag holds in front of scan `n`. -/
def Effects (uid : Bytes) (key : Key) (requests : List Request) (results : List ScanResult)
    (memory : Nat → Memory) : Prop :=
  ∀ n request, requests[n]? = some request → ∃ result, results[n]? = some result ∧
    Effect uid key request (memory n) result (memory (n + 1))

/-- A payload that was written stays as long as no other is. -/
theorem Effects.holds {uid payload : Bytes} {key uidKey : Key} {dataKey : Option Key}
    {requests : List Request} {results : List ScanResult} {memory : Nat → Memory} {found : Finding}
    {i j : Nat} (h : Effects uid key requests results memory) (hij : i < j)
    (hlen : j ≤ requests.length) (hi : requests[i]? = some (.write payload uidKey dataKey))
    (hok : results[i]? = some (.ok found))
    (hbetween : ∀ (k : Nat) p key d, i < k → k < j → requests[k]? = some (.write p key d) →
      ∀ found, results[k]? ≠ some (.ok found)) :
    PayloadArea.Holds dataKey uid payload (memory j).area := by
  induction j, hij using Nat.le_induction with
  | base =>
    obtain ⟨result, hresult, heffect⟩ := h i _ hi
    rcases heffect.write_cases with ⟨-, -, hstored⟩ | ⟨⟨e, rfl⟩, -⟩
    · exact hstored
    · rw [hresult] at hok
      cases hok
  | succ j hij ih =>
    have hj : requests[j]? = some requests[j] := List.getElem?_eq_getElem hlen
    have hstored := ih (Nat.le_of_succ_le hlen) fun k p key d hik hkj =>
      hbetween k p key d hik (Nat.lt_succ_of_lt hkj)
    obtain ⟨result, hresult, heffect⟩ := h j _ hj
    refine heffect.holds hstored fun p k d found hrequest hfound => ?_
    rw [hrequest] at hj
    exact hbetween j p k d hij (Nat.lt_succ_self j) hj found (hfound ▸ hresult)

section
variable {ρ : Type} [RandomSource ρ] {t : Tag}

/-- A transaction with a tag that was just activated has its effect. -/
theorem effect_run {uid : Bytes} {contact : Contact ρ} (ht : t.Issued)
    (hresting : Channel.Resting (Channel.new uid contact) t) (hsteady : contact.Steady)
    {request : Request} (hkey : request.uidKey = t.key1) :
    ∃ m v, (Transaction.run uid request contact).2.field.tag = some v ∧
      v.settled = Tag.settled { t with memory := m } ∧
      Effect t.uid.toBytes t.key1 request t.memory (Transaction.run uid request contact).1 m := by
  refine Transaction.run_of_ends (P := fun result (link : Contact ρ) => ∃ m v, link.field.tag = some v ∧
    v.settled = Tag.settled { t with memory := m } ∧
    Effect t.uid.toBytes t.key1 request t.memory result m) ?_
  refine Transaction.ends_execute hresting ?_ ?_
  · intro e c' _ hproduct
    exact absurd ht.model_eq (hproduct hsteady)
  intro c₁ hresting₁ hkept₁
  have hsteady₁ := hkept₁.steady hsteady
  cases request with
  | read mode uidKey dataKey =>
    obtain rfl : uidKey = t.key1 := hkey
    refine (Transaction.ends_read mode dataKey hresting₁).mono ?_ ?_
    · intro found c' hend
      obtain ⟨⟨v, hv, hsame⟩, hfound⟩ := hend
      refine ⟨t.memory, v, hv, hsame, .read mode dataKey _ _ fun hneeds => ?_⟩
      obtain ⟨auth, cmac, rfl⟩ := ReadMode.eq_full hneeds
      rw [Transaction.uidFound, if_pos hneeds, ht.uid_eq] at hfound
      rw [Transaction.readResult_eq auth cmac, hfound]
      rfl
    · intro e c' hend
      obtain ⟨⟨v, hv, hsame⟩, hcause⟩ := hend
      refine ⟨t.memory, v, hv, hsame, .read mode dataKey _ _ fun hneeds => ?_⟩
      obtain ⟨auth, cmac, rfl⟩ := ReadMode.eq_full hneeds
      have herror := hcause hsteady₁ ht.sound
      rw [Transaction.uidFound, if_pos hneeds, ht.uid_eq] at herror
      rw [Transaction.readResult_eq auth cmac, herror]
      rfl
  | write payload uidKey dataKey =>
    obtain rfl : uidKey = t.key1 := hkey
    refine (Transaction.ends_write payload dataKey hresting₁).mono ?_ ?_
    · intro found c' hend
      obtain ⟨rfl, area, hencodes, v, hv, hwritten⟩ := hend
      rw [ht.uid_eq] at hencodes ⊢
      have hlen := Transaction.length_splitPages_encoded hencodes
      exact ⟨_, v, hv, hwritten, .write payload dataKey _ _ hencodes.1
        (Transaction.holds_written t.memory hencodes) (Transaction.sameOutside_payload t.memory hlen)⟩
    · intro e c' hend
      obtain ⟨hcause, -⟩ := hend
      obtain ⟨⟨v, hv, hsame⟩, hlarge⟩ := hcause hsteady₁
      exact ⟨t.memory, v, hv, hsame, .refused payload dataKey _ _ (hlarge ht.sound)⟩
  | test uidKey dataKey =>
    obtain rfl : uidKey = t.key1 := hkey
    refine (Transaction.ends_test dataKey hresting₁).mono ?_ ?_
    · intro _ c' hend
      obtain ⟨m, ⟨v, hv, hscratched⟩, hout⟩ := hend
      exact ⟨m, v, hv, hscratched, .test dataKey _ m _ hout⟩
    · intro _ c' hend
      obtain ⟨⟨m, ⟨v, hv, hscratched⟩, hout⟩, -⟩ := hend
      exact ⟨m, v, hv, hscratched, .test dataKey _ m _ hout⟩

/-- **A scan of a tag in the field runs at once and has its effect**, and the
tag stays there as it was issued. -/
theorem effect_start {station : Station ρ} (htag : station.field.tag = some t) (ht : t.Issued) (id : Nat)
    {request : Request} (hkey : request.uidKey = t.key1) :
    ∃ result station' v m, start ⟨station, []⟩ id request = ([⟨id, result⟩], ⟨station', []⟩) ∧
      station'.field.tag = some v ∧ v.settled = Tag.settled { t with memory := m } ∧
      Effect t.uid.toBytes t.key1 request t.memory result m := by
  obtain ⟨uid, contact, hcontact, hfound⟩ := Station.activate_present htag
  obtain ⟨u, hu, hsettled, hidle, hallowance, hgeneration⟩ := Station.resting_contact htag hcontact
  have hresting : Channel.Resting (Channel.new uid contact) t := ⟨rfl, u, hu, hsettled, hidle⟩
  have hsteady : contact.Steady := ⟨hgeneration, u, hu, hallowance.trans ht.allowance_eq⟩
  obtain ⟨m, v, hv, hm, heffect⟩ := effect_run ht hresting hsteady hkey
  refine ⟨_, TagSource.release (Transaction.run uid request contact).2, v, m, ?_, hv, hm, heffect⟩
  unfold start serve
  rw [show TagSource.activate none station = _ from hfound]
  rfl

/-! ### Runs of scans -/

/-- Starts scans one after the other, with consecutive numbers. -/
def scans {φ σ : Type} [FrameLink σ] [TagSource φ σ] (id : Nat) :
    ScanQueue φ → List Request → List Finished × ScanQueue φ
  | q, [] => ([], q)
  | q, request :: rest =>
    let (done, q) := q.start id request
    let (later, q) := scans (id + 1) q rest
    (done ++ later, q)

/-- **Every scan of a run has its effect** on the memory that the scans before
it have left. -/
theorem effects_scans : ∀ (requests : List Request) (id : Nat) {station : Station ρ} {t : Tag},
    station.field.tag = some t → t.Issued → (∀ request ∈ requests, request.uidKey = t.key1) →
    ((scans id ⟨station, []⟩ requests).1.length = requests.length) ∧
      ∃ memory : Nat → Memory, memory 0 = t.memory ∧
        ∀ n request, requests[n]? = some request → ∃ result,
          (scans id ⟨station, []⟩ requests).1[n]? = some ⟨id + n, result⟩ ∧
            Effect t.uid.toBytes t.key1 request (memory n) result (memory (n + 1))
  | [], _, _, t, _, _, _ => by
    refine ⟨rfl, fun _ => t.memory, rfl, ?_⟩
    intro n request h
    cases h
  | request :: rest, id, station, t, htag, ht, hkeys => by
    obtain ⟨result, station', v, m, hstart, hv, hm, heffect⟩ :=
      effect_start htag ht id (hkeys request List.mem_cons_self)
    obtain ⟨hissued, huid, hkey, hmemory⟩ := ht.written heffect.sameOutside hm
    obtain ⟨hlen, memory, hfirst, heffects⟩ := effects_scans rest (id + 1) hv hissued
      fun r hr => (hkeys r (List.mem_cons_of_mem _ hr)).trans hkey.symm
    have hscans : (scans id ⟨station, []⟩ (request :: rest)).1 =
        ⟨id, result⟩ :: (scans (id + 1) ⟨station', []⟩ rest).1 := by
      rw [scans, hstart]
      rfl
    rw [hscans]
    refine ⟨by rw [List.length_cons, hlen, List.length_cons], ?_⟩
    refine ⟨fun n => n.casesOn t.memory memory, rfl, ?_⟩
    intro n r hr
    cases n with
    | zero =>
      cases hr
      refine ⟨result, rfl, ?_⟩
      show Effect t.uid.toBytes t.key1 request t.memory result (memory 0)
      rw [hfirst, hmemory]
      exact heffect
    | succ n =>
      obtain ⟨result', hresult, heffect'⟩ := heffects n r hr
      rw [huid, hkey] at heffect'
      refine ⟨result', ?_, heffect'⟩
      rw [List.getElem?_cons_succ, hresult, Nat.add_right_comm]
      rfl

/-- **The last write wins.** In every run of scans on a tag that stays in the
field, a write succeeds exactly if its payload fits. A read in a session returns
the payload of the last write that succeeded, if both have the same data key or
none, marked verified or unprotected; with a data key it refuses a payload that
was written without one. -/
theorem last_write_wins {station : Station ρ} (htag : station.field.tag = some t) (ht : t.Issued)
    (requests : List Request) (hkeys : ∀ request ∈ requests, request.uidKey = t.key1) :
    let results : List ScanResult :=
      (scans 0 (⟨station, []⟩ : ScanQueue (Station ρ)) requests).1.map (·.result)
    results.length = requests.length ∧
    (∀ (n : Nat) payload key dataKey, requests[n]? = some (.write payload key dataKey) →
      ((∃ found, results[n]? = some (.ok found)) ↔
          payload.length ≤ if dataKey.isSome then 95 else 126) ∧
        ∀ found, results[n]? = some (.ok found) → found = ⟨t.uid.toBytes, none⟩) ∧
    ∀ (i j : Nat) payload key writeKey found mode key' readKey, i < j →
      requests[i]? = some (.write payload key writeKey) → results[i]? = some (.ok found) →
      (∀ (k : Nat) p key d, i < k → k < j → requests[k]? = some (.write p key d) →
        ∀ found, results[k]? ≠ some (.ok found)) →
      requests[j]? = some (.read mode key' readKey) → mode.needsSession = true →
      (readKey = writeKey → results[j]? = some (.ok ⟨t.uid.toBytes,
        some ⟨payload, if writeKey.isSome then .verified else .unprotected⟩⟩)) ∧
      (writeKey = none → readKey ≠ none → results[j]? = some (.error .integrityFailed)) := by
  intro results
  obtain ⟨hlen, memory, -, hscans⟩ := effects_scans requests 0 htag ht hkeys
  have heffects : Effects t.uid.toBytes t.key1 requests results memory := by
    intro n request hn
    obtain ⟨result, hresult, heffect⟩ := hscans n request hn
    exact ⟨result, by rw [List.getElem?_map, hresult]; rfl, heffect⟩
  refine ⟨by rw [List.length_map, hlen], ?_, ?_⟩
  · intro n payload key dataKey hn
    obtain ⟨result, hresult, heffect⟩ := heffects n _ hn
    rw [← PayloadArea.capacity_eq, hresult]
    rcases heffect.write_cases with ⟨rfl, hfits, -⟩ | ⟨⟨e, rfl⟩, hlarge⟩
    · refine ⟨⟨fun _ => hfits, fun _ => ⟨_, rfl⟩⟩, fun found hfound => ?_⟩
      cases hfound
      rfl
    · refine ⟨⟨fun ⟨found, hfound⟩ => ?_, fun hfits => absurd hfits (Nat.not_le.mpr hlarge)⟩, ?_⟩
      · cases hfound
      · intro found hfound
        cases hfound
  · intro i j payload key writeKey found mode key' readKey hij hi hok hbetween hj hneeds
    have hlast : j < requests.length := (List.getElem?_eq_some_iff.mp hj).1
    have hstored := heffects.holds hij (Nat.le_of_lt hlast) hi hok hbetween
    obtain ⟨result, hresult, heffect⟩ := heffects j _ hj
    rw [heffect.read_eq hneeds] at hresult
    constructor
    · intro hsame
      rw [hsame, Transaction.readResult_same hstored] at hresult
      exact hresult
    · intro hplain hkey
      obtain ⟨k, rfl⟩ := Option.ne_none_iff_exists'.mp hkey
      rw [hplain] at hstored
      rw [hresult, Transaction.readResult_plain hstored]

/-- A payload in the clear, read back by the next scan. -/
theorem last_write_wins_plain :
    let t := Tag.new Uid.default
    let station : Station ByteStream := ⟨⟨some t, 1, 0⟩, ⟨[], 0⟩⟩
    let requests : List Request := [.write [1, 2, 3] t.key1 none, .read .secure t.key1 none]
    station.field.tag = some t ∧ t.Issued ∧ (∀ request ∈ requests, request.uidKey = t.key1) ∧
      ((scans 0 (⟨station, []⟩ : ScanQueue (Station ByteStream)) requests).1.map (·.result))[1]? =
        some (.ok ⟨t.uid.toBytes, some ⟨[1, 2, 3], .unprotected⟩⟩) := by
  intro t station requests
  have hkeys : ∀ request ∈ requests, request.uidKey = t.key1 := by
    intro request h
    rcases List.mem_cons.mp h with rfl | h
    · rfl
    · rw [List.mem_singleton.mp h]
      rfl
  have htag : station.field.tag = some t := rfl
  obtain ⟨-, hwrites, hreads⟩ := last_write_wins htag (Tag.issued_new _) requests hkeys
  obtain ⟨found, hfound⟩ := (hwrites 0 [1, 2, 3] t.key1 none rfl).1.mpr (by decide)
  refine ⟨htag, Tag.issued_new _, hkeys, ?_⟩
  exact (hreads 0 1 [1, 2, 3] t.key1 none found .secure t.key1 none (by decide) rfl hfound
    (fun k _ _ _ hlo hhi => by omega) rfl rfl).1 rfl

end

end ScanQueue
end Nearfield
