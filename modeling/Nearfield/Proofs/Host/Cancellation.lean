/-
# Cancelled scans

The wait for a tag can be stopped. That ends the scan that is waiting and no other:
the one that had its turn, looked for a tag and found none (`Waits`). It is cancelled
the next time it is polled, whether a tag has come or not, and no frame is sent for
it. The scans behind it, and those that are started later, go on as if there had been
no stop and it had been given up. A stop at any other time is as if it had not been.

A wait remembers how many stops there had been when it began, so a scan is cancelled
if there are more of them now. What carries the proof is that this number is behind
for exactly those pending scans whose wait was stopped (`stopped_of_since`).

Key definitions: `Host.Waits`, `Host.StoppedWaiting`, `Host.CancelsExactly`.
Key theorems: `Host.waits_iff`, `Host.stoppedWaiting_iff`, `Host.cancelled_iff`,
`Host.cancelled_at_next_poll`, `Host.stop_without_effect`, `Host.stop_beside_others`,
`Host.cancellation_exact`.
-/
import Nearfield.Proofs.Channel.LinkErrors
import Nearfield.Proofs.Host.Stops

namespace Nearfield

variable {ρ : Type} [RandomSource ρ]

namespace Host

/-! ### Waiting scans -/

/-- The event lets this scan look for a tag, and there is none. -/
def FindsNone (h : Host (Station ρ)) (e : Event FieldChange) (id : Nat) : Prop :=
  ∃ p rest, h.Looks e p rest ∧ p.id = id ∧ h.queue.field.field.tag = none

/-- After these events the scan is waiting: it is pending, and it has looked for a tag and
found none. -/
def Waits (h : Host (Station ρ)) (events : List (Event FieldChange)) (id : Nat) : Prop :=
  id ∈ (h.after events).ids ∧
    ∃ before e later, events = before ++ e :: later ∧ (h.after before).FindsNone e id

/-- In the course of these events the scan was stopped while it was waiting. -/
def StoppedWaiting (h : Host (Station ρ)) (events : List (Event FieldChange)) (id : Nat) : Prop :=
  ∃ before later, events = before ++ .cancel :: later ∧ h.Waits before id

theorem stoppedWaiting_snoc {h : Host (Station ρ)} {events : List (Event FieldChange)} {e : Event FieldChange}
    (he : e ≠ .cancel) (id : Nat) : h.StoppedWaiting (events ++ [e]) id ↔ h.StoppedWaiting events id := by
  constructor
  · rintro ⟨before, later, hsplit, hwaits⟩
    rcases List.eq_nil_or_concat later with rfl | ⟨later, e', rfl⟩
    · exact absurd (List.append_inj_right' hsplit rfl) (by simpa using he)
    · rw [List.concat_eq_append, ← List.cons_append, ← List.append_assoc] at hsplit
      exact ⟨before, later, List.append_inj_left' hsplit rfl, hwaits⟩
  · rintro ⟨before, later, rfl, hwaits⟩
    exact ⟨before, later ++ [e], by simp, hwaits⟩

/-- A pending scan that has found no tag remembers it. -/
theorem since_of_looks {h : Host (Station ρ)} (hordered : h.Ordered) {e : Event FieldChange} {p p' : Pending}
    {rest : List Pending} (hlooks : h.Looks e p rest) (hp : p' ∈ (h.step e).2.queue.pending)
    (hid : p'.id = p.id) : p'.since ≠ none := by
  have hlook := ScanQueue.look_serve h.queue.field p
  rw [step_of_looks hlooks] at hp
  rcases List.mem_append.mp hp with hleft | hrest
  · generalize (ScanQueue.serve h.queue.field [p]).1 = done at hlook
    generalize (ScanQueue.serve h.queue.field [p]).2.field = field at hlook
    generalize (ScanQueue.serve h.queue.field [p]).2.pending = left at hlook hleft
    cases hlook with
    | served uid link hfound => cases hleft
    | cancelled hcancelled => cases hleft
    | waiting since hwaiting =>
      rw [List.mem_singleton.mp hleft]
      simp
  · cases hlooks with
    | begun operation request hrequest hfree => cases hrest
    | polled _ _ hfirst =>
      have hrising := hordered.rising
      rw [ids, hfirst, List.map_cons, List.pairwise_cons] at hrising
      have hlt := hrising.1 p'.id (List.mem_map_of_mem hrest)
      omega

/-- A scan that has not looked for a tag after some events had not done so before. -/
theorem mem_of_since_eq_none {h : Host (Station ρ)} {events : List (Event FieldChange)} {p : Pending}
    (hp : p ∈ (h.after events).queue.pending) (hnone : p.since = none) (hold : p.id < h.nextId) :
    p ∈ h.queue.pending := by
  induction events generalizing h with
  | nil => exact hp
  | cons e events ih =>
    have hmem := ih hp (by rw [nextId_step]; omega)
    rcases mem_pending_step hmem with hmem | ⟨operation, request, -, -, rfl⟩ | ⟨q, rest, since, -, -, rfl⟩
    · exact hmem
    · exact absurd hold (Nat.lt_irrefl _)
    · cases hnone

section
variable {h : Host (Station ρ)} (hordered : h.Ordered) (hfree : h.queue.pending = [])
  {events : List (Event FieldChange)}
include hordered hfree

/-- **The scans that wait are those that remember since when.** -/
theorem waits_iff (id : Nat) :
    h.Waits events id ↔ ∃ p ∈ (h.after events).queue.pending, p.id = id ∧ p.since ≠ none := by
  constructor
  · rintro ⟨hid, before, e, later, rfl, p, rest, hlooks, rfl, -⟩
    obtain ⟨p', hp', hsame⟩ := List.mem_map.mp hid
    refine ⟨p', hp', hsame, fun hnone => ?_⟩
    have hbefore := hordered.after before
    have hlt : p.id < (h.after before).nextId + e.scans := by
      rcases hlooks.origin with hp | ⟨operation, request, rfl, -, rfl⟩
      · exact Nat.lt_add_right _ (hbefore.lt_nextId p.id (List.mem_map_of_mem hp))
      · exact Nat.lt_succ_self _
    rw [after_append, after_cons] at hp'
    have hmem := mem_of_since_eq_none hp' hnone (by rw [nextId_step, hsame]; exact hlt)
    exact since_of_looks hbefore hlooks hmem hsame hnone
  · rintro ⟨p, hp, rfl, hsince⟩
    refine ⟨List.mem_map_of_mem hp, ?_⟩
    induction events using List.reverseRecOn generalizing p with
    | nil =>
      change p ∈ h.queue.pending at hp
      rw [hfree] at hp
      cases hp
    | append_singleton events e ih =>
      rw [after_snoc] at hp
      rcases mem_pending_step hp with hold | ⟨operation, request, -, -, rfl⟩ |
        ⟨q, rest, k, hlooks, hwaiting, rfl⟩
      · obtain ⟨before, e', later, rfl, hfinds⟩ := ih p hold hsince
        exact ⟨before, e', later ++ [e], by simp, hfinds⟩
      · exact absurd rfl hsince
      · exact ⟨events, e, [], rfl, q, rest, hlooks, rfl, (Station.activate_eq_waiting hwaiting).1⟩

/-- A scan that has not looked for a tag was never stopped. -/
theorem not_stoppedWaiting {e : Event FieldChange} {p : Pending} {rest : List Pending}
    (hlooks : (h.after events).Looks e p rest) (hnone : p.since = none) : ¬ h.StoppedWaiting events p.id := by
  rintro ⟨before, later, rfl, hwaits⟩
  obtain ⟨q, hq, hid, hsince⟩ := (waits_iff hordered hfree p.id).mp hwaits
  have hbefore := hordered.after before
  have hold : p.id < (h.after before).nextId := hid ▸ hbefore.lt_nextId q.id (List.mem_map_of_mem hq)
  rcases hlooks.origin with hp | ⟨operation, request, -, -, rfl⟩
  · rw [after_append] at hp
    have hmem := mem_of_since_eq_none hp hnone hold
    rw [hbefore.eq_of_id hq hmem hid] at hsince
    exact hsince hnone
  · have hnext : (h.after (before ++ .cancel :: later)).nextId < (h.after before).nextId := hold
    rw [after_append, nextId_after] at hnext
    omega

/-- **A pending scan is behind with its stops exactly if it was stopped while it was
waiting.** -/
theorem stopped_of_since {p : Pending} (hp : p ∈ (h.after events).queue.pending) {k : Nat}
    (hsince : p.since = some k) :
    k ≤ (h.after events).cancels ∧ (k < (h.after events).cancels ↔ h.StoppedWaiting events p.id) := by
  induction events using List.reverseRecOn generalizing p k with
  | nil =>
    change p ∈ h.queue.pending at hp
    rw [hfree] at hp
    cases hp
  | append_singleton events e ih =>
    rw [after_snoc] at hp ⊢
    rcases mem_pending_step hp with hold | ⟨operation, request, -, -, rfl⟩ |
      ⟨q, rest, j, hlooks, hwaiting, rfl⟩
    · obtain ⟨hle, hiff⟩ := ih hold hsince
      by_cases he : e = .cancel
      · -- this stop is one while the scan is waiting
        have hmore : ((h.after events).step e).2.cancels = (h.after events).cancels + 1 := by
          rw [he]
          rfl
        have hwaits : h.Waits events p.id :=
          (waits_iff hordered hfree p.id).mpr ⟨p, hold, rfl, by simp [hsince]⟩
        have hnow : h.StoppedWaiting (events ++ [e]) p.id := ⟨events, [], by rw [he], hwaits⟩
        exact ⟨by omega, by simp only [hnow, iff_true]; omega⟩
      · rw [cancels_step _ he, stoppedWaiting_snoc he]
        exact ⟨hle, hiff⟩
    · cases hsince
    · -- the scan has just looked for a tag: it has seen all stops so far
      obtain ⟨-, hj, hseen⟩ := Station.activate_eq_waiting hwaiting
      have he : e ≠ .cancel := by
        rintro rfl
        cases hlooks
      have hk : k = (h.after events).cancels := (Option.some.inj hsince).symm.trans hj
      rw [cancels_step _ he, stoppedWaiting_snoc he, hk]
      refine ⟨Nat.le_refl _, iff_of_false (Nat.lt_irrefl _) ?_⟩
      show ¬ h.StoppedWaiting events q.id
      cases hq : q.since with
      | none => exact not_stoppedWaiting hordered hfree hlooks hq
      | some i =>
        rw [hq, Option.getD_some] at hseen
        rcases hlooks.origin with hmem | ⟨operation, request, -, -, rfl⟩
        · have hiff := (ih hmem hq).2
          have hi : i = (h.after events).cancels := hseen
          exact fun hstopped => absurd (hiff.mpr hstopped) (by omega)
        · cases hq

/-- What a scan that looks for a tag remembers of its stops. -/
theorem stoppedWaiting_iff {e : Event FieldChange} {p : Pending} {rest : List Pending}
    (hlooks : (h.after events).Looks e p rest) :
    h.StoppedWaiting events p.id ↔ ∃ k, p.since = some k ∧ (h.after events).cancels ≠ k := by
  cases hp : p.since with
  | none => simpa using not_stoppedWaiting hordered hfree hlooks hp
  | some k =>
    rcases hlooks.origin with hmem | ⟨operation, request, -, -, rfl⟩
    · obtain ⟨hle, hiff⟩ := stopped_of_since hordered hfree hmem hp
      rw [← hiff]
      simp only [Option.some.injEq, exists_eq_left']
      omega
    · cases hp

/-! ### Who is cancelled, and when -/

/-- **A scan that finishes is cancelled exactly if it was stopped while it was waiting.** -/
theorem cancelled_iff {e : Event FieldChange} {f : Finished} (hf : f ∈ ((h.after events).step e).1) :
    f.result = .error (.link .cancelled) ↔ h.StoppedWaiting events f.id := by
  have hmoves := (h.after events).moves_step e
  generalize ((h.after events).step e).1 = done at hmoves hf
  generalize ((h.after events).step e).2 = h' at hmoves
  cases hmoves with
  | looked _ p rest _ field left hlooks hlook =>
    have hstopped := stoppedWaiting_iff hordered hfree hlooks
    cases hlook with
    | served uid link hfound =>
      obtain ⟨-, hseen⟩ := Station.activate_eq_found hfound
      rw [List.mem_singleton.mp hf]
      dsimp only
      rw [hstopped]
      refine iff_of_false (Contact.run_ne_cancelled uid p.request link) ?_
      rintro ⟨k, hk, hne⟩
      rw [hk, Option.getD_some] at hseen
      exact hne hseen.symm
    | cancelled hcancelled =>
      rw [List.mem_singleton.mp hf]
      exact iff_of_true rfl (hstopped.mpr (Station.activate_eq_cancelled.mp hcancelled))
    | waiting since hwaiting => cases hf
  | queued operation request hrequest hbusy => cases hf
  | refused operation failure hrequest => cases hf
  | passed id hother => cases hf
  | dropped id => cases hf
  | stopped => cases hf
  | updated update => cases hf
  | changed c => cases hf

end

theorem pending_of_others {h : Host (Station ρ)} {p : Pending} {rest : List Pending}
    (hfirst : h.queue.pending = p :: rest) (events : List (Event FieldChange))
    (hother : ∀ e ∈ events, e ≠ .poll p.id ∧ e ≠ .drop p.id) :
    (∃ rest', (h.after events).queue.pending = p :: rest') ∧ h.cancels ≤ (h.after events).cancels := by
  induction events generalizing h rest with
  | nil => exact ⟨⟨rest, hfirst⟩, Nat.le_refl _⟩
  | cons e events ih =>
    obtain ⟨⟨hpoll, hdrop⟩, hrest⟩ := List.forall_mem_cons.mp hother
    obtain ⟨rest', hfirst'⟩ := pending_of_other hfirst hpoll hdrop
    obtain ⟨hpending, hle⟩ := ih hfirst' hrest
    exact ⟨hpending, (h.cancels_le_step e).trans hle⟩

section
variable {h : Host (Station ρ)} (hordered : h.Ordered) (hfree : h.queue.pending = [])
  {before : List (Event FieldChange)}

include hordered hfree

/-- A scan that waits is in front of all others. -/
theorem first_of_waits {id : Nat} (hwaits : h.Waits before id) :
    ∃ p rest k, (h.after before).queue.pending = p :: rest ∧ p.id = id ∧ p.since = some k ∧
      k ≤ (h.after before).cancels := by
  obtain ⟨p, hp, hid, hsince⟩ := (waits_iff hordered hfree id).mp hwaits
  obtain ⟨k, hk⟩ := Option.ne_none_iff_exists'.mp hsince
  obtain ⟨hle, -⟩ := stopped_of_since hordered hfree hp hk
  have hone := (oneWaits_of_free hfree).after before
  cases hpending : (h.after before).queue.pending with
  | nil =>
    rw [hpending] at hp
    cases hp
  | cons q rest =>
    rw [hpending] at hp
    rcases List.mem_cons.mp hp with rfl | hrest
    · exact ⟨p, rest, k, rfl, hid, hk, hle⟩
    · exact absurd (hone p (by rw [hpending]; exact hrest)) hsince

/-- **A scan that was stopped is cancelled at its next poll**, whatever has come since. -/
theorem cancelled_at_next_poll {later : List (Event FieldChange)} {id : Nat} (hwaits : h.Waits before id)
    (hother : ∀ e ∈ later, e ≠ .poll id ∧ e ≠ .drop id) :
    ((h.after (before ++ .cancel :: later)).step (.poll id)).1 = [⟨id, .error (.link .cancelled)⟩] := by
  obtain ⟨p, rest, k, hfirst, rfl, hk, hle⟩ := first_of_waits hordered hfree hwaits
  have hstopped : ((h.after before).step .cancel).2.queue.pending = p :: rest := hfirst
  have hmore : ((h.after before).step .cancel).2.cancels = (h.after before).cancels + 1 := rfl
  obtain ⟨⟨rest', hpending⟩, hcancels⟩ := pending_of_others hstopped later hother
  have hnow := ((hordered.after before).step .cancel).after later
  rw [after_append, after_cons]
  generalize ((h.after before).step .cancel).2.after later = h' at hpending hcancels hnow
  have hbehind : TagSource.activate p.since h'.queue.field = .cancelled := by
    refine Station.activate_eq_cancelled.mpr ⟨k, hk, ?_⟩
    show h'.cancels ≠ k
    omega
  rw [step_poll_cancelled hnow hpending hbehind]

end

/-- No frame is sent for a scan that is cancelled. -/
theorem journal_of_cancelled {h : Host (Station ρ)} {events : List (Event FieldChange)} {e : Event FieldChange}
    (hcancelled : ∀ f ∈ ((h.after events).step e).1, f.result = .error (.link .cancelled)) :
    h.journal (events ++ [e]) = h.journal events := by
  obtain ⟨services, hdone, hseen, hserves⟩ := serves_step (h.watched.after events) e
  have hsame : ((h.watched.after events).step e).1 = ((h.after events).step e).1 := by
    rw [← h.forget_after, Watched.forget.step_map]
  have hnothing : services.flatMap Service.seen = [] := by
    refine List.flatMap_eq_nil_iff.mpr fun s hs => ?_
    have hresult := hcancelled s.finished (by rw [← hsame, hdone]; exact List.mem_map_of_mem hs)
    cases hserves s hs with
    | cancelled p rest hlooks hcancelled => rfl
    | ran p rest uid link hlooks hfound => exact absurd hresult (Contact.run_ne_cancelled uid p.request link)
  show (h.watched.after (events ++ [e])).seen = (h.watched.after events).seen
  rw [after_snoc, hseen, hnothing, List.append_nil]

/-! ### Whom a stop does not hit -/

section
variable {h : Host (Station ρ)} (hordered : h.Ordered) (hfree : h.queue.pending = [])
  {before : List (Event FieldChange)}
include hordered hfree

/-- **A stop that hits nobody changes nothing**: not what finishes later, no frame, and no
pending scan. -/
theorem stop_without_effect (hidle : ∀ id, ¬ h.Waits before id) (later : List (Event FieldChange)) :
    h.finished (before ++ .cancel :: later) = h.finished (before ++ later) ∧
      h.journal (before ++ .cancel :: later) = h.journal (before ++ later) ∧
      (h.after (before ++ .cancel :: later)).scans = (h.after (before ++ later)).scans := by
  have hnone : ∀ p ∈ (h.watched.after before).queue.pending, p.since = none := by
    intro p hp
    rw [pending_watched] at hp
    by_contra hsince
    exact hidle p.id ((waits_iff hordered hfree p.id).mpr ⟨p, hp, rfl, hsince⟩)
  have hplain := step_cancel_eq_map Station.later.watched (fun _ => rfl) (h.watched.after before) hnone
  refine ⟨?_, ?_, ?_⟩
  · rw [← h.finished_watched, ← h.finished_watched (before ++ later), finished_append, finished_append, finished,
      hplain, Station.later.watched.finished_map]
    rfl
  · unfold journal
    rw [after_append, after_append, after_cons, hplain, Station.later.watched.after_map]
    rfl
  · rw [← h.scans_watched, ← h.scans_watched (before ++ later), after_append, after_append, after_cons, hplain,
      Station.later.watched.after_map, scans_map]

/-- **A stop that hits one scan changes nothing for the others.** They finish, are served and
stay pending as if there had been no stop and the scan that it hits were given up where it is
polled next. -/
theorem stop_beside_others {id : Nat} (hwaits : h.Waits before id) (later : List (Event FieldChange)) :
    (h.finished (before ++ .cancel :: later)).filter (fun f => f.id ≠ id) =
        h.finished (before ++ later.map (Event.givingUp id)) ∧
      h.journal (before ++ .cancel :: later) = h.journal (before ++ later.map (Event.givingUp id)) ∧
      (h.after (before ++ .cancel :: later)).scans =
        (h.after (before ++ later.map (Event.givingUp id))).scans := by
  obtain ⟨p, rest, k, hfirst, hid, hsince, hseen⟩ := first_of_waits hordered hfree hwaits
  have hapart : OneStopApart id ((h.watched.after before).step .cancel).2 (h.watched.after before) := by
    have hwatched : h.watched.Ordered := ⟨hordered.rising, hordered.lt_nextId⟩
    have hfree' : h.watched.queue.pending = [] := hfree
    refine .unnoticed _ p rest k ?_ hid hsince ?_ (hwatched.after before) ((oneWaits_of_free hfree').after before)
    · rw [pending_watched, hfirst]
    · rw [forget_after]
      exact hseen
  have hearlier : (h.finished before).filter (fun f => f.id ≠ id) = h.finished before :=
    List.filter_eq_self.mpr fun f hf => decide_eq_true (Nat.ne_of_lt (hordered.finished_lt hf hwaits.1))
  obtain ⟨hfinished, hafter⟩ := hapart.run later
  refine ⟨?_, ?_, ?_⟩
  · rw [← h.finished_watched, ← h.finished_watched (before ++ _), finished_append, finished_append,
      List.filter_append, h.finished_watched before, hearlier, ← hfinished]
    rfl
  · unfold journal
    rw [after_append, after_append, after_cons]
    exact hafter.seen_eq
  · rw [← h.scans_watched, ← h.scans_watched (before ++ _), after_append, after_append, after_cons]
    exact hafter.scans_eq

end

/-! ### All together -/

/-- A stop of the wait for a tag hits exactly the scan that is waiting. -/
structure CancelsExactly (h : Host (Station ρ)) : Prop where
  cancelled_iff (events : List (Event FieldChange)) (e : Event FieldChange) (f : Finished)
    (hf : f ∈ ((h.after events).step e).1) :
    f.result = .error (.link .cancelled) ↔ h.StoppedWaiting events f.id
  /-- It is cancelled at its next poll, with a tag in the field or without, and sends no frame. -/
  at_next_poll (before later : List (Event FieldChange)) (id : Nat) (hwaits : h.Waits before id)
    (hother : ∀ e ∈ later, e ≠ .poll id ∧ e ≠ .drop id) :
    ((h.after (before ++ .cancel :: later)).step (.poll id)).1 = [⟨id, .error (.link .cancelled)⟩] ∧
      h.journal (before ++ .cancel :: later ++ [.poll id]) = h.journal (before ++ .cancel :: later)
  /-- Scans behind it, and later ones, go on as if there had been no stop and it were given up
  where it is polled next: the same scans finish in the same way, with the same frames, and the
  same ones are pending, with what they ask for and in the same order. -/
  beside_others (before later : List (Event FieldChange)) (id : Nat) (hwaits : h.Waits before id) :
    (h.finished (before ++ .cancel :: later)).filter (fun f => f.id ≠ id) =
        h.finished (before ++ later.map (Event.givingUp id)) ∧
      h.journal (before ++ .cancel :: later) = h.journal (before ++ later.map (Event.givingUp id)) ∧
      (h.after (before ++ .cancel :: later)).scans =
        (h.after (before ++ later.map (Event.givingUp id))).scans
  /-- With nobody waiting, all goes on as without the stop. -/
  without_effect (before later : List (Event FieldChange)) (hidle : ∀ id, ¬ h.Waits before id) :
    h.finished (before ++ .cancel :: later) = h.finished (before ++ later) ∧
      h.journal (before ++ .cancel :: later) = h.journal (before ++ later) ∧
      (h.after (before ++ .cancel :: later)).scans = (h.after (before ++ later)).scans

/-- **A stop hits exactly the scan that is waiting for a tag**, over any run of events. -/
theorem cancellation_exact (station : Station ρ) (keys : Keyring) (config : EngineConfig) :
    (new station keys config).CancelsExactly := by
  have hordered : (new station keys config).Ordered := ordered_new station keys config
  have hfree : (new station keys config).queue.pending = [] := rfl
  refine ⟨fun events e f hf => cancelled_iff hordered hfree hf, ?_, ?_, ?_⟩
  · intro before later id hwaits hother
    have hdone := cancelled_at_next_poll hordered hfree hwaits hother
    refine ⟨hdone, journal_of_cancelled ?_⟩
    rw [hdone]
    exact List.forall_mem_singleton.mpr rfl
  · intro before later id hwaits
    exact stop_beside_others hordered hfree hwaits later
  · intro before later hidle
    exact stop_without_effect hordered hfree hidle later

/-- A stop during the wait and the same stop before it. A scan behind the one that waits
gets its turn. -/
example (rng : ByteStream) :
    let h := new (⟨Field.empty, rng⟩ : Station ByteStream) ⟨⟨some Block.zero, none⟩⟩ .default
    h.finished [.scan .read, .cancel, .poll 0] = [⟨0, .error (.link .cancelled)⟩] ∧
      h.finished [.cancel, .scan .read, .poll 0] = [] ∧
      (h.after [.scan .read, .scan .read, .cancel, .poll 0, .poll 1]).ids = [1] := ⟨rfl, rfl, rfl⟩

end Host
end Nearfield
