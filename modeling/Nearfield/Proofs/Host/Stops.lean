/-
# One stop more

A stop of the wait for a tag sends nothing and moves no scan; all that it does is to
raise the number of stops. A wait compares that number with what it was when it began,
so a host on which no scan has begun to wait goes on as if it had not been stopped,
with the moments of later waits one higher (`Host.step_cancel_eq_map`).

If a scan waits, every event but a poll of that scan does the same before the stop as
behind it (`Host.step_cancel_comm`), and its poll leaves what is left when the scan is
given up (`Host.step_poll_cancelled`). So two hosts of which the one has been stopped
go on side by side, with the waiting scan given up on the other one where it would be
polled (`Host.OneStopApart`): but for that scan, the same scans finish in the same way,
the field sees the same, and the same scans are pending.

Key definitions: `Station.later`, `Event.givingUp`, `Host.scans`, `Host.OneStopApart`.
Key theorems: `Host.step_cancel_eq_map`, `Host.step_cancel_comm`,
`Host.step_poll_cancelled`, `Host.OneStopApart.step`, `Host.OneStopApart.run`.
-/
import Nearfield.Proofs.Host.Serialised

namespace Nearfield

variable {ρ : Type} [RandomSource ρ]

/-! ### Stops of a station -/

/-- The contact with another number of stops. -/
def Contact.recounted (g : Nat → Nat) (c : Contact ρ) : Contact ρ :=
  { c with field := { c.field with cancels := g c.field.cancels } }

theorem Contact.exchange_recounted (g : Nat → Nat) (frame : Bytes) (c : Contact ρ) :
    (c.recounted g).exchange frame = ((c.exchange frame).1, (c.exchange frame).2.recounted g) := by
  obtain ⟨⟨tag, arrivals, cancels⟩, generation, rng⟩ := c
  rw [Contact.exchange_eq, Contact.exchange_eq]
  unfold recounted
  cases tag with
  | none => rfl
  | some t =>
    dsimp only
    split <;> rfl

/-- No frame looks at the number of stops. -/
def Contact.recount (g : Nat → Nat) : LinkMap (Contact ρ) (Contact ρ) where
  map := recounted g
  nextByte_map _ := rfl
  exchange_map := exchange_recounted g

/-- A transaction stops no wait. -/
theorem Contact.cancels_run (uid : Bytes) (request : Request) (c : Contact ρ) :
    (Transaction.run uid request c).2.field.cancels = c.field.cancels := by
  have hrun := Transaction.run_map (Contact.recount fun _ => c.field.cancels) uid request c
  have hsame : (Contact.recount fun _ => c.field.cancels).map c = c := rfl
  rw [hsame] at hrun
  have hlink := congrArg (fun x => x.2.field.cancels) hrun
  exact hlink

theorem FieldChange.cancels_apply (change : FieldChange) (f : Field) : (change.apply f).cancels = f.cancels := by
  cases change with
  | arrival t => rfl
  | removal =>
    show f.remove.cancels = _
    unfold Field.remove
    split <;> rfl

namespace Station
variable {s : Station ρ} {since : Option Nat}

theorem tag_of_contact?_eq_none (h : s.contact? = none) : s.field.tag = none := Option.map_eq_none_iff.mp h

theorem cancels_of_contact? {uid : Bytes} {c : Contact ρ} (h : s.contact? = some (uid, c)) :
    c.field.cancels = s.field.cancels := by
  obtain ⟨t, -, hcontact⟩ := Option.map_eq_some_iff.mp h
  cases hcontact
  rfl

/-- A look for a tag: a stop since the wait began comes first, then a tag, and otherwise the
scan remembers the stops so far. -/
theorem activate_cases (since : Option Nat) (s : Station ρ) :
    (∃ k, since = some k ∧ s.field.cancels ≠ k ∧ Station.activate since s = .cancelled) ∨
      since.getD s.field.cancels = s.field.cancels ∧
        ((∃ uid c, Station.activate since s = .found uid c ∧ c.field.cancels = s.field.cancels) ∨
          s.field.tag = none ∧ Station.activate since s = .waiting s.field.cancels) := by
  unfold Station.activate
  by_cases hstopped : since.getD s.field.cancels = s.field.cancels
  · refine Or.inr ⟨hstopped, ?_⟩
    rcases hcontact : s.contact? with _ | ⟨uid, c⟩
    · exact Or.inr ⟨tag_of_contact?_eq_none hcontact, by simp [hstopped]⟩
    · exact Or.inl ⟨uid, c, by simp [hstopped], cancels_of_contact? hcontact⟩
  · cases since with
    | none => exact absurd rfl hstopped
    | some k => exact Or.inl ⟨k, rfl, Ne.symm hstopped, if_pos (Ne.symm hstopped)⟩

theorem activate_eq_cancelled :
    TagSource.activate since s = .cancelled ↔ ∃ k, since = some k ∧ s.field.cancels ≠ k := by
  show Station.activate since s = .cancelled ↔ _
  rcases activate_cases since s with ⟨k, hk, hne, h⟩ | ⟨hseen, ⟨uid, c, h, -⟩ | ⟨-, h⟩⟩
  · exact iff_of_true h ⟨k, hk, hne⟩
  all_goals
    rw [h]
    refine iff_of_false (by simp) ?_
    rintro ⟨k, rfl, hne⟩
    exact hne hseen.symm

theorem activate_eq_waiting {k : Nat} (h : TagSource.activate since s = .waiting k) :
    s.field.tag = none ∧ k = s.field.cancels ∧ since.getD s.field.cancels = s.field.cancels := by
  rcases activate_cases since s with ⟨_, -, -, h'⟩ | ⟨hseen, ⟨_, _, h', -⟩ | ⟨htag, h'⟩⟩
  · cases h'.symm.trans h
  · cases h'.symm.trans h
  · cases h'.symm.trans h
    exact ⟨htag, rfl, hseen⟩

theorem activate_eq_found {uid : Bytes} {c : Contact ρ} (h : TagSource.activate since s = .found uid c) :
    c.field.cancels = s.field.cancels ∧ since.getD s.field.cancels = s.field.cancels := by
  rcases activate_cases since s with ⟨_, -, -, h'⟩ | ⟨hseen, ⟨_, _, h', hcancels⟩ | ⟨-, h'⟩⟩
  · cases h'.symm.trans h
  · cases h'.symm.trans h
    exact ⟨hcancels, hseen⟩
  · cases h'.symm.trans h

/-- After one more stop a wait that begins one stop later finds the same. -/
theorem activate_stopListening (since : Option Nat) (s : Station ρ) :
    Station.activate (since.map (· + 1)) { s with field := s.field.stopListening } =
      (Station.activate since s).map (Contact.recounted (· + 1)) (· + 1) := by
  obtain ⟨⟨tag, generation, cancels⟩, rng⟩ := s
  cases since with
  | none => cases tag <;> simp [Station.activate, contact?, Field.stopListening, Activation.map, Contact.recounted]
  | some k =>
    by_cases h : cancels = k
    · cases tag <;>
        simp [Station.activate, contact?, Field.stopListening, Activation.map, Contact.recounted, h]
    · simp [Station.activate, Field.stopListening, Activation.map, h]

/-- The station after one more stop, with every wait begun one stop later. -/
def later : FieldMap (Station ρ) (Station ρ) where
  link := Contact.recount (· + 1)
  map s := { s with field := s.field.stopListening }
  moment := (· + 1)
  activate_map := activate_stopListening
  release_map _ := rfl
  stop_map _ := rfl
  change_map c s := by
    show Station.mk (c.apply s.field.stopListening) _ = Station.mk (c.apply s.field).stopListening _
    cases c with
    | arrival t => rfl
    | removal =>
      simp only [FieldChange.apply, Field.remove, Field.stopListening]
      split <;> rfl

end Station

/-- The event, with the scan given up in place of a poll of it. -/
def Event.givingUp {χ : Type} (id : Nat) : Event χ → Event χ
  | .poll id' => if id' = id then .drop id' else .poll id'
  | e => e

theorem Event.givingUp_poll {χ : Type} (id : Nat) : (.poll id : Event χ).givingUp id = .drop id := if_pos rfl

theorem Event.givingUp_of_ne {χ : Type} {id : Nat} {e : Event χ} (h : e ≠ .poll id) : e.givingUp id = e := by
  cases e with
  | poll id' => exact if_neg fun hid => h (by rw [hid])
  | _ => rfl

namespace Host

/-- The number of stops so far. -/
def cancels (h : Host (Station ρ)) : Nat := h.queue.field.field.cancels

theorem cancels_look {s s' : Station ρ} {p : Pending} {done : List Finished} {left : List Pending}
    (h : ScanQueue.Look s p done s' left) : s'.field.cancels = s.field.cancels := by
  cases h with
  | served uid link hfound =>
    show (Transaction.run uid p.request link).2.field.cancels = _
    rw [Contact.cancels_run, (Station.activate_eq_found hfound).1]
  | cancelled hcancelled => rfl
  | waiting since hwaiting => rfl

theorem cancels_step (h : Host (Station ρ)) {e : Event FieldChange} (he : e ≠ .cancel) :
    (h.step e).2.cancels = h.cancels := by
  have hmoves := h.moves_step e
  generalize (h.step e).1 = done at hmoves
  generalize (h.step e).2 = h' at hmoves ⊢
  cases hmoves with
  | looked _ p rest _ field left hlooks hlook => exact cancels_look hlook
  | queued operation request hrequest hbusy => rfl
  | refused operation failure hrequest => rfl
  | passed id hother => rfl
  | dropped id => rfl
  | stopped => exact absurd rfl he
  | updated update => rfl
  | changed c => exact c.cancels_apply _

theorem cancels_le_step (h : Host (Station ρ)) (e : Event FieldChange) : h.cancels ≤ (h.step e).2.cancels := by
  by_cases he : e = .cancel
  · rw [he]
    exact Nat.le_succ _
  · rw [h.cancels_step he]

/-! ### A stop beside the other events -/

section
variable {φ σ χ : Type} [FrameLink σ] [TagSource φ σ] [Changeable φ χ] {h : Host φ} {p : Pending}
  {rest : List Pending}

omit [FrameLink σ] [TagSource φ σ] [Changeable φ χ] in
/-- Only its own poll lets the first scan look for a tag, and no other one looks before it. -/
theorem not_looks_of_other (hfirst : h.queue.pending = p :: rest) {e : Event χ} (hpoll : e ≠ .poll p.id)
    (q : Pending) (rest' : List Pending) : ¬ h.Looks e q rest' := by
  intro hlooks
  cases hlooks with
  | begun operation request hrequest hfree =>
    rw [hfirst] at hfree
    cases hfree
  | polled _ _ hfirst' =>
    rw [hfirst] at hfirst'
    cases hfirst'
    exact hpoll rfl

/-- No scan finishes while the first one waits to be polled. -/
theorem done_of_other (hfirst : h.queue.pending = p :: rest) {e : Event χ} (hpoll : e ≠ .poll p.id) :
    (h.step e).1 = [] := by
  have hmoves := h.moves_step e
  generalize (h.step e).1 = done at hmoves ⊢
  generalize (h.step e).2 = h' at hmoves
  cases hmoves with
  | looked _ q rest' _ field left hlooks hlook => exact absurd hlooks (not_looks_of_other hfirst hpoll q rest')
  | _ => rfl

/-- The first scan stays the first one until it is polled or given up. -/
theorem pending_of_other (hfirst : h.queue.pending = p :: rest) {e : Event χ} (hpoll : e ≠ .poll p.id)
    (hdrop : e ≠ .drop p.id) : ∃ rest', (h.step e).2.queue.pending = p :: rest' := by
  have hmoves := h.moves_step e
  generalize (h.step e).1 = done at hmoves
  generalize (h.step e).2 = h' at hmoves ⊢
  cases hmoves with
  | looked _ q rest' _ field left hlooks hlook => exact absurd hlooks (not_looks_of_other hfirst hpoll q rest')
  | queued operation request hrequest hbusy => exact ⟨_, by rw [hfirst]; rfl⟩
  | refused operation failure hrequest => exact ⟨rest, hfirst⟩
  | passed id hother => exact ⟨rest, hfirst⟩
  | dropped id =>
    have hne : p.id ≠ id := fun hid => hdrop (by rw [hid])
    refine ⟨rest.filter fun q => q.id ≠ id, ?_⟩
    show h.queue.pending.filter _ = _
    rw [hfirst, List.filter_cons_of_pos (by simpa using hne)]
  | stopped => exact ⟨rest, hfirst⟩
  | updated update => exact ⟨rest, hfirst⟩
  | changed c => exact ⟨rest, hfirst⟩

/-- **A scan that its poll finds cancelled** leaves what one leaves that is given up. -/
theorem step_poll_cancelled (hordered : h.Ordered) (hfirst : h.queue.pending = p :: rest)
    (hcancelled : TagSource.activate p.since h.queue.field = .cancelled) :
    h.step (.poll p.id : Event χ) = ([⟨p.id, .error (.link .cancelled)⟩], (h.step (.drop p.id : Event χ)).2) := by
  have hrising := hordered.rising
  rw [ids, hfirst, List.map_cons, List.pairwise_cons] at hrising
  have hothers : ∀ q ∈ rest, q.id ≠ p.id := fun q hq => Nat.ne_of_gt (hrising.1 q.id (List.mem_map_of_mem hq))
  have hdrop : h.queue.drop p.id = ⟨h.queue.field, rest⟩ := by
    rw [← ScanQueue.drop_eq_self (t := ⟨h.queue.field, rest⟩) hothers]
    unfold ScanQueue.drop
    rw [hfirst, List.filter_cons_of_neg (by simp)]
  rw [step_of_looks (.polled p rest hfirst)]
  simp only [step, hdrop, ScanQueue.serve, hcancelled, List.nil_append]
  rfl

-- on a station a stop is one of the maps that go along with all that a host does
variable (f : FieldMap φ φ) (hstop : ∀ field, TagSource.stopListening field = f.map field)
include hstop

/-- With nobody waiting, a stop only moves the moments of later waits. -/
theorem step_cancel_eq_map (h : Host φ) (hidle : ∀ p ∈ h.queue.pending, p.since = none) :
    (h.step (.cancel : Event χ)).2 = h.map f := by
  have hpending : h.queue.pending.map f.pending = h.queue.pending := by
    refine (List.map_congr_left fun p hp => ?_).trans (List.map_id _)
    show { p with since := p.since.map f.moment } = p
    rw [hidle p hp, Option.map_none, ← hidle p hp]
  show { h with queue := ⟨TagSource.stopListening h.queue.field, h.queue.pending⟩ } = h.map f
  rw [hstop]
  simp only [Host.map, FieldMap.queue, hpending]

/-- **Only the poll of the first scan sees a stop.** Any other event does the same before
the stop and behind it. -/
theorem step_cancel_comm (hfirst : h.queue.pending = p :: rest) {e : Event χ} (hpoll : e ≠ .poll p.id) :
    (h.step (.cancel : Event χ)).2.step e = ((h.step e).1, ((h.step e).2.step (.cancel : Event χ)).2) := by
  cases e with
  | scan operation =>
    cases hrequest : operation.request h.config h.keys.current with
    | error failure => simp only [step, hrequest]
    | ok request => simp only [step, hrequest, ScanQueue.start, ScanQueue.cancel, hfirst]
  | poll id =>
    have hother : ∀ q ∈ h.queue.pending.head?, q.id ≠ id := by
      intro q hq hid
      rw [hfirst, List.head?_cons] at hq
      cases hq
      exact hpoll (by rw [hid])
    have hother' : ∀ q ∈ h.queue.cancel.pending.head?, q.id ≠ id := hother
    simp only [step, ScanQueue.pollScan_other hother, ScanQueue.pollScan_other hother']
  | drop id => rfl
  | cancel => rfl
  | updateKeys update => rfl
  | change c => simp only [step, ScanQueue.cancel, hstop, f.change_map]

end

/-! ### With the stop and without it -/

/-- The pending scans and what they ask for, in their order. -/
def scans {φ : Type} (h : Host φ) : List (Nat × Request) := h.queue.pending.map fun p => (p.id, p.request)

section
variable {φ σ χ : Type} [FrameLink σ] [TagSource φ σ] [Changeable φ χ]

/-- Watched or not, the same scans are pending. -/
theorem pending_watched (h : Host φ) (events : List (Event χ)) :
    (h.watched.after events).queue.pending = (h.after events).queue.pending := by
  have hforget := congrArg (fun h' : Host φ => h'.queue.pending) (h.forget_after events)
  change (h.watched.after events).queue.pending.map _ = _ at hforget
  rwa [List.map_congr_left fun p _ => Watched.pending_forget p, List.map_id'] at hforget

theorem scans_watched (h : Host φ) (events : List (Event χ)) :
    (h.watched.after events).scans = (h.after events).scans := by
  rw [scans, pending_watched, scans]

theorem scans_map (f : FieldMap φ φ) (h : Host φ) : (h.map f).scans = h.scans := by
  show List.map _ (List.map _ _) = _
  rw [List.map_map]
  rfl

/-- Of a scan that is gone, no poll is missed. -/
theorem step_givingUp_of_gone {h : Host φ} {id : Nat} (hgone : id ∉ h.ids) (e : Event χ) :
    h.step (e.givingUp id) = h.step e := by
  by_cases he : e = .poll id
  · have hne : ∀ p ∈ h.queue.pending, p.id ≠ id := fun p hp hid => hgone (hid ▸ List.mem_map_of_mem hp)
    have hdrop : h.queue.drop id = h.queue := ScanQueue.drop_eq_self hne
    have hother : ∀ p ∈ h.queue.pending.head?, p.id ≠ id := fun p hp => hne p (List.mem_of_head? hp)
    rw [he, Event.givingUp_poll]
    simp only [step, hdrop, ScanQueue.pollScan_other hother]
  · rw [Event.givingUp_of_ne he]

end

/-- Two hosts of which the first one has had one stop more. It hits the scan with this
number: on both hosts that scan is waiting in front of all others, or it is gone. -/
inductive OneStopApart (id : Nat) : Host (Watched (Station ρ)) → Host (Watched (Station ρ)) → Prop where
  | unnoticed (w : Host (Watched (Station ρ))) (p : Pending) (rest : List Pending) (k : Nat)
    (hfirst : w.queue.pending = p :: rest) (hid : p.id = id) (hsince : p.since = some k)
    (hseen : k ≤ (w.map Watched.forget).cancels) (hordered : w.Ordered) (hone : w.OneWaits) :
    OneStopApart id (w.step .cancel).2 w
  | gone (w : Host (Watched (Station ρ))) (hgone : id ∉ w.ids) (hold : id < w.nextId) :
    OneStopApart id (w.map Station.later.watched) w

namespace OneStopApart
variable {id : Nat} {w' w : Host (Watched (Station ρ))}

/-- Once the scan has left the queue, the stop is seen by nobody. -/
theorem of_drop {p : Pending} {rest : List Pending} (hfirst : w.queue.pending = p :: rest)
    (hordered : w.Ordered) (hone : w.OneWaits) :
    OneStopApart p.id ((w.step .cancel).2.step (.drop p.id)).2 (w.step (.drop p.id)).2 := by
  have hidle : ∀ q ∈ (w.step (.drop p.id)).2.queue.pending, q.since = none := by
    intro q hq
    obtain ⟨hmem, hne⟩ := List.mem_filter.mp hq
    rw [hfirst] at hmem
    rcases List.mem_cons.mp hmem with rfl | hrest
    · simp at hne
    · exact hone q (by rw [hfirst]; exact hrest)
  have hsame := step_cancel_eq_map Station.later.watched (fun _ => rfl) _ hidle
  have hold : p.id < w.nextId := hordered.lt_nextId p.id (by simp [ids, hfirst])
  have hapart := OneStopApart.gone _ (not_mem_ids_drop w p.id) hold
  rwa [← hsame] at hapart

/-- **An event does the same on both hosts**, but for the scan that the stop hits: a poll
cancels it on the one, and on the other one it is given up. -/
theorem step (h : OneStopApart id w' w) (e : Event FieldChange) :
    (w'.step e).1.filter (fun f => f.id ≠ id) = (w.step (e.givingUp id)).1 ∧
      OneStopApart id (w'.step e).2 (w.step (e.givingUp id)).2 := by
  cases h with
  | unnoticed _ p rest k hfirst hid hsince hseen hordered hone =>
    subst hid
    have hover := of_drop hfirst hordered hone
    by_cases hpoll : e = .poll p.id
    · have hbehind : TagSource.activate p.since (w.step (.cancel : Event FieldChange)).2.queue.field = .cancelled :=
        Watched.activate_eq_cancelled.mpr
          (Station.activate_eq_cancelled.mpr ⟨k, hsince, Nat.ne_of_gt (Nat.lt_succ_of_le hseen)⟩)
      have hnoticed := step_poll_cancelled (hordered.step .cancel) hfirst hbehind
      rw [hpoll, Event.givingUp_poll, hnoticed]
      exact ⟨List.filter_cons_of_neg (by simp), hover⟩
    · rw [Event.givingUp_of_ne hpoll, step_cancel_comm Station.later.watched (fun _ => rfl) hfirst hpoll,
        done_of_other hfirst hpoll]
      refine ⟨rfl, ?_⟩
      by_cases hdrop : e = .drop p.id
      · rw [hdrop]
        exact hover
      · obtain ⟨rest', hfirst'⟩ := pending_of_other hfirst hpoll hdrop
        have hcancels := cancels_le_step (w.map Watched.forget) e
        rw [Watched.forget.step_map] at hcancels
        exact .unnoticed _ p rest' k hfirst' rfl hsince (hseen.trans hcancels) (hordered.step e) (hone.step e)
  | gone _ hgone hold =>
    have hlater := not_mem_later hgone hold [e]
    rw [step_givingUp_of_gone hgone, Station.later.watched.step_map]
    refine ⟨List.filter_eq_self.mpr fun f hf => decide_eq_true fun hid => ?_, .gone _ ?_ ?_⟩
    · refine hlater (List.mem_append_left _ (List.mem_map.mpr ⟨f, ?_, hid⟩))
      exact List.mem_append_left _ hf
    · exact fun hid => hlater (List.mem_append_right _ hid)
    · rw [nextId_step]
      exact Nat.lt_add_right _ hold

/-- **Any run of events does the same on both hosts.** -/
theorem run (h : OneStopApart id w' w) (events : List (Event FieldChange)) :
    (w'.finished events).filter (fun f => f.id ≠ id) = w.finished (events.map (Event.givingUp id)) ∧
      OneStopApart id (w'.after events) (w.after (events.map (Event.givingUp id))) := by
  induction events generalizing w' w with
  | nil => exact ⟨rfl, h⟩
  | cons e events ih =>
    obtain ⟨hdone, hnow⟩ := h.step e
    obtain ⟨hfinished, hlater⟩ := ih hnow
    refine ⟨?_, hlater⟩
    rw [List.map_cons, finished, finished, List.filter_append, hdone, hfinished]

theorem seen_eq (h : OneStopApart id w' w) : w'.seen = w.seen := by
  cases h <;> rfl

theorem scans_eq (h : OneStopApart id w' w) : w'.scans = w.scans := by
  cases h with
  | unnoticed => rfl
  | gone => exact scans_map _ w

end OneStopApart

end Host
end Nearfield
