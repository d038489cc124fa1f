/-
# A host over time

A host has keys, a configuration and a queue of scans in front of one field. From
outside come events: a scan is started, a scan is polled by itself or given up,
the wait for a tag is stopped, the keys change, a tag comes or goes. `Moves` says
once what an event does; it lets at most one scan look for a tag, the first one
of the queue (`Looks`), and that scan is served, cancelled or goes on waiting
(`Look`).

Scans are numbered in the order in which they are started. What finishes and what
is pending afterwards, one behind the other, are numbers that were there before
in the same order, with the new one at the end (`ids_step`, `ids_run`): nothing
overtakes and nothing is there twice.

Key definitions: `ScanQueue.pollScan`, `Host`, `Event`, `Host.step`, `Host.after`,
`Host.finished`, `Host.Looks`, `Host.Moves`.
Key theorems: `ScanQueue.poll_eq_pollEach`, `Host.moves_step`, `Host.ids_run`,
`Host.Ordered.run`, `Host.Ordered.poll_eq`, `Host.mem_pending_step`.
-/
import Mathlib.Algebra.GroupWithZero.Nat
import Mathlib.Data.List.Nodup
import Nearfield.Engine
import Nearfield.ScanQueue

namespace Nearfield

/-! ### Polling one scan -/

namespace ScanQueue
variable {φ σ : Type} [FrameLink σ] [TagSource φ σ]

/-- What becomes of a scan that looks for a tag, of the field and of its place:
the scan is served, cancelled or goes on waiting. -/
inductive Look (field : φ) (p : Pending) : List Finished → φ → List Pending → Prop where
  | served (uid : Bytes) (link : σ) (hfound : TagSource.activate p.since field = .found uid link) :
    Look field p [⟨p.id, (Transaction.run uid p.request link).1⟩]
      (TagSource.release (Transaction.run uid p.request link).2) []
  | cancelled (hcancelled : TagSource.activate p.since field = .cancelled) :
    Look field p [⟨p.id, .error (.link .cancelled)⟩] field []
  | waiting (since : Nat) (hwaiting : TagSource.activate p.since field = .waiting since) :
    Look field p [] field [{ p with since := some since }]

theorem look_serve (field : φ) (p : Pending) :
    Look field p (serve field [p]).1 (serve field [p]).2.field (serve field [p]).2.pending := by
  unfold serve
  cases h : (TagSource.activate p.since field : Activation σ) with
  | found uid link => exact .served uid link h
  | cancelled => exact .cancelled h
  | waiting since => exact .waiting since h

/-- Those behind a scan are served if it does not go on waiting. -/
theorem serve_cons (field : φ) (p : Pending) (rest : List Pending) : serve field (p :: rest) =
    match serve field [p] with
    | (done, ⟨field, []⟩) => (done ++ (serve field rest).1, (serve field rest).2)
    | (done, ⟨field, left⟩) => (done, ⟨field, left ++ rest⟩) := by
  simp only [serve]
  cases (TagSource.activate p.since field : Activation σ) <;> rfl

/-- Polls one scan. Only the first one of the queue has the field; any other goes
on waiting for its turn. -/
def pollScan (t : ScanQueue φ) (id : Nat) : List Finished × ScanQueue φ :=
  match t.pending with
  | [] => ([], t)
  | p :: rest =>
    if p.id = id then
      let (done, q) := serve t.field [p]
      (done, { q with pending := q.pending ++ rest })
    else ([], t)

/-- Polls scans one after the other. -/
def pollEach (t : ScanQueue φ) : List Nat → List Finished × ScanQueue φ
  | [] => ([], t)
  | id :: ids =>
    let (done, t) := t.pollScan id
    let (later, t) := pollEach t ids
    (done ++ later, t)

omit [FrameLink σ] [TagSource φ σ] in
theorem drop_eq_self {t : ScanQueue φ} {id : Nat} (h : ∀ p ∈ t.pending, p.id ≠ id) : t.drop id = t := by
  unfold drop
  rw [List.filter_eq_self.mpr fun p hp => decide_eq_true (h p hp)]

theorem pollScan_first (field : φ) (p : Pending) (rest : List Pending) :
    pollScan ⟨field, p :: rest⟩ p.id =
      ((serve field [p]).1, ⟨(serve field [p]).2.field, (serve field [p]).2.pending ++ rest⟩) :=
  if_pos rfl

theorem pollScan_other {t : ScanQueue φ} {id : Nat} (h : ∀ p ∈ t.pending.head?, p.id ≠ id) :
    t.pollScan id = ([], t) := by
  unfold pollScan
  split
  · rfl
  · rename_i p rest hpending
    rw [hpending] at h
    exact if_neg (h p rfl)

theorem pollEach_other {t : ScanQueue φ} {ids : List Nat}
    (h : ∀ p ∈ t.pending.head?, p.id ∉ ids) : t.pollEach ids = ([], t) := by
  induction ids with
  | nil => rfl
  | cons id ids ih =>
    have hid : t.pollScan id = ([], t) :=
      pollScan_other fun p hp hsame => h p hp (hsame ▸ List.mem_cons_self)
    have hids := ih fun p hp hmem => h p hp (List.mem_cons_of_mem id hmem)
    simp only [pollEach, hid, hids, List.append_nil]

/-- The queue polls its scans one after the other. -/
theorem poll_eq_pollEach (t : ScanQueue φ) (h : (t.pending.map (·.id)).Nodup) :
    t.poll = t.pollEach (t.pending.map (·.id)) := by
  obtain ⟨field, pending⟩ := t
  show serve field pending = _
  dsimp only at h ⊢
  induction pending generalizing field with
  | nil => rfl
  | cons p rest ih =>
    obtain ⟨hp, hrest⟩ := List.nodup_cons.mp h
    simp only [List.map_cons, pollEach, pollScan_first]
    rw [serve_cons]
    have hlook := look_serve field p
    rcases hserve : serve field [p] with ⟨done, field', left⟩
    rw [hserve] at hlook
    cases hlook with
    | served uid link hfound =>
      dsimp only [List.nil_append]
      rw [ih _ hrest]
    | cancelled hcancelled =>
      dsimp only [List.nil_append]
      rw [ih _ hrest]
    | waiting since hwaiting =>
      -- the first scan stays in front of the others, so polling them does nothing
      dsimp only [List.cons_append, List.nil_append]
      rw [pollEach_other]
      intro q hq
      cases hq
      exact hp

end ScanQueue

/-! ### Events -/

/-- What may happen to a field from outside. -/
class Changeable (φ : Type) (χ : outParam Type) where
  change : χ → φ → φ

/-- Tags come and go. -/
inductive FieldChange where
  | arrival (tag : Tag)
  | removal

def FieldChange.apply : FieldChange → Field → Field
  | .arrival t, f => f.present t
  | .removal, f => f.remove

instance {ρ : Type} : Changeable (Station ρ) FieldChange where
  change c s := { s with field := c.apply s.field }

/-- A host with its scans. -/
structure Host (φ : Type) where
  keys : Keyring
  config : EngineConfig
  queue : ScanQueue φ
  /-- The number of the next scan. -/
  nextId : Nat

inductive Event (χ : Type) where
  /-- A scan is started, and polled for the first time. -/
  | scan (operation : Operation)
  /-- A scan is polled again. -/
  | poll (id : Nat)
  /-- A scan is given up. -/
  | drop (id : Nat)
  /-- The wait for a tag is stopped. -/
  | cancel
  | updateKeys (update : Keyring.Update)
  | change (c : χ)

/-- Scans that an event starts. -/
def Event.scans {χ : Type} : Event χ → Nat
  | .scan _ => 1
  | _ => 0

/-- Scans that are started by some events. -/
def scansIn {χ : Type} (events : List (Event χ)) : Nat := (events.map Event.scans).sum

@[simp] theorem scansIn_append {χ : Type} (events events' : List (Event χ)) :
    scansIn (events ++ events') = scansIn events + scansIn events' := by
  simp [scansIn]

namespace Host
variable {φ σ χ : Type} [FrameLink σ] [TagSource φ σ] [Changeable φ χ]

/-- A host that has not started a scan. -/
def new (field : φ) (keys : Keyring) (config : EngineConfig) : Host φ := ⟨keys, config, ⟨field, []⟩, 0⟩

/-- What an event does. A scan for which a key is missing is refused at once and
never joins the queue. -/
def step (h : Host φ) : Event χ → List Finished × Host φ
  | .scan operation =>
    match operation.request h.config h.keys.current with
    | .error _ => ([], { h with nextId := h.nextId + 1 })
    | .ok request =>
      let (done, queue) := h.queue.start h.nextId request
      (done, { h with queue, nextId := h.nextId + 1 })
  | .poll id =>
    let (done, queue) := h.queue.pollScan id
    (done, { h with queue })
  | .drop id => ([], { h with queue := h.queue.drop id })
  | .cancel => ([], { h with queue := h.queue.cancel })
  | .updateKeys update => ([], { h with keys := (h.keys.apply update).2 })
  | .change c => ([], { h with queue := { h.queue with field := Changeable.change c h.queue.field } })

/-- The host after some events. -/
def after (h : Host φ) (events : List (Event χ)) : Host φ := events.foldl (fun h e => (h.step e).2) h

/-- The scans that finish in the course of some events, in this order. -/
def finished (h : Host φ) : List (Event χ) → List Finished
  | [] => []
  | e :: rest => (h.step e).1 ++ finished (h.step e).2 rest

theorem after_append (h : Host φ) (events events' : List (Event χ)) :
    h.after (events ++ events') = (h.after events).after events' := List.foldl_append

theorem after_cons (h : Host φ) (e : Event χ) (events : List (Event χ)) :
    h.after (e :: events) = (h.step e).2.after events := rfl

theorem after_snoc (h : Host φ) (events : List (Event χ)) (e : Event χ) :
    h.after (events ++ [e]) = ((h.after events).step e).2 := h.after_append events [e]

theorem finished_append (h : Host φ) (events events' : List (Event χ)) :
    h.finished (events ++ events') = h.finished events ++ (h.after events).finished events' := by
  induction events generalizing h with
  | nil => rfl
  | cons e events ih => simp only [List.cons_append, finished, ih, List.append_assoc, after_cons]

theorem finished_snoc (h : Host φ) (events : List (Event χ)) (e : Event χ) :
    h.finished (events ++ [e]) = h.finished events ++ ((h.after events).step e).1 := by
  rw [finished_append]
  simp only [finished, List.append_nil]

/-- Scans that are polled in turn. -/
theorem run_polls (h : Host φ) (ids : List Nat) :
    h.finished (ids.map .poll) = (h.queue.pollEach ids).1 ∧
      h.after (ids.map .poll) = { h with queue := (h.queue.pollEach ids).2 } := by
  induction ids generalizing h with
  | nil => exact ⟨rfl, rfl⟩
  | cons id ids ih =>
    obtain ⟨hfinished, hafter⟩ := ih (h.step (.poll id)).2
    refine ⟨?_, ?_⟩
    · rw [List.map_cons, finished, hfinished]
      rfl
    · rw [List.map_cons, after_cons, hafter]
      rfl

/-! ### What an event does -/

/-- The event lets this scan look for a tag, in front of these others. -/
inductive Looks (h : Host φ) : Event χ → Pending → List Pending → Prop where
  | begun (operation : Operation) (request : Request)
    (hrequest : operation.request h.config h.keys.current = .ok request) (hfree : h.queue.pending = []) :
    Looks h (.scan operation) ⟨h.nextId, request, none⟩ []
  | polled (p : Pending) (rest : List Pending) (hfirst : h.queue.pending = p :: rest) :
    Looks h (.poll p.id) p rest

inductive Moves (h : Host φ) : Event χ → List Finished → Host φ → Prop where
  | looked (e : Event χ) (p : Pending) (rest : List Pending) (done : List Finished) (field : φ)
    (left : List Pending) (hlooks : h.Looks e p rest) (hlook : ScanQueue.Look h.queue.field p done field left) :
    Moves h e done { h with queue := ⟨field, left ++ rest⟩, nextId := h.nextId + e.scans }
  | queued (operation : Operation) (request : Request)
    (hrequest : operation.request h.config h.keys.current = .ok request) (hbusy : h.queue.pending ≠ []) :
    Moves h (.scan operation) []
      { h with queue := ⟨h.queue.field, h.queue.pending ++ [⟨h.nextId, request, none⟩]⟩,
               nextId := h.nextId + 1 }
  | refused (operation : Operation) (failure : ScanError)
    (hrequest : operation.request h.config h.keys.current = .error failure) :
    Moves h (.scan operation) [] { h with nextId := h.nextId + 1 }
  | passed (id : Nat) (hother : ∀ p ∈ h.queue.pending.head?, p.id ≠ id) : Moves h (.poll id) [] h
  | dropped (id : Nat) : Moves h (.drop id) [] { h with queue := h.queue.drop id }
  | stopped : Moves h .cancel [] { h with queue := h.queue.cancel }
  | updated (update : Keyring.Update) :
    Moves h (.updateKeys update) [] { h with keys := (h.keys.apply update).2 }
  | changed (c : χ) :
    Moves h (.change c) []
      { h with queue := { h.queue with field := Changeable.change c h.queue.field } }

omit [FrameLink σ] [TagSource φ σ] [Changeable φ χ] in
/-- A scan that looks for a tag was pending, or has just been started. -/
theorem Looks.origin {h : Host φ} {e : Event χ} {p : Pending} {rest : List Pending} (hlooks : h.Looks e p rest) :
    p ∈ h.queue.pending ∨ ∃ operation request, e = .scan operation ∧
      operation.request h.config h.keys.current = .ok request ∧ p = ⟨h.nextId, request, none⟩ := by
  cases hlooks with
  | begun operation request hrequest hfree => exact Or.inr ⟨operation, request, rfl, hrequest, rfl⟩
  | polled _ _ hfirst =>
    rw [hfirst]
    exact Or.inl List.mem_cons_self

/-- The first scan of the queue is served, and whatever is left of it stays in front. -/
theorem step_of_looks {h : Host φ} {e : Event χ} {p : Pending} {rest : List Pending} (hlooks : h.Looks e p rest) :
    h.step e = ((ScanQueue.serve h.queue.field [p]).1,
      { h with queue := ⟨(ScanQueue.serve h.queue.field [p]).2.field,
                 (ScanQueue.serve h.queue.field [p]).2.pending ++ rest⟩,
               nextId := h.nextId + e.scans }) := by
  cases hlooks with
  | begun operation request hrequest hfree =>
    simp only [step, hrequest, ScanQueue.start, hfree, List.append_nil]
    rfl
  | polled _ _ hfirst =>
    have hqueue : h.queue = ⟨h.queue.field, p :: rest⟩ := by rw [← hfirst]
    simp only [step]
    rw [hqueue, ScanQueue.pollScan_first]
    rfl

theorem moves_of_looks {h : Host φ} {e : Event χ} {p : Pending} {rest : List Pending} (hlooks : h.Looks e p rest) :
    h.Moves e (h.step e).1 (h.step e).2 := by
  rw [step_of_looks hlooks]
  exact .looked e p rest _ _ _ hlooks (ScanQueue.look_serve h.queue.field p)

theorem moves_step (h : Host φ) (e : Event χ) : h.Moves e (h.step e).1 (h.step e).2 := by
  cases e with
  | scan operation =>
    cases hrequest : operation.request h.config h.keys.current with
    | error failure =>
      simp only [step, hrequest]
      exact .refused operation failure hrequest
    | ok request =>
      by_cases hfree : h.queue.pending = []
      · exact moves_of_looks (.begun operation request hrequest hfree)
      · have hqueued := Moves.queued operation request hrequest hfree
        obtain ⟨p, rest, hpending⟩ := List.exists_cons_of_ne_nil hfree
        simp only [step, hrequest, ScanQueue.start, hpending] at hqueued ⊢
        exact hqueued
  | poll id =>
    by_cases hfirst : ∃ p rest, h.queue.pending = p :: rest ∧ p.id = id
    · obtain ⟨p, rest, hpending, rfl⟩ := hfirst
      exact moves_of_looks (.polled p rest hpending)
    · have hother : ∀ p ∈ h.queue.pending.head?, p.id ≠ id := by
        intro p hp hid
        obtain ⟨rest, hpending⟩ := List.head?_eq_some_iff.mp hp
        exact hfirst ⟨p, rest, hpending, hid⟩
      simp only [step, ScanQueue.pollScan_other hother]
      exact .passed id hother
  | drop id => exact .dropped id
  | cancel => exact .stopped
  | updateKeys update => exact .updated update
  | change c => exact .changed c

theorem nextId_step (h : Host φ) (e : Event χ) : (h.step e).2.nextId = h.nextId + e.scans := by
  have hmoves := h.moves_step e
  generalize (h.step e).1 = done at hmoves
  generalize (h.step e).2 = h' at hmoves ⊢
  cases hmoves <;> rfl

theorem nextId_after (h : Host φ) (events : List (Event χ)) :
    (h.after events).nextId = h.nextId + scansIn events := by
  induction events generalizing h with
  | nil => rfl
  | cons e events ih =>
    rw [after_cons, ih, nextId_step, Nat.add_assoc]
    rfl

/-! ### Order -/

/-- The numbers of the pending scans, in their order. -/
def ids (h : Host φ) : List Nat := h.queue.pending.map (·.id)

theorem ids_look {field field' : φ} {p : Pending} {done : List Finished} {left : List Pending}
    (h : ScanQueue.Look field p done field' left) : done.map (·.id) ++ left.map (·.id) = [p.id] := by
  cases h <;> rfl

/-- **An event changes no order.** -/
theorem ids_step (h : Host φ) (e : Event χ) : List.Sublist
    ((h.step e).1.map (·.id) ++ (h.step e).2.ids) (h.ids ++ List.range' h.nextId e.scans) := by
  have hmoves := h.moves_step e
  generalize (h.step e).1 = done at hmoves ⊢
  generalize (h.step e).2 = h' at hmoves ⊢
  cases hmoves with
  | looked _ p rest _ field left hlooks hlook =>
    have hids := ids_look hlook
    have hfront : done.map (·.id) ++ (left ++ rest).map (·.id) = p.id :: rest.map (·.id) := by
      rw [List.map_append, ← List.append_assoc, hids, List.singleton_append]
    unfold ids
    rw [hfront]
    cases hlooks with
    | begun operation request hrequest hfree => simp [hfree, Event.scans]
    | polled _ _ hfirst => simp [hfirst, Event.scans]
  | queued operation request hrequest hbusy => simp [ids, Event.scans]
  | refused operation failure hrequest => simp [ids]
  | passed id hother => simp [ids, Event.scans]
  | dropped id =>
    simp only [ids, ScanQueue.drop, Event.scans, List.map_nil, List.nil_append, List.range'_zero,
      List.append_nil]
    exact List.filter_sublist.map _
  | stopped => simp [ids, Event.scans, ScanQueue.cancel]
  | updated update => simp [ids, Event.scans]
  | changed c => simp [ids, Event.scans]

/-- **No run of events changes the order** in which scans were started: first come
the finished ones, then the pending ones. -/
theorem ids_run (h : Host φ) (events : List (Event χ)) : List.Sublist
    ((h.finished events).map (·.id) ++ (h.after events).ids)
    (h.ids ++ List.range' h.nextId (scansIn events)) := by
  induction events generalizing h with
  | nil => simp [finished, after, scansIn]
  | cons e events ih =>
    have hlater := ih (h.step e).2
    have hnow := h.ids_step e
    rw [nextId_step] at hlater
    have hrange : List.range' h.nextId (scansIn (e :: events)) =
        List.range' h.nextId e.scans ++ List.range' (h.nextId + e.scans) (scansIn events) :=
      (List.range'_append_1 ..).symm
    have hboth := hnow.append_right (List.range' (h.nextId + e.scans) (scansIn events))
    rw [hrange]
    simp only [finished, List.map_append, List.append_assoc, after_cons] at hlater hboth ⊢
    exact (hlater.append_left _).trans hboth

/-- The numbers of the pending scans rise, and the next number is higher. -/
structure Ordered (h : Host φ) : Prop where
  rising : h.ids.Pairwise (· < ·)
  lt_nextId : ∀ id ∈ h.ids, id < h.nextId

omit [FrameLink σ] [TagSource φ σ] [Changeable φ χ] in
theorem ordered_new (field : φ) (keys : Keyring) (config : EngineConfig) : (new field keys config).Ordered :=
  ⟨.nil, fun _ h => absurd h List.not_mem_nil⟩

theorem Ordered.range' {h : Host φ} (hordered : h.Ordered) (n : Nat) :
    (h.ids ++ List.range' h.nextId n).Pairwise (· < ·) := by
  refine List.pairwise_append.mpr ⟨hordered.rising, List.pairwise_lt_range', fun a ha b hb => ?_⟩
  have := hordered.lt_nextId a ha
  rw [List.mem_range'_1] at hb
  omega

theorem Ordered.after {h : Host φ} (hordered : h.Ordered) (events : List (Event χ)) :
    (h.after events).Ordered := by
  have hrun := (List.sublist_append_right _ _).trans (h.ids_run events)
  refine ⟨(hordered.range' _).sublist hrun, fun id hid => ?_⟩
  rw [nextId_after]
  rcases List.mem_append.mp (hrun.subset hid) with hold | hnew
  · have := hordered.lt_nextId id hold
    omega
  · rw [List.mem_range'_1] at hnew
    omega

theorem Ordered.step {h : Host φ} (hordered : h.Ordered) (e : Event χ) : (h.step e).2.Ordered :=
  hordered.after [e]

/-- Scans finish in the order in which they were started, and those that are pending come
later. -/
theorem Ordered.run {h : Host φ} (hordered : h.Ordered) (events : List (Event χ)) :
    ((h.finished events).map (·.id) ++ (h.after events).ids).Pairwise (· < ·) :=
  (hordered.range' _).sublist (h.ids_run events)

theorem Ordered.finished_lt {h : Host φ} (hordered : h.Ordered) {events : List (Event χ)} {f : Finished}
    (hf : f ∈ h.finished events) {id : Nat} (hid : id ∈ (h.after events).ids) : f.id < id :=
  (List.pairwise_append.mp (hordered.run events)).2.2 f.id (List.mem_map_of_mem hf) id hid

/-- A number belongs to one pending scan at most. -/
theorem Ordered.eq_of_id {h : Host φ} (hordered : h.Ordered) {p q : Pending}
    (hp : p ∈ h.queue.pending) (hq : q ∈ h.queue.pending) (hid : p.id = q.id) : p = q := by
  have hnodup : h.ids.Nodup := hordered.rising.imp fun hlt => Nat.ne_of_lt hlt
  exact List.inj_on_of_nodup_map hnodup hp hq hid

/-- **Letting every scan go as far as it can** is polling each pending scan in turn. -/
theorem Ordered.poll_eq {h : Host φ} (hordered : h.Ordered) :
    h.queue.poll = (h.finished (h.ids.map .poll), (h.after (h.ids.map .poll)).queue) := by
  obtain ⟨hfinished, hafter⟩ := h.run_polls h.ids
  rw [hfinished, hafter]
  exact ScanQueue.poll_eq_pollEach h.queue (hordered.rising.imp fun hlt => Nat.ne_of_lt hlt)

/-! ### Pending scans -/

/-- **Where a pending scan comes from**: it was pending before, or it has just been
started, or it has just looked for a tag and found none. -/
theorem mem_pending_step {h : Host φ} {e : Event χ} {p' : Pending}
    (hp : p' ∈ (h.step e).2.queue.pending) :
    p' ∈ h.queue.pending ∨
      (∃ operation request, e = .scan operation ∧
        operation.request h.config h.keys.current = .ok request ∧ p' = ⟨h.nextId, request, none⟩) ∨
      ∃ p rest since, h.Looks e p rest ∧ TagSource.activate p.since h.queue.field = .waiting since ∧
        p' = { p with since := some since } := by
  have hmoves := h.moves_step e
  generalize (h.step e).1 = done at hmoves
  generalize (h.step e).2 = h' at hmoves hp
  cases hmoves with
  | looked _ p rest _ field left hlooks hlook =>
    rcases List.mem_append.mp hp with hleft | hrest
    · cases hlook with
      | served uid link hfound => cases hleft
      | cancelled hcancelled => cases hleft
      | waiting since hwaiting =>
        exact Or.inr (Or.inr ⟨p, rest, since, hlooks, hwaiting, List.mem_singleton.mp hleft⟩)
    · cases hlooks with
      | begun operation request hrequest hfree => cases hrest
      | polled _ _ hfirst =>
        rw [hfirst]
        exact Or.inl (List.mem_cons_of_mem p hrest)
  | queued operation request hrequest hbusy =>
    rcases List.mem_append.mp hp with hold | hnew
    · exact Or.inl hold
    · exact Or.inr (Or.inl ⟨operation, request, rfl, hrequest, List.mem_singleton.mp hnew⟩)
  | refused operation failure hrequest => exact Or.inl hp
  | passed id hother => exact Or.inl hp
  | dropped id => exact Or.inl (List.mem_filter.mp hp).1
  | stopped => exact Or.inl hp
  | updated update => exact Or.inl hp
  | changed c => exact Or.inl hp

/-- A scan that neither finishes nor is given up stays pending. -/
theorem id_mem_step {h : Host φ} {e : Event χ} {id : Nat} (hid : id ∈ h.ids) (hdrop : e ≠ .drop id) :
    id ∈ (h.step e).1.map (·.id) ∨ id ∈ (h.step e).2.ids := by
  have hmoves := h.moves_step e
  generalize (h.step e).1 = done at hmoves ⊢
  generalize (h.step e).2 = h' at hmoves ⊢
  cases hmoves with
  | looked _ p rest _ field left hlooks hlook =>
    cases hlooks with
    | begun operation request hrequest hfree => simp [ids, hfree] at hid
    | polled _ _ hfirst =>
      have hids := ids_look hlook
      have hmem : id ∈ (done.map (·.id) ++ left.map (·.id)) ++ rest.map (·.id) := by
        rw [hids]
        simpa [ids, hfirst] using hid
      simpa [ids, or_assoc] using hmem
  | queued operation request hrequest hbusy => exact Or.inr (by simp [ids] at hid ⊢; exact Or.inl hid)
  | refused operation failure hrequest => exact Or.inr hid
  | passed _ hother => exact Or.inr hid
  | dropped id' =>
    obtain ⟨p, hp, rfl⟩ := List.mem_map.mp hid
    refine Or.inr (List.mem_map.mpr ⟨p, ?_, rfl⟩)
    have hne : p.id ≠ id' := fun hsame => hdrop (by rw [hsame])
    exact List.mem_filter.mpr ⟨hp, by simpa using hne⟩
  | stopped => exact Or.inr hid
  | updated update => exact Or.inr hid
  | changed c => exact Or.inr hid

/-- At most the first scan of the queue has looked for a tag. -/
def OneWaits (h : Host φ) : Prop := ∀ p ∈ h.queue.pending.tail, p.since = none

omit [FrameLink σ] [TagSource φ σ] [Changeable φ χ] in
theorem oneWaits_of_free {h : Host φ} (hfree : h.queue.pending = []) : h.OneWaits := by
  intro q hq
  rw [hfree] at hq
  cases hq

theorem OneWaits.step {h : Host φ} (hwaits : h.OneWaits) (e : Event χ) : (h.step e).2.OneWaits := by
  have hmoves := h.moves_step e
  generalize (h.step e).1 = done at hmoves
  generalize (h.step e).2 = h' at hmoves ⊢
  cases hmoves with
  | looked _ p rest _ field left hlooks hlook =>
    have hrest : ∀ q ∈ rest, q.since = none := by
      cases hlooks with
      | begun operation request hrequest hfree => simp
      | polled _ _ hfirst =>
        intro q hq
        exact hwaits q (by rw [hfirst]; exact hq)
    cases hlook with
    | served uid link hfound => exact fun q hq => hrest q (List.mem_of_mem_tail hq)
    | cancelled hcancelled => exact fun q hq => hrest q (List.mem_of_mem_tail hq)
    | waiting since hwaiting => exact hrest
  | queued operation request hrequest hbusy =>
    intro q hq
    rw [List.tail_append_of_ne_nil hbusy] at hq
    rcases List.mem_append.mp hq with hold | hnew
    · exact hwaits q hold
    · rw [List.mem_singleton.mp hnew]
  | refused operation failure hrequest => exact hwaits
  | passed id hother => exact hwaits
  | dropped id =>
    intro q hq
    exact hwaits q ((List.filter_sublist.tail).subset hq)
  | stopped => exact hwaits
  | updated update => exact hwaits
  | changed c => exact hwaits

theorem OneWaits.after {h : Host φ} (hwaits : h.OneWaits) (events : List (Event χ)) :
    (h.after events).OneWaits := by
  induction events generalizing h with
  | nil => exact hwaits
  | cons e events ih => exact ih (hwaits.step e)

end Host
end Nearfield
