/-
# Scans one at a time

Scans are served one after the other. Over any run of events a scan finishes once
at most, never after it was given up, and those that finish do so in the order in
which they were started. All that a field sees are whole services: a tag is
activated, the frames of one transaction follow, and the link is given back before
anything else happens. A transaction has the keys that were current when its scan
was started.

Key definitions: `Service`, `Host.Serves`, `Host.Started`, `Host.Serialised`.
Key theorems: `Host.serves_step`, `Host.services_run`, `Host.started_of_pending`,
`Host.not_mem_later`, `Host.not_mem_finished_of_drop`, `Host.mem_of_scan`, `Host.scans_serialised`.
-/
import Mathlib.Data.List.Induction
import Nearfield.Proofs.Host.Watched

namespace Nearfield

/-- How a scan ended, and what the field saw of it. -/
structure Service where
  id : Nat
  request : Request
  result : ScanResult
  seen : List Seen

def Service.finished (s : Service) : Finished := ⟨s.id, s.result⟩

namespace Host
variable {φ σ χ : Type} [FrameLink σ] [TagSource φ σ] [Changeable φ χ]

/-! ### Services -/

/-- The event ends a scan. The field sees nothing of a scan that is cancelled, and of
any other one an activation, its frames and the release. -/
inductive Serves (h : Host φ) (e : Event χ) : Service → Prop where
  | cancelled (p : Pending) (rest : List Pending) (hlooks : h.Looks e p rest)
    (hcancelled : TagSource.activate p.since h.queue.field = .cancelled) :
    Serves h e ⟨p.id, p.request, .error (.link .cancelled), []⟩
  | ran (p : Pending) (rest : List Pending) (uid : Bytes) (link : σ) (hlooks : h.Looks e p rest)
    (hfound : TagSource.activate p.since h.queue.field = .found uid link) :
    Serves h e ⟨p.id, p.request, (Transaction.run uid p.request link).1,
      .activated uid :: (Seen.ofLog (Transaction.record uid p.request link) ++ [.released])⟩

/-- What a watched field has seen. -/
def seen (w : Host (Watched φ)) : List Seen := w.queue.field.journal

theorem looks_forget {w : Host (Watched φ)} {e : Event χ} {p : Pending} {rest : List Pending}
    (h : w.Looks e p rest) : (w.map Watched.forget).Looks e p rest := by
  cases h with
  | begun operation request hrequest hfree =>
    refine .begun operation request hrequest ?_
    show w.queue.pending.map _ = []
    rw [hfree, List.map_nil]
  | polled _ _ hfirst =>
    refine .polled p rest ?_
    show w.queue.pending.map _ = p :: rest
    rw [List.map_congr_left fun q _ => Watched.pending_forget q, List.map_id', hfirst]

/-- **What an event ends is what the field sees of it.** -/
theorem serves_step (w : Host (Watched φ)) (e : Event χ) :
    ∃ services : List Service, (w.step e).1 = services.map Service.finished ∧
      (w.step e).2.seen = w.seen ++ services.flatMap Service.seen ∧
      ∀ s ∈ services, (w.map Watched.forget).Serves e s := by
  have hnone : ∀ w' : Host (Watched φ), w'.seen = w.seen → ∃ services : List Service,
      [] = services.map Service.finished ∧ w'.seen = w.seen ++ services.flatMap Service.seen ∧
      ∀ s ∈ services, (w.map Watched.forget).Serves e s :=
    fun w' hseen => ⟨[], rfl, by rw [hseen, List.flatMap_nil, List.append_nil],
      fun s hs => absurd hs List.not_mem_nil⟩
  have hmoves := w.moves_step e
  generalize (w.step e).1 = done at hmoves ⊢
  generalize (w.step e).2 = w' at hmoves ⊢
  cases hmoves with
  | looked _ p rest _ field left hlooks hlook =>
    have hlooks' := looks_forget hlooks
    cases hlook with
    | served uid l hfound =>
      obtain ⟨link, hinside, rfl⟩ := Watched.found_inside hfound
      refine ⟨[_], ?_, ?_, List.forall_mem_singleton.mpr (.ran p rest uid link hlooks' hinside)⟩
      · rw [Transaction.run_watched]
        rfl
      · show (TagSource.release (Transaction.run uid p.request _).2 : Watched φ).journal = _
        rw [Transaction.run_watched]
        show (w.seen ++ _) ++ _ ++ _ = _
        simp
    | cancelled hcancelled =>
      have hinside := Watched.activate_eq_cancelled.mp hcancelled
      refine ⟨[_], rfl, ?_, List.forall_mem_singleton.mpr (.cancelled p rest hlooks' hinside)⟩
      simp [seen]
    | waiting since hwaiting => exact hnone _ rfl
  | queued operation request hrequest hbusy => exact hnone _ rfl
  | refused operation failure hrequest => exact hnone _ rfl
  | passed id hother => exact hnone _ rfl
  | dropped id => exact hnone _ rfl
  | stopped => exact hnone _ rfl
  | updated update => exact hnone _ rfl
  | changed c => exact hnone _ rfl

/-- **What finishes and what the field sees are the same services**, in the same order. -/
theorem services_run (h : Host φ) (events : List (Event χ)) :
    ∃ services : List Service, h.finished events = services.map Service.finished ∧
      h.journal events = services.flatMap Service.seen ∧
      ∀ s ∈ services, ∃ before e later, events = before ++ e :: later ∧ (h.after before).Serves e s := by
  induction events using List.reverseRecOn with
  | nil => exact ⟨[], rfl, rfl, fun s hs => absurd hs List.not_mem_nil⟩
  | append_singleton events e ih =>
    obtain ⟨earlier, hfinished, hjournal, hearlier⟩ := ih
    obtain ⟨now, hnow, hseen, hserves⟩ := serves_step (h.watched.after events) e
    rw [h.forget_after] at hserves
    refine ⟨earlier ++ now, ?_, ?_, ?_⟩
    · have hsnoc := h.watched.finished_snoc events e
      rw [hnow, h.finished_watched, h.finished_watched, hfinished] at hsnoc
      rw [hsnoc, List.map_append]
    · show (h.watched.after (events ++ [e])).seen = _
      rw [after_snoc, hseen, List.flatMap_append, ← hjournal]
      rfl
    · intro s hs
      rcases List.mem_append.mp hs with hs | hs
      · obtain ⟨before, e', later, rfl, hserves'⟩ := hearlier s hs
        exact ⟨before, e', later ++ [e], by simp, hserves'⟩
      · exact ⟨events, e, [], rfl, hserves s hs⟩

/-! ### Where scans come from -/

/-- The scan was started in the course of these events, with this request. -/
def Started (h : Host φ) (events : List (Event χ)) (id : Nat) (request : Request) : Prop :=
  ∃ before operation later, events = before ++ .scan operation :: later ∧
    id = h.nextId + scansIn before ∧ operation.request h.config (h.after before).keys.current = .ok request

theorem Started.append {h : Host φ} {events : List (Event χ)} {id : Nat} {request : Request}
    (hstarted : h.Started events id request) (more : List (Event χ)) :
    h.Started (events ++ more) id request := by
  obtain ⟨before, operation, later, rfl, hid, hrequest⟩ := hstarted
  exact ⟨before, operation, later ++ more, by simp, hid, hrequest⟩

theorem config_step (h : Host φ) (e : Event χ) : (h.step e).2.config = h.config := by
  have hmoves := h.moves_step e
  generalize (h.step e).1 = done at hmoves
  generalize (h.step e).2 = h' at hmoves ⊢
  cases hmoves <;> rfl

theorem config_after (h : Host φ) (events : List (Event χ)) : (h.after events).config = h.config := by
  induction events generalizing h with
  | nil => rfl
  | cons e events ih => rw [after_cons, ih, config_step]

theorem started_of_request {h : Host φ} {events : List (Event χ)} {operation : Operation} {request : Request}
    (hrequest : operation.request (h.after events).config (h.after events).keys.current = .ok request) :
    h.Started (events ++ [.scan operation]) (h.after events).nextId request := by
  rw [config_after] at hrequest
  exact ⟨events, operation, [], rfl, h.nextId_after events, hrequest⟩

/-- **Every pending scan was started**, with the request that it has. -/
theorem started_of_pending {h : Host φ} (hfree : h.queue.pending = []) {events : List (Event χ)} {p : Pending}
    (hp : p ∈ (h.after events).queue.pending) : h.Started events p.id p.request := by
  induction events using List.reverseRecOn generalizing p with
  | nil =>
    change p ∈ h.queue.pending at hp
    rw [hfree] at hp
    cases hp
  | append_singleton events e ih =>
    rw [after_snoc] at hp
    rcases mem_pending_step hp with hold | ⟨operation, request, rfl, hrequest, rfl⟩ |
      ⟨q, rest, since, hlooks, -, rfl⟩
    · exact (ih hold).append [e]
    · exact started_of_request hrequest
    · rcases hlooks.origin with hq | ⟨operation, request, rfl, hrequest, rfl⟩
      · exact (ih hq).append [e]
      · exact started_of_request hrequest

/-- So was every scan that looks for a tag. -/
theorem started_of_looks {h : Host φ} (hfree : h.queue.pending = []) {events : List (Event χ)} {e : Event χ}
    {p : Pending} {rest : List Pending} (hlooks : (h.after events).Looks e p rest) :
    h.Started (events ++ [e]) p.id p.request := by
  rcases hlooks.origin with hp | ⟨operation, request, rfl, hrequest, rfl⟩
  · exact (started_of_pending hfree hp).append [e]
  · exact started_of_request hrequest

/-! ### Scans that are given up, and scans that are not -/

theorem not_mem_ids_drop (h : Host φ) (id : Nat) : id ∉ (h.step (.drop id : Event χ)).2.ids := by
  intro hid
  obtain ⟨p, hp, hpid⟩ := List.mem_map.mp hid
  exact of_decide_eq_true (List.mem_filter.mp hp).2 hpid

/-- A scan that is not pending now will neither finish nor be pending later. -/
theorem not_mem_later {h : Host φ} {id : Nat} (hgone : id ∉ h.ids) (hold : id < h.nextId)
    (events : List (Event χ)) : id ∉ (h.finished events).map (·.id) ++ (h.after events).ids := by
  intro hid
  rcases List.mem_append.mp ((h.ids_run events).subset hid) with hnow | hlater
  · exact hgone hnow
  · rw [List.mem_range'_1] at hlater
    omega

/-- **A scan that is given up never finishes.** -/
theorem not_mem_finished_of_drop (h : Host φ) {id : Nat} (hold : id < h.nextId) (events : List (Event χ)) :
    id ∉ ((h.step (.drop id : Event χ)).2.finished events).map (·.id) := by
  have hnext : (h.step (.drop id : Event χ)).2.nextId = h.nextId := rfl
  exact fun hid => not_mem_later (not_mem_ids_drop h id) (hnext ▸ hold) events (List.mem_append_left _ hid)

theorem mem_step_of_scan {h : Host φ} {operation : Operation} {request : Request}
    (hrequest : operation.request h.config h.keys.current = .ok request) :
    h.nextId ∈ (h.step (.scan operation : Event χ)).1.map (·.id) ∨
      h.nextId ∈ (h.step (.scan operation : Event χ)).2.ids := by
  have hmoves := h.moves_step (.scan operation : Event χ)
  generalize (h.step (.scan operation : Event χ)).1 = done at hmoves ⊢
  generalize (h.step (.scan operation : Event χ)).2 = h' at hmoves ⊢
  cases hmoves with
  | looked _ p rest _ field left hlooks hlook =>
    cases hlooks with
    | begun _ request' hrequest' hfree =>
      have hids := ids_look hlook
      have hmem : h.nextId ∈ done.map (·.id) ++ left.map (·.id) := by
        rw [hids]
        exact List.mem_singleton.mpr rfl
      simpa [ids] using hmem
  | queued _ request' hrequest' hbusy => exact Or.inr (by simp [ids])
  | refused _ failure hrefused =>
    rw [hrequest] at hrefused
    cases hrefused

/-- A scan that is pending finishes, or is given up, or is pending still. -/
theorem mem_of_mem_ids {h : Host φ} {id : Nat} (hid : id ∈ h.ids) (events : List (Event χ))
    (hkept : .drop id ∉ events) : id ∈ (h.finished events).map (·.id) ∨ id ∈ (h.after events).ids := by
  induction events generalizing h with
  | nil => exact Or.inr hid
  | cons e events ih =>
    obtain ⟨he, hevents⟩ := not_or.mp (mt List.mem_cons.mpr hkept)
    rw [finished, List.map_append, List.mem_append, after_cons, or_assoc]
    rcases id_mem_step hid (Ne.symm he) with hdone | hstill
    · exact Or.inl hdone
    · exact Or.inr (ih hstill hevents)

/-- **No scan is lost.** -/
theorem mem_of_scan {h : Host φ} {operation : Operation} {request : Request}
    (hrequest : operation.request h.config h.keys.current = .ok request) (events : List (Event χ))
    (hkept : .drop h.nextId ∉ events) :
    h.nextId ∈ (h.finished (.scan operation :: events)).map (·.id) ∨
      h.nextId ∈ (h.after (.scan operation :: events)).ids := by
  rw [finished, List.map_append, List.mem_append, after_cons, or_assoc]
  rcases mem_step_of_scan hrequest with hdone | hpending
  · exact Or.inl hdone
  · exact Or.inr (mem_of_mem_ids hpending events hkept)

/-! ### All together -/

/-- One scan at a time, over these events. Scans have the number of scans that were
started before them. -/
structure Serialised (h : Host φ) (events : List (Event χ)) : Prop where
  /-- All but the first pending scan are still to look for a tag. -/
  one_waits : (h.after events).OneWaits
  /-- Scans finish in the order in which they were started, each once at most; those
  that are pending come later. -/
  in_order : ((h.finished events).map (·.id) ++ (h.after events).ids).Pairwise (· < ·)
  never_after_drop (before : List (Event χ)) (id : Nat) (later : List (Event χ))
    (hsplit : events = before ++ .drop id :: later) (hstarted : id < scansIn before) :
    id ∉ ((h.after (before ++ [.drop id])).finished later).map (·.id)
  never_lost (before : List (Event χ)) (operation : Operation) (request : Request) (later : List (Event χ))
    (hsplit : events = before ++ .scan operation :: later)
    (hrequest : operation.request h.config (h.after before).keys.current = .ok request)
    (hkept : .drop (scansIn before) ∉ later) :
    scansIn before ∈ (h.finished events).map (·.id) ∨ scansIn before ∈ (h.after events).ids
  /-- All that a field sees are services, whole and one after the other, and they are the
  scans that finish. Each has the keys of the moment at which its scan was started. -/
  contiguous : ∃ services : List Service, h.finished events = services.map Service.finished ∧
    h.journal events = services.flatMap Service.seen ∧
    ∀ s ∈ services,
      (∃ before e later, events = before ++ e :: later ∧ (h.after before).Serves e s) ∧
      ∃ before operation later, events = before ++ .scan operation :: later ∧ s.id = scansIn before ∧
        operation.request h.config (h.after before).keys.current = .ok s.request ∧
        s.request.keys = (h.after before).keys.current
  /-- To let every scan go as far as it can is to poll each one in turn. -/
  poll_eq : (h.after events).queue.poll =
    ((h.after events).finished ((h.after events).ids.map .poll),
      ((h.after events).after ((h.after events).ids.map .poll)).queue)

/-- **Scans are serialised**, whatever happens to a host and its field. -/
theorem scans_serialised (field : φ) (keys : Keyring) (config : EngineConfig) (events : List (Event χ)) :
    (new field keys config).Serialised events := by
  set h := new field keys config with hnew
  have hfree : h.queue.pending = [] := rfl
  have hzero : h.nextId = 0 := rfl
  have hordered : h.Ordered := ordered_new field keys config
  have hnumber : ∀ before : List (Event χ), (h.after before).nextId = scansIn before := by
    intro before
    rw [nextId_after, hzero, Nat.zero_add]
  refine ⟨?_, ?_, ?_, ?_, ?_, ?_⟩
  · exact (oneWaits_of_free hfree).after events
  · exact hordered.run events
  · intro before id later hsplit hstarted
    rw [after_snoc]
    exact not_mem_finished_of_drop _ (by rw [hnumber]; exact hstarted) later
  · intro before operation request later hsplit hrequest hkept
    have hrequest' : operation.request (h.after before).config (h.after before).keys.current = .ok request := by
      rw [config_after]
      exact hrequest
    rw [← hnumber] at hkept ⊢
    rw [hsplit, finished_append, after_append, List.map_append, List.mem_append, or_assoc]
    exact Or.inr (mem_of_scan hrequest' later hkept)
  · obtain ⟨services, hfinished, hjournal, hserves⟩ := h.services_run events
    refine ⟨services, hfinished, hjournal, fun s hs => ⟨hserves s hs, ?_⟩⟩
    obtain ⟨before, e, later, rfl, hserve⟩ := hserves s hs
    have hstarted : h.Started (before ++ [e]) s.id s.request := by
      cases hserve with
      | cancelled p rest hlooks hcancelled => exact started_of_looks hfree hlooks
      | ran p rest uid link hlooks hfound => exact started_of_looks hfree hlooks
    have hall := hstarted.append later
    rw [List.append_assoc, List.singleton_append] at hall
    obtain ⟨first, operation, rest, hsplit, hid, hrequest⟩ := hall
    rw [hzero, Nat.zero_add] at hid
    exact ⟨first, operation, rest, hsplit, hid, hrequest, Operation.keys_of_request hrequest⟩
  · exact (hordered.after events).poll_eq

end Host
end Nearfield
