/-
# What a field sees of its scans

A watched field writes down what happens on it: a tag is activated, frames are
exchanged, the link is given back. It is a field like any other and a host does
with it what it does with the field inside (`FieldMap.step_map` at `Watched.forget`),
so what is seen says something about every host: a transaction is seen as its own
frames and nothing else (`Transaction.run_watched`).

Key definitions: `FieldMap`, `Host.map`, `Seen`, `Watched`, `Watched.forget`,
`Host.journal`.
Key theorems: `FieldMap.step_map`, `FieldMap.after_map`, `FieldMap.finished_map`,
`Transaction.run_watched`.
-/
import Nearfield.Proofs.Conversation.Transactions
import Nearfield.Proofs.Host.Basic

namespace Nearfield

/-! ### Maps between fields -/

/-- What a look for a tag comes to on the image of a field. -/
def Activation.map {σ τ : Type} (link : σ → τ) (moment : Nat → Nat) : Activation σ → Activation τ
  | .found uid l => .found uid (link l)
  | .cancelled => .cancelled
  | .waiting since => .waiting (moment since)

/-- A map between fields that goes along with all that a host does with a field.
It may number the moments at which waits begin in another way. -/
structure FieldMap (φ ψ : Type) {σ τ χ : Type} [FrameLink σ] [FrameLink τ] [TagSource φ σ] [TagSource ψ τ]
    [Changeable φ χ] [Changeable ψ χ] where
  link : LinkMap σ τ
  map : φ → ψ
  moment : Nat → Nat
  activate_map (since : Option Nat) (field : φ) :
    TagSource.activate (since.map moment) (map field) = (TagSource.activate since field).map link.map moment
  release_map (l : σ) : TagSource.release (link.map l) = map (TagSource.release l)
  stop_map (field : φ) : TagSource.stopListening (map field) = map (TagSource.stopListening field)
  change_map (c : χ) (field : φ) : Changeable.change c (map field) = map (Changeable.change c field)

section
variable {φ ψ σ τ χ : Type} [FrameLink σ] [FrameLink τ] [TagSource φ σ] [TagSource ψ τ]
  [Changeable φ χ] [Changeable ψ χ]

def FieldMap.pending (f : FieldMap φ ψ) (p : Pending) : Pending := { p with since := p.since.map f.moment }

def FieldMap.queue (f : FieldMap φ ψ) (q : ScanQueue φ) : ScanQueue ψ :=
  ⟨f.map q.field, q.pending.map f.pending⟩

/-- The host with the image of its field. -/
def Host.map (f : FieldMap φ ψ) (h : Host φ) : Host ψ := { h with queue := f.queue h.queue }

namespace FieldMap
variable (f : FieldMap φ ψ)

theorem serve_map (field : φ) (ps : List Pending) :
    ScanQueue.serve (f.map field) (ps.map f.pending) =
      ((ScanQueue.serve field ps).1, f.queue (ScanQueue.serve field ps).2) := by
  induction ps generalizing field with
  | nil => rfl
  | cons p rest ih =>
    have hlook := f.activate_map p.since field
    simp only [ScanQueue.serve, List.map_cons, FieldMap.pending, hlook]
    cases hactivate : (TagSource.activate p.since field : Activation σ) with
    | found uid link =>
      simp only [Activation.map, Transaction.run_map, f.release_map]
      rw [ih]
    | cancelled =>
      simp only [Activation.map]
      rw [ih]
    | waiting since => rfl

theorem pollScan_map (q : ScanQueue φ) (id : Nat) :
    (f.queue q).pollScan id = ((q.pollScan id).1, f.queue (q.pollScan id).2) := by
  obtain ⟨field, ps⟩ := q
  cases ps with
  | nil => rfl
  | cons p rest =>
    have hserve := f.serve_map field [p]
    simp only [ScanQueue.pollScan, FieldMap.queue, List.map_cons]
    show (if p.id = id then _ else _) = _
    split
    · rw [List.map_singleton] at hserve
      rw [hserve]
      simp [FieldMap.queue]
    · rfl

theorem start_map (q : ScanQueue φ) (id : Nat) (request : Request) :
    (f.queue q).start id request = ((q.start id request).1, f.queue (q.start id request).2) := by
  obtain ⟨field, ps⟩ := q
  cases ps with
  | nil => exact f.serve_map field [⟨id, request, none⟩]
  | cons p rest => simp [ScanQueue.start, FieldMap.queue, FieldMap.pending]

theorem drop_map (q : ScanQueue φ) (id : Nat) : (f.queue q).drop id = f.queue (q.drop id) := by
  simp only [ScanQueue.drop, FieldMap.queue, List.filter_map]
  rfl

theorem cancel_map (q : ScanQueue φ) : (f.queue q).cancel = f.queue q.cancel := by
  simp only [ScanQueue.cancel, FieldMap.queue, f.stop_map]

/-- **An event does with the image of a field what it does with the field.** -/
theorem step_map (h : Host φ) (e : Event χ) : (h.map f).step e = ((h.step e).1, (h.step e).2.map f) := by
  cases e with
  | scan operation =>
    simp only [Host.step, Host.map]
    split
    · rfl
    · simp only [f.start_map]
  | poll id => simp only [Host.step, Host.map, f.pollScan_map]
  | drop id => simp only [Host.step, Host.map, f.drop_map]
  | cancel => simp only [Host.step, Host.map, f.cancel_map]
  | updateKeys update => rfl
  | change c => simp only [Host.step, Host.map, FieldMap.queue, f.change_map]

theorem after_map (h : Host φ) (events : List (Event χ)) : (h.map f).after events = (h.after events).map f := by
  induction events generalizing h with
  | nil => rfl
  | cons e events ih => rw [Host.after_cons, Host.after_cons, f.step_map, ih]

theorem finished_map (h : Host φ) (events : List (Event χ)) :
    (h.map f).finished events = h.finished events := by
  induction events generalizing h with
  | nil => rfl
  | cons e events ih => rw [Host.finished, Host.finished, f.step_map, ih]

end FieldMap
end

/-! ### Watched fields -/

/-- What a field sees. -/
inductive Seen where
  | activated (uid : Bytes)
  | exchanged (frame : Bytes) (answer : Except LinkError Bytes)
  | released

/-- A field with a journal. -/
structure Watched (φ : Type) where
  field : φ
  /-- Oldest entry first. -/
  journal : List Seen

/-- A link of a watched field. -/
structure WatchedLink (σ : Type) where
  link : σ
  journal : List Seen

section
variable {φ σ χ : Type} [FrameLink σ] [TagSource φ σ] [Changeable φ χ]

instance : FrameLink (WatchedLink σ) where
  nextByte w :=
    let (b, link) := RandomSource.nextByte w.link
    (b, { w with link })
  exchange frame w :=
    let (answer, link) := FrameLink.exchange frame w.link
    (answer, ⟨link, w.journal ++ [.exchanged frame answer]⟩)

namespace Watched

/-- Writes down a tag that is found. -/
def activate (since : Option Nat) (w : Watched φ) : Activation (WatchedLink σ) :=
  match TagSource.activate since w.field with
  | .found uid link => .found uid ⟨link, w.journal ++ [.activated uid]⟩
  | .cancelled => .cancelled
  | .waiting since => .waiting since

instance : TagSource (Watched φ) (WatchedLink σ) where
  activate := activate
  release w := ⟨TagSource.release w.link, w.journal ++ [.released]⟩
  stopListening w := { w with field := TagSource.stopListening w.field }

instance : Changeable (Watched φ) χ where
  change c w := { w with field := Changeable.change c w.field }

omit [FrameLink σ] in
theorem found_inside {since : Option Nat} {w : Watched φ} {uid : Bytes} {l : WatchedLink σ}
    (h : TagSource.activate since w = .found uid l) : ∃ link, TagSource.activate since w.field = .found uid link ∧
      l = ⟨link, w.journal ++ [.activated uid]⟩ := by
  change activate since w = _ at h
  unfold activate at h
  split at h
  · rename_i hinside
    cases h
    exact ⟨_, hinside, rfl⟩
  · cases h
  · cases h

omit [FrameLink σ] in
theorem activate_eq_cancelled {since : Option Nat} {w : Watched φ} :
    TagSource.activate since w = .cancelled ↔ TagSource.activate since w.field = .cancelled := by
  show activate since w = .cancelled ↔ _
  unfold activate
  cases (TagSource.activate since w.field : Activation σ) <;> simp

/-- The field inside. -/
def forget : FieldMap (Watched φ) φ where
  link := ⟨WatchedLink.link, fun _ => rfl, fun _ _ => rfl⟩
  map := Watched.field
  moment := id
  activate_map since w := by
    show TagSource.activate (since.map id) w.field = (activate since w).map _ id
    rw [Option.map_id_apply]
    unfold activate
    cases (TagSource.activate since w.field : Activation σ) <;> rfl
  release_map _ := rfl
  stop_map _ := rfl
  change_map _ _ := rfl

theorem pending_forget (p : Pending) : (forget : FieldMap (Watched φ) φ).pending p = p := by
  show { p with since := p.since.map id } = p
  rw [Option.map_id_apply]

end Watched

/-- The map goes along with a journal. -/
def FieldMap.watched {ψ τ : Type} [FrameLink τ] [TagSource ψ τ] [Changeable ψ χ] (f : FieldMap φ ψ) :
    FieldMap (Watched φ) (Watched ψ) where
  link := {
    map := fun w => ⟨f.link.map w.link, w.journal⟩
    nextByte_map := fun w => by simp only [RandomSource.nextByte, f.link.nextByte_map w.link]
    exchange_map := fun frame w => by simp only [FrameLink.exchange, f.link.exchange_map frame w.link] }
  map w := ⟨f.map w.field, w.journal⟩
  moment := f.moment
  activate_map since w := by
    have hlook := f.activate_map since w.field
    show Watched.activate (since.map f.moment) ⟨f.map w.field, w.journal⟩ = (Watched.activate since w).map _ _
    unfold Watched.activate
    dsimp only
    rw [hlook]
    cases (TagSource.activate since w.field : Activation σ) <;> rfl
  release_map w := by
    have hrelease := f.release_map w.link
    show Watched.mk (TagSource.release (f.link.map w.link)) _ = _
    rw [hrelease]
    rfl
  stop_map w := congrArg (Watched.mk · w.journal) (f.stop_map w.field)
  change_map c w := congrArg (Watched.mk · w.journal) (f.change_map c w.field)

/-! ### The frames of a transaction -/

/-- What a field sees of a log. -/
def Seen.ofLog (log : List Entry) : List Seen := (exchanges log).map fun x => .exchanged x.1 x.2

theorem Seen.ofLog_drew (log : List Entry) (b : UInt8) : ofLog (log ++ [.drew b]) = ofLog log := by
  have hdrew : exchanges [.drew b] = [] := rfl
  rw [ofLog, exchanges_append, hdrew, List.append_nil, ofLog]

theorem Seen.ofLog_exchanged (log : List Entry) (frame : Bytes) (answer : Except LinkError Bytes) :
    ofLog (log ++ [.exchanged frame answer]) = ofLog log ++ [.exchanged frame answer] := by
  rw [ofLog, exchanges_append, List.map_append]
  rfl

/-- A log, behind what was seen before. -/
def WatchedLink.ofLogged (front : List Seen) : LinkMap (Logged σ) (WatchedLink σ) where
  map l := ⟨l.link, front ++ Seen.ofLog l.log⟩
  nextByte_map l := by
    have hlog := Seen.ofLog_drew l.log (RandomSource.nextByte l.link).1
    show (_, WatchedLink.mk _ _) = (_, WatchedLink.mk _ (front ++ Seen.ofLog (l.log ++ [.drew _])))
    rw [hlog]
    rfl
  exchange_map frame l := by
    have hlog := Seen.ofLog_exchanged l.log frame (FrameLink.exchange frame l.link).1
    show (_, WatchedLink.mk _ _) = (_, WatchedLink.mk _ (front ++ Seen.ofLog (l.log ++ [.exchanged frame _])))
    rw [hlog, ← List.append_assoc]
    rfl

/-- **A transaction is seen as its own frames**, and ends as if nobody watched. -/
theorem Transaction.run_watched (uid : Bytes) (request : Request) (link : σ) (front : List Seen) :
    run uid request (⟨link, front⟩ : WatchedLink σ) = ((run uid request link).1,
      ⟨(run uid request link).2, front ++ Seen.ofLog (record uid request link)⟩) := by
  have hwatched := run_map (WatchedLink.ofLogged front) uid request (⟨link, []⟩ : Logged σ)
  have hplain := run_map Logged.forget uid request (⟨link, []⟩ : Logged σ)
  have hstart : (WatchedLink.ofLogged front).map (⟨link, []⟩ : Logged σ) = ⟨link, front⟩ := by
    show WatchedLink.mk link (front ++ []) = _
    rw [List.append_nil]
  have hlink : (run uid request (⟨link, []⟩ : Logged σ)).2.link = (run uid request link).2 :=
    (congrArg Prod.snd hplain).symm
  rw [hstart, run_logged] at hwatched
  rw [hwatched, ← hlink]
  rfl

/-! ### Watched hosts -/

namespace Host

/-- The host with an empty journal beside its field. -/
def watched (h : Host φ) : Host (Watched φ) := { h with queue := ⟨⟨h.queue.field, []⟩, h.queue.pending⟩ }

/-- What the field sees in the course of some events. -/
def journal (h : Host φ) (events : List (Event χ)) : List Seen :=
  (h.watched.after events).queue.field.journal

theorem forget_watched (h : Host φ) : h.watched.map Watched.forget = h := by
  obtain ⟨keys, config, ⟨field, pending⟩, nextId⟩ := h
  have hpending : pending.map (Watched.forget : FieldMap (Watched φ) φ).pending = pending := by
    rw [List.map_congr_left fun p _ => Watched.pending_forget p, List.map_id']
  simp only [watched, Host.map, FieldMap.queue, hpending]
  rfl

/-- **A host does what it does when its field is watched.** -/
theorem forget_after (h : Host φ) (events : List (Event χ)) :
    (h.watched.after events).map Watched.forget = h.after events := by
  rw [← Watched.forget.after_map, forget_watched]

theorem finished_watched (h : Host φ) (events : List (Event χ)) :
    h.watched.finished events = h.finished events := by
  rw [← Watched.forget.finished_map, forget_watched]

end Host
end
end Nearfield
