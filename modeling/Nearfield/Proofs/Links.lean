/-
# No link outlives its tag's stay

Tags come into a field and leave it, they are activated there, and frames are
sent on any of the links that the activations gave out. The field knows the tag
that is in it and no other, and a link knows a generation and no tag. That this
is enough is seen on premises where every tag that ever arrived has a number and
stays in sight, and a link is tethered to the tag that it was given out for:
the field is a view of such premises (`linked_after`), whatever is done with it.

There a frame reaches the tag at the other end of the tether if and only if that
tag has been in the field all the time since the activation and has not left by
itself; otherwise nothing happens, now and for ever (`links_end_with_their_tag`).
What carries the proof is that the field and a link agree about the generation
exactly as long as the tag stays (`stays_iff`).

Key definitions: `FieldUse`, `Linked`, `Premises`, `Premises.Sound`,
`Premises.Moves`, `Premises.Later`, `Premises.Stays`.
Key theorems: `Premises.moves`, `Premises.linked_after`, `Premises.stays_iff`,
`Premises.links_end_with_their_tag`.
-/
import Mathlib.Data.List.Induction
import Nearfield.Proofs.Channel.TagLink
import Nearfield.Proofs.Host.Basic

namespace Nearfield

/-- Activation takes nothing off the allowance. -/
theorem Tag.hasDeparted_activate {ρ : Type} [RandomSource ρ] (t : Tag) (rng : ρ) :
    (t.activate rng).2.1.hasDeparted = t.hasDeparted := by
  rw [t.activate_eq rng]
  rfl

/-! ### A field in use -/

/-- What is done with a field and the links to its tags. -/
inductive FieldUse where
  | change (c : FieldChange)
  | activate
  /-- A frame is sent on a link; links are numbered in the order of their
  activations. -/
  | transceive (link : Nat) (frame : Bytes)

/-- A station with the links that it has given out. -/
structure Linked (ρ : Type) where
  station : Station ρ
  /-- The generation that each link remembers. -/
  links : List Nat

namespace Linked
variable {ρ : Type} [RandomSource ρ]

/-- An empty field. -/
def start (rng : ρ) : Linked ρ := ⟨⟨Field.empty, rng⟩, []⟩

/-- A use with the answer to the frame, if one was sent. -/
def step (l : Linked ρ) : FieldUse → Option (Except LinkError Bytes) × Linked ρ
  | .change c => (none, { l with station := Changeable.change c l.station })
  | .activate =>
    match l.station.contact? with
    | some (_, contact) => (none, ⟨TagSource.release contact, l.links ++ [contact.generation]⟩)
    | none => (none, l)
  | .transceive link frame =>
    match l.links[link]? with
    | some generation =>
      let (answer, contact) := Contact.exchange frame ⟨l.station.field, generation, l.station.rng⟩
      (some answer, { l with station := TagSource.release contact })
    | none => (none, l)

def after (l : Linked ρ) (uses : List FieldUse) : Linked ρ := uses.foldl (fun l use => (l.step use).2) l

section
variable {l : Linked ρ} {t : Tag}

theorem step_removal (htag : l.station.field.tag = some t) : l.step (.change .removal) =
    (none, ⟨⟨⟨none, l.station.field.generation + 1, l.station.field.cancels⟩, l.station.rng⟩, l.links⟩) := by
  show (none, (⟨⟨l.station.field.remove, l.station.rng⟩, l.links⟩ : Linked ρ)) = _
  unfold Field.remove
  rw [htag]

theorem step_activate (htag : l.station.field.tag = some t) : l.step .activate =
    (none, ⟨⟨{ l.station.field with tag := some (t.activate l.station.rng).2.1 },
      (t.activate l.station.rng).2.2⟩, l.links ++ [l.station.field.generation]⟩) := by
  unfold step Station.contact?
  rw [htag]
  rfl

/-- Nothing is removed or activated in an empty field. -/
theorem step_empty (htag : l.station.field.tag = none) :
    l.step (.change .removal) = (none, l) ∧ l.step .activate = (none, l) := by
  constructor
  · show (none, (⟨⟨l.station.field.remove, l.station.rng⟩, l.links⟩ : Linked ρ)) = _
    unfold Field.remove
    rw [htag]
  · unfold step Station.contact?
    rw [htag]
    rfl

variable {link generation : Nat}

theorem step_answered (frame : Bytes) (hlink : l.links[link]? = some generation)
    (htag : l.station.field.tag = some t)
    (hstays : ¬ (l.station.field.generation ≠ generation ∨ t.hasDeparted = true)) :
    l.step (.transceive link frame) = (some (.ok (t.process frame l.station.rng).1),
      { l with station := ⟨{ l.station.field with tag := some (t.process frame l.station.rng).2.1 },
        (t.process frame l.station.rng).2.2⟩ }) := by
  unfold step
  dsimp only
  rw [hlink]
  dsimp only
  rw [Contact.exchange_eq]
  dsimp only
  rw [htag]
  dsimp only
  rw [if_neg hstays]
  rfl

theorem step_refused (frame : Bytes) (hlink : l.links[link]? = some generation)
    (hgone : ∀ t, l.station.field.tag = some t →
      l.station.field.generation ≠ generation ∨ t.hasDeparted = true) :
    l.step (.transceive link frame) = (some (.error .tagRemoved), l) := by
  unfold step
  dsimp only
  rw [hlink]
  dsimp only
  rw [Contact.exchange_eq]
  dsimp only
  cases htag : l.station.field.tag with
  | none => rfl
  | some t =>
    dsimp only
    rw [if_pos (hgone t htag)]
    rfl

end

end Linked

/-! ### Premises -/

/-- A link together with the tag that it was given out for. -/
structure Tether where
  /-- The number of the tag's arrival. -/
  tag : Nat
  generation : Nat

/-- A field together with all tags that have ever been brought into it. -/
structure Premises (ρ : Type) where
  /-- Every tag as it is now, in the order of arrivals. -/
  tags : List Tag
  /-- The number of the tag in the field. -/
  inside : Option Nat
  generation : Nat
  tethers : List Tether
  rng : ρ

namespace Premises
variable {ρ : Type}

/-- An empty field that no tag has been in. -/
def start (rng : ρ) : Premises ρ := ⟨[], none, 0, [], rng⟩

/-- The tag in the field. -/
def present? (p : Premises ρ) : Option Tag := p.inside.bind fun k => p.tags[k]?

/-- The field that is seen of the premises. -/
def linked (p : Premises ρ) : Linked ρ :=
  ⟨⟨⟨p.present?, p.generation, 0⟩, p.rng⟩, p.tethers.map Tether.generation⟩

/-- The tag with a number takes up a frame or an activation. -/
def update (p : Premises ρ) (k : Nat) (t : Tag) (rng : ρ) : Premises ρ :=
  { p with tags := p.tags.set k t, rng }

/-- A link is given out for the tag with a number. -/
def tie (p : Premises ρ) (k : Nat) : Premises ρ := { p with tethers := p.tethers ++ [⟨k, p.generation⟩] }

/-- The tag in the field leaves it. -/
def remove (p : Premises ρ) : Premises ρ :=
  match p.inside with
  | some _ => { p with inside := none, generation := p.generation + 1 }
  | none => p

variable [RandomSource ρ]

/-- The tag in the field is activated, and a link is given out for it. -/
def activate (p : Premises ρ) : Premises ρ :=
  match p.inside, p.present? with
  | some k, some t =>
    let (_, t, rng) := t.activate p.rng
    (p.update k t rng).tie k
  | _, _ => p

/-- A frame goes to the tag at the other end of the tether, wherever that is, if
the generations agree and the tag has not left. -/
def transceive (p : Premises ρ) (tether : Tether) (frame : Bytes) : Except LinkError Bytes × Premises ρ :=
  match p.tags[tether.tag]? with
  | some t =>
    if p.generation ≠ tether.generation ∨ t.hasDeparted then (.error .tagRemoved, p)
    else
      let (answer, t, rng) := t.process frame p.rng
      (.ok answer, p.update tether.tag t rng)
  | none => (.error .tagRemoved, p)

def step (p : Premises ρ) : FieldUse → Option (Except LinkError Bytes) × Premises ρ
  | .change (.arrival t) =>
    (none, { p with tags := p.tags ++ [t], inside := some p.tags.length, generation := p.generation + 1 })
  | .change .removal => (none, p.remove)
  | .activate => (none, p.activate)
  | .transceive link frame =>
    match p.tethers[link]? with
    | some tether =>
      let (answer, p) := p.transceive tether frame
      (some answer, p)
    | none => (none, p)

def after (p : Premises ρ) (uses : List FieldUse) : Premises ρ := uses.foldl (fun p use => (p.step use).2) p

theorem after_append (p : Premises ρ) (uses uses' : List FieldUse) :
    p.after (uses ++ uses') = (p.after uses).after uses' := List.foldl_append

/-! ### What a use does -/

omit [RandomSource ρ] in
/-- Everything refers to tags that have arrived, and a link with the generation
of the field to the tag in it. -/
structure Sound (p : Premises ρ) : Prop where
  inside_lt : ∀ {k}, p.inside = some k → k < p.tags.length
  tag_lt : ∀ tether ∈ p.tethers, tether.tag < p.tags.length
  generation_le : ∀ tether ∈ p.tethers, tether.generation ≤ p.generation
  inside_eq : ∀ tether ∈ p.tethers, tether.generation = p.generation → p.inside = some tether.tag

omit [RandomSource ρ] in
theorem sound_start (rng : ρ) : (start rng).Sound where
  inside_lt h := by cases h
  tag_lt _ h := by cases h
  generation_le _ h := by cases h
  inside_eq _ h := by cases h

/-- All that a use can do: a tag arrives or is removed, or a tag takes up
something, or nothing happens. -/
inductive Moves (p : Premises ρ) : FieldUse → Option (Except LinkError Bytes) → Premises ρ → Prop where
  | arrived (t : Tag) : Moves p (.change (.arrival t)) none
    { p with tags := p.tags ++ [t], inside := some p.tags.length, generation := p.generation + 1 }
  | removed (k : Nat) (hinside : p.inside = some k) :
    Moves p (.change .removal) none { p with inside := none, generation := p.generation + 1 }
  | activated (k : Nat) (t : Tag) (hinside : p.inside = some k) (ht : p.tags[k]? = some t) :
    Moves p .activate none ((p.update k (t.activate p.rng).2.1 (t.activate p.rng).2.2).tie k)
  | answered (link : Nat) (frame : Bytes) (tether : Tether) (t : Tag)
    (hlink : p.tethers[link]? = some tether) (ht : p.tags[tether.tag]? = some t)
    (hgeneration : p.generation = tether.generation) (hstays : t.hasDeparted = false) :
    Moves p (.transceive link frame) (some (.ok (t.process frame p.rng).1))
      (p.update tether.tag (t.process frame p.rng).2.1 (t.process frame p.rng).2.2)
  | refused (link : Nat) (frame : Bytes) (tether : Tether) (t : Tag)
    (hlink : p.tethers[link]? = some tether) (ht : p.tags[tether.tag]? = some t)
    (hgone : p.generation ≠ tether.generation ∨ t.hasDeparted = true) :
    Moves p (.transceive link frame) (some (.error .tagRemoved)) p
  | idle (use : FieldUse) (hempty : (use = .change .removal ∨ use = .activate) ∧ p.inside = none ∨
      ∃ link frame, use = .transceive link frame ∧ p.tethers[link]? = none) : Moves p use none p

section
variable {p p' : Premises ρ} {use : FieldUse} {answer : Option (Except LinkError Bytes)}

theorem transceive_moves {link : Nat} {tether : Tether} {t : Tag} (frame : Bytes)
    (hlink : p.tethers[link]? = some tether) (ht : p.tags[tether.tag]? = some t) :
    p.Moves (.transceive link frame) (some (p.transceive tether frame).1) (p.transceive tether frame).2 := by
  unfold transceive
  rw [ht]
  dsimp only
  split
  · exact .refused link frame tether t hlink ht ‹_›
  · rename_i hstays
    rw [not_or, Decidable.not_not, Bool.not_eq_true] at hstays
    exact .answered link frame tether t hlink ht hstays.1 hstays.2

/-- **Every use is on the list.** -/
theorem moves (h : p.Sound) (use : FieldUse) : p.Moves use (p.step use).1 (p.step use).2 := by
  cases use with
  | change c =>
    cases c with
    | arrival t => exact .arrived t
    | removal =>
      unfold step remove
      cases hinside : p.inside with
      | some k => exact .removed k hinside
      | none => exact .idle _ (Or.inl ⟨Or.inl rfl, hinside⟩)
  | activate =>
    unfold step activate present?
    cases hinside : p.inside with
    | some k =>
      obtain ⟨t, ht⟩ : ∃ t, p.tags[k]? = some t := ⟨_, List.getElem?_eq_getElem (h.inside_lt hinside)⟩
      rw [Option.bind_some, ht]
      exact .activated k t hinside ht
    | none => exact .idle _ (Or.inl ⟨Or.inr rfl, hinside⟩)
  | transceive link frame =>
    unfold step
    dsimp only
    cases hlink : p.tethers[link]? with
    | none => exact .idle _ (Or.inr ⟨link, frame, rfl, hlink⟩)
    | some tether =>
      have hlt := h.tag_lt tether (List.mem_of_getElem? hlink)
      exact transceive_moves frame hlink (List.getElem?_eq_getElem hlt)

/-- Tags are never forgotten. -/
theorem Moves.length_le (h : p.Moves use answer p') : p.tags.length ≤ p'.tags.length := by
  cases h with
  | arrived t => simp
  | activated k t hinside ht => simp [update, tie]
  | answered link frame tether t hlink ht hgeneration hstays => simp [update]
  | removed | refused | idle => exact Nat.le_refl _

/-- Neither are links. -/
theorem Moves.tethers_kept (h : p.Moves use answer p') : p.tethers <+: p'.tethers := by
  cases h with
  | activated k t hinside ht => exact List.prefix_append _ _
  | arrived | answered | removed | refused | idle => exact List.prefix_refl _

/-- **The generation tells whether the tag in the field is another one**: it
stays with the tag, and goes up when a tag comes or goes. -/
theorem Moves.generation_cases (h : p.Moves use answer p') :
    p'.inside = p.inside ∧ p'.generation = p.generation ∨
      p.generation < p'.generation ∧ ∀ k < p.tags.length, p'.inside ≠ some k := by
  cases h with
  | arrived t =>
    exact Or.inr ⟨Nat.lt_succ_self _, fun k hk he => Nat.ne_of_gt hk (Option.some.inj he)⟩
  | removed k hinside => exact Or.inr ⟨Nat.lt_succ_self _, fun k _ he => by cases he⟩
  | activated | answered | refused | idle => exact Or.inl ⟨rfl, rfl⟩

/-- A tag that has left by itself is gone. -/
theorem Moves.departed (h : p.Moves use answer p') {k : Nat} {t : Tag} (ht : p.tags[k]? = some t)
    (hdeparted : t.hasDeparted = true) : ∃ t', p'.tags[k]? = some t' ∧ t'.hasDeparted = true := by
  have hlt : k < p.tags.length := (List.getElem?_eq_some_iff.mp ht).1
  cases h with
  | arrived u => exact ⟨t, (List.getElem?_append_left hlt).trans ht, hdeparted⟩
  | activated j u hinside hu =>
    by_cases hj : j = k
    · subst hj
      cases hu.symm.trans ht
      exact ⟨_, List.getElem?_set_self hlt, (t.hasDeparted_activate p.rng).trans hdeparted⟩
    · exact ⟨t, (List.getElem?_set_ne hj).trans ht, hdeparted⟩
  | answered link frame tether u hlink hu hgeneration hstays =>
    have hne : tether.tag ≠ k := by
      intro hsame
      rw [hsame, ht] at hu
      cases hu
      rw [hstays] at hdeparted
      cases hdeparted
    exact ⟨t, (List.getElem?_set_ne hne).trans ht, hdeparted⟩
  | removed | refused | idle => exact ⟨t, ht, hdeparted⟩

omit [RandomSource ρ] in
/-- The premises at a later moment: links have kept their numbers, the generation has not
gone back, and a tag that had left by itself has not come back. -/
structure Later (p p' : Premises ρ) : Prop where
  tethers_le : p.tethers <+: p'.tethers
  generation_le : p.generation ≤ p'.generation
  departed : ∀ {k : Nat} {t : Tag}, p.tags[k]? = some t → t.hasDeparted = true →
    ∃ t', p'.tags[k]? = some t' ∧ t'.hasDeparted = true

omit [RandomSource ρ] in
theorem Later.refl (p : Premises ρ) : p.Later p where
  tethers_le := List.prefix_refl _
  generation_le := Nat.le_refl _
  departed ht hdeparted := ⟨_, ht, hdeparted⟩

omit [RandomSource ρ] in
theorem Later.trans {p'' : Premises ρ} (h : p.Later p') (h' : p'.Later p'') : p.Later p'' where
  tethers_le := h.tethers_le.trans h'.tethers_le
  generation_le := Nat.le_trans h.generation_le h'.generation_le
  departed ht hdeparted := by
    obtain ⟨t', ht', hdeparted'⟩ := h.departed ht hdeparted
    exact h'.departed ht' hdeparted'

theorem Moves.later (h : p.Moves use answer p') : p.Later p' where
  tethers_le := h.tethers_kept
  generation_le := by
    rcases h.generation_cases with ⟨-, hsame⟩ | ⟨hlt, -⟩
    · exact Nat.le_of_eq hsame.symm
    · exact Nat.le_of_lt hlt
  departed := h.departed

theorem Moves.sound (h : p.Moves use answer p') (hp : p.Sound) : p'.Sound := by
  have hlen := h.length_le
  cases h with
  | arrived t =>
    rw [List.length_append, List.length_singleton] at hlen
    refine ⟨fun he => ?_, fun tether hmem => ?_, fun tether hmem => ?_, fun tether hmem he => ?_⟩
    · cases he
      simp
    · exact Nat.lt_of_lt_of_le (hp.tag_lt tether hmem) (by simp)
    · exact Nat.le_succ_of_le (hp.generation_le tether hmem)
    · exact absurd (hp.generation_le tether hmem) (by rw [he]; exact Nat.not_succ_le_self _)
  | removed k hinside =>
    refine ⟨(nomatch ·), hp.tag_lt, fun tether hmem => ?_, fun tether hmem he => ?_⟩
    · exact Nat.le_succ_of_le (hp.generation_le tether hmem)
    · exact absurd (hp.generation_le tether hmem) (by rw [he]; exact Nat.not_succ_le_self _)
  | activated k t hinside ht =>
    have hnew : ∀ {P : Tether → Prop}, (∀ tether ∈ p.tethers, P tether) → P ⟨k, p.generation⟩ →
        ∀ tether ∈ p.tethers ++ [⟨k, p.generation⟩], P tether := by
      intro P hold hlast
      exact List.forall_mem_append.mpr ⟨hold, List.forall_mem_singleton.mpr hlast⟩
    refine ⟨fun he => Nat.lt_of_lt_of_le (hp.inside_lt he) hlen, hnew (fun tether hmem => ?_) ?_,
      hnew hp.generation_le (Nat.le_refl _), hnew hp.inside_eq fun _ => hinside⟩
    · exact Nat.lt_of_lt_of_le (hp.tag_lt tether hmem) hlen
    · exact Nat.lt_of_lt_of_le (hp.inside_lt hinside) hlen
  | answered link frame tether t hlink ht hgeneration hstays =>
    exact ⟨fun he => Nat.lt_of_lt_of_le (hp.inside_lt he) hlen,
      fun tether hmem => Nat.lt_of_lt_of_le (hp.tag_lt tether hmem) hlen, hp.generation_le, hp.inside_eq⟩
  | refused | idle => exact hp

omit [RandomSource ρ] in
theorem present?_of_inside {k : Nat} (hinside : p.inside = some k) : p.present? = p.tags[k]? := by
  unfold present?
  rw [hinside, Option.bind_some]

omit [RandomSource ρ] in
/-- A tag that takes up something is still the one that is seen in the field. -/
theorem linked_update {k : Nat} {t : Tag} (hinside : p.inside = some k) (ht : p.tags[k]? = some t)
    (t' : Tag) (rng : ρ) : (p.update k t' rng).linked =
      ⟨⟨{ p.linked.station.field with tag := some t' }, rng⟩, p.linked.links⟩ := by
  have hlt : k < p.tags.length := (List.getElem?_eq_some_iff.mp ht).1
  have hpresent : (p.update k t' rng).present? = some t' :=
    (present?_of_inside (p := p.update k t' rng) hinside).trans (List.getElem?_set_self hlt)
  unfold linked
  rw [hpresent]
  rfl

omit [RandomSource ρ] in
theorem linked_tie (p : Premises ρ) (k : Nat) :
    (p.tie k).linked = { p.linked with links := p.linked.links ++ [p.generation] } := by
  unfold linked tie
  rw [List.map_append]
  rfl

/-- **The field does what is seen of the premises.** -/
theorem Moves.linked_step (h : p.Moves use answer p') (hp : p.Sound) :
    p.linked.step use = (answer, p'.linked) := by
  have hlinks : ∀ {link : Nat} {tether : Tether}, p.tethers[link]? = some tether →
      p.linked.links[link]? = some tether.generation := by
    intro link tether hlink
    exact List.getElem?_map.trans (congrArg (Option.map Tether.generation) hlink)
  cases h with
  | arrived t =>
    have hnew : (p.tags ++ [t])[p.tags.length]? = some t := List.getElem?_concat_length
    unfold linked present?
    rw [Option.bind_some, hnew]
    rfl
  | removed k hinside =>
    obtain ⟨t, ht⟩ : ∃ t, p.tags[k]? = some t := ⟨_, List.getElem?_eq_getElem (hp.inside_lt hinside)⟩
    exact Linked.step_removal (l := p.linked) ((present?_of_inside hinside).trans ht)
  | activated k t hinside ht =>
    rw [Linked.step_activate (l := p.linked) ((present?_of_inside hinside).trans ht), linked_tie,
      linked_update hinside ht]
    rfl
  | answered link frame tether t hlink ht hgeneration hstays =>
    have hinside := hp.inside_eq tether (List.mem_of_getElem? hlink) hgeneration.symm
    rw [Linked.step_answered (l := p.linked) frame (hlinks hlink) ((present?_of_inside hinside).trans ht)
      (by simp [linked, hgeneration, hstays]), linked_update hinside ht]
    rfl
  | refused link frame tether t hlink ht hgone =>
    refine Linked.step_refused (l := p.linked) frame (hlinks hlink) fun u hu => ?_
    rcases hgone with hstale | hdeparted
    · exact Or.inl hstale
    by_cases hgeneration : p.generation = tether.generation
    · have hinside := hp.inside_eq tether (List.mem_of_getElem? hlink) hgeneration.symm
      cases ((present?_of_inside hinside).trans ht).symm.trans hu
      exact Or.inr hdeparted
    · exact Or.inl hgeneration
  | idle use hempty =>
    rcases hempty with ⟨huse, hinside⟩ | ⟨link, frame, rfl, hlink⟩
    · have htag : p.linked.station.field.tag = none := by
        show p.present? = none
        unfold present?
        rw [hinside, Option.bind_none]
      rcases huse with rfl | rfl
      · exact (Linked.step_empty htag).1
      · exact (Linked.step_empty htag).2
    · have hnone : p.linked.links[link]? = none :=
        List.getElem?_map.trans (congrArg (Option.map Tether.generation) hlink)
      unfold Linked.step
      dsimp only
      rw [hnone]

end

/-! ### Uses one after the other -/

section
variable {p : Premises ρ}

theorem Sound.after (h : p.Sound) (uses : List FieldUse) : (p.after uses).Sound := by
  induction uses generalizing p with
  | nil => exact h
  | cons use rest ih => exact ih ((moves h use).sound h)

theorem Sound.later (h : p.Sound) (uses : List FieldUse) : p.Later (p.after uses) := by
  induction uses generalizing p with
  | nil => exact .refl p
  | cons use rest ih => exact (moves h use).later.trans (ih ((moves h use).sound h))

/-- **The field is a view of the premises**, after any uses. -/
theorem linked_after (h : p.Sound) (uses : List FieldUse) : p.linked.after uses = (p.after uses).linked := by
  induction uses generalizing p with
  | nil => rfl
  | cons use rest ih =>
    have hstep := (moves h use).linked_step h
    unfold Linked.after
    rw [List.foldl_cons, hstep]
    exact ih ((moves h use).sound h)

/-- The tag with a number is in the field at every moment of these uses. -/
def Stays (p : Premises ρ) (k : Nat) (uses : List FieldUse) : Prop :=
  ∀ front, front <+: uses → (p.after front).inside = some k

theorem stays_nil {k : Nat} (hinside : p.inside = some k) : p.Stays k [] := by
  intro front hfront
  rw [List.prefix_nil.mp hfront]
  exact hinside

theorem stays_cons {k : Nat} {use : FieldUse} {rest : List FieldUse} (hinside : p.inside = some k) :
    p.Stays k (use :: rest) ↔ (p.step use).2.Stays k rest := by
  constructor
  · intro h front hfront
    exact h (use :: front) (List.cons_prefix_cons.mpr ⟨rfl, hfront⟩)
  · intro h front hfront
    cases front with
    | nil => exact hinside
    | cons first front =>
      obtain ⟨rfl, hrest⟩ := List.cons_prefix_cons.mp hfront
      exact h front hrest

/-- **A tag stays as long as the generation does.** -/
theorem stays_iff (h : p.Sound) {k : Nat} (hinside : p.inside = some k) (uses : List FieldUse) :
    p.Stays k uses ↔ (p.after uses).generation = p.generation := by
  induction uses generalizing p with
  | nil => exact ⟨fun _ => rfl, fun _ => stays_nil hinside⟩
  | cons use rest ih =>
    have hsound := (moves h use).sound h
    rw [stays_cons hinside]
    rcases (moves h use).generation_cases with ⟨hsame, hgeneration⟩ | ⟨hlt, hother⟩
    · have hrest := ih hsound (hsame.trans hinside)
      rw [hgeneration] at hrest
      exact hrest
    · constructor
      · intro hstays
        exact absurd (hstays [] List.nil_prefix) (hother k (h.inside_lt hinside))
      · intro hback
        have hle : (p.step use).2.generation ≤ ((p.step use).2.after rest).generation :=
          (hsound.later rest).generation_le
        exact absurd hback (Nat.ne_of_gt (Nat.lt_of_lt_of_le hlt hle))

/-! ### Links -/

/-- An activation with a tag in the field gives out a link for it. -/
theorem activated (h : p.Sound) {k : Nat} (hinside : p.inside = some k) :
    (p.step .activate).2.inside = some k ∧ (p.step .activate).2.generation = p.generation ∧
      (p.step .activate).2.tethers = p.tethers ++ [⟨k, p.generation⟩] := by
  have hmoves := moves h .activate
  generalize (p.step .activate).1 = answer, (p.step .activate).2 = p' at hmoves ⊢
  cases hmoves with
  | activated k' t hinside' ht =>
    cases hinside.symm.trans hinside'
    exact ⟨hinside, rfl, rfl⟩
  | idle use hempty =>
    rcases hempty with ⟨-, hnone⟩ | ⟨link, frame, huse, -⟩
    · rw [hinside] at hnone
      cases hnone
    · cases huse

/-- Every link was given out by an activation. -/
theorem exists_activation (h : p.Sound) (hnone : p.tethers = []) (uses : List FieldUse) {link : Nat}
    (hlink : link < (p.after uses).tethers.length) : ∃ before since k,
      uses = before ++ .activate :: since ∧ (p.after before).inside = some k ∧
        (p.after before).tethers.length = link := by
  induction uses using List.reverseRecOn with
  | nil =>
    rw [show p.after [] = p from rfl, hnone] at hlink
    cases hlink
  | append_singleton uses use ih =>
    by_cases hold : link < (p.after uses).tethers.length
    · obtain ⟨before, since, k, rfl, hinside, hlen⟩ := ih hold
      exact ⟨before, since ++ [use], k, by simp, hinside, hlen⟩
    · rw [after_append] at hlink
      have hmoves := moves (h.after uses) use
      change link < ((p.after uses).step use).2.tethers.length at hlink
      generalize ((p.after uses).step use).1 = answer, ((p.after uses).step use).2 = p' at hmoves hlink
      cases hmoves with
      | activated k t hinside ht =>
        refine ⟨uses, [], k, rfl, hinside, ?_⟩
        rw [tie, List.length_append, List.length_singleton] at hlink
        exact Nat.le_antisymm (Nat.not_lt.mp hold) (Nat.lt_succ_iff.mp hlink)
      | arrived | removed | answered | refused | idle => exact absurd hlink hold

/-- Links keep their numbers. -/
theorem tether_after (h : p.Sound) {link : Nat} {tether : Tether} (hlink : p.tethers[link]? = some tether)
    (uses : List FieldUse) : (p.after uses).tethers[link]? = some tether := by
  obtain ⟨rest, hrest⟩ := (h.later uses).tethers_le
  rw [← hrest, List.getElem?_append_left (List.getElem?_eq_some_iff.mp hlink).1, hlink]

omit [RandomSource ρ] in
theorem Sound.exists_tag (h : p.Sound) {link : Nat} {tether : Tether}
    (hlink : p.tethers[link]? = some tether) : ∃ t, p.tags[tether.tag]? = some t :=
  ⟨_, List.getElem?_eq_getElem (h.tag_lt tether (List.mem_of_getElem? hlink))⟩

/-- What becomes of a frame is known from the other end of the tether. -/
theorem transceive_cases {link : Nat} {tether : Tether} {t : Tag} (hlink : p.tethers[link]? = some tether)
    (ht : p.tags[tether.tag]? = some t) (frame : Bytes) :
    (p.generation = tether.generation ∧ t.hasDeparted = false → p.step (.transceive link frame) =
      (some (.ok (t.process frame p.rng).1),
        p.update tether.tag (t.process frame p.rng).2.1 (t.process frame p.rng).2.2)) ∧
    (¬ (p.generation = tether.generation ∧ t.hasDeparted = false) →
      p.step (.transceive link frame) = (some (.error .tagRemoved), p)) := by
  have hstep : p.step (.transceive link frame) =
      (some (p.transceive tether frame).1, (p.transceive tether frame).2) := by
    unfold step
    dsimp only
    rw [hlink]
  rw [hstep]
  unfold transceive
  rw [ht]
  dsimp only
  constructor
  · rintro ⟨hgeneration, hstays⟩
    rw [if_neg (by simp [hgeneration, hstays])]
  · intro hgone
    rw [not_and_or, Bool.not_eq_false] at hgone
    rw [if_pos hgone]

/-- **No link outlives its tag's stay in the field.** A link of a field was given
out by an activation, for the tag with number `k` that was in the field then. If
that tag has been there ever since and has not left by itself, a frame on the link
is answered by it, and no other tag takes notice; if not, the answer is that the
tag is gone, nothing changes, and so it is for ever, whatever is done with the
field later on. The field itself sees all this as the premises do. -/
theorem links_end_with_their_tag (rng : ρ) (uses : List FieldUse) {link : Nat}
    (hlink : link < ((Linked.start rng).after uses).links.length) :
    let p := (start rng).after uses
    ∃ before since k t, uses = before ++ .activate :: since ∧
      ((start rng).after before).inside = some k ∧ ((start rng).after before).tethers.length = link ∧
      p.tags[k]? = some t ∧
      let stayed := ((start rng).after (before ++ [.activate])).Stays k since ∧ t.hasDeparted = false
      (stayed → ∀ frame, p.step (.transceive link frame) = (some (.ok (t.process frame p.rng).1),
        p.update k (t.process frame p.rng).2.1 (t.process frame p.rng).2.2)) ∧
      (¬ stayed → ∀ later frame,
        (p.after later).step (.transceive link frame) = (some (.error .tagRemoved), p.after later)) ∧
      ∀ later use, ((Linked.start rng).after (uses ++ later)).step use =
        (((p.after later).step use).1, ((p.after later).step use).2.linked) := by
  intro p
  have hview : ∀ uses, (Linked.start rng).after uses = ((start rng).after uses).linked :=
    linked_after (sound_start rng)
  have hp : p.Sound := (sound_start rng).after uses
  have hfield : ∀ later use, ((Linked.start rng).after (uses ++ later)).step use =
      (((p.after later).step use).1, ((p.after later).step use).2.linked) := by
    intro later use
    rw [hview, after_append]
    exact (moves (hp.after later) use).linked_step (hp.after later)
  rw [hview, linked, List.length_map] at hlink
  obtain ⟨before, since, k, rfl, hinside, hlen⟩ := exists_activation (sound_start rng) rfl uses hlink
  -- the premises right after the activation
  obtain ⟨hinside₁, hgeneration₁, htethers₁⟩ := activated ((sound_start rng).after before) hinside
  have hafter₁ : (start rng).after (before ++ [.activate]) = (((start rng).after before).step .activate).2 :=
    after_append _ before [.activate]
  set p₁ := (start rng).after (before ++ [.activate]) with hp₁
  rw [← hafter₁] at hinside₁ hgeneration₁ htethers₁
  have hsound₁ : p₁.Sound := (sound_start rng).after _
  have hsplit : p = p₁.after since := by
    rw [hp₁, ← after_append, List.append_assoc]
    rfl
  have htether₁ : p₁.tethers[link]? = some ⟨k, p₁.generation⟩ := by
    rw [htethers₁, hgeneration₁, ← hlen]
    exact List.getElem?_concat_length
  have htether : p.tethers[link]? = some ⟨k, p₁.generation⟩ := hsplit ▸ tether_after hsound₁ htether₁ since
  obtain ⟨t, ht⟩ := hp.exists_tag htether
  have hstays : p₁.Stays k since ↔ p.generation = p₁.generation := by
    rw [hsplit]
    exact stays_iff hsound₁ hinside₁ since
  refine ⟨before, since, k, t, rfl, hinside, hlen, ht, ?_⟩
  intro stayed
  refine ⟨fun hstayed frame => (transceive_cases htether ht frame).1 ⟨hstays.mp hstayed.1, hstayed.2⟩, ?_,
    hfield⟩
  intro hgone later frame
  have htether' := tether_after hp htether later
  obtain ⟨t', ht'⟩ := (hp.after later).exists_tag htether'
  refine (transceive_cases htether' ht' frame).2 ?_
  rintro ⟨hgeneration, hpresent⟩
  -- the generation never comes back, and a tag that has left does not either
  have hback : p.generation = p₁.generation := by
    refine Nat.le_antisymm ?_ (hsplit ▸ (hsound₁.later since).generation_le)
    exact Nat.le_trans ((hp.later later).generation_le) (Nat.le_of_eq hgeneration)
  refine hgone ⟨hstays.mpr hback, Bool.eq_false_iff.mpr fun hdeparted => ?_⟩
  obtain ⟨u, hu, hleft⟩ := (hp.later later).departed ht hdeparted
  cases ht'.symm.trans hu
  rw [hpresent] at hleft
  cases hleft

/-- A tag that is taken out and put in again is not reached on the link to its
first stay. -/
theorem links_end_with_their_tag_removed :
    let t := Tag.new Uid.default
    let stay : List FieldUse := [.change (.arrival t), .activate]
    let uses := stay ++ [.change .removal, .change (.arrival t)]
    let field : Linked ByteStream := Linked.start ⟨[], 0⟩
    0 < (field.after uses).links.length ∧
      ((field.after stay).step (.transceive 0 Command.getVersion)).1 = some (.ok t.model.version.toBytes) ∧
      ∀ later frame, ((field.after (uses ++ later)).step (.transceive 0 frame)).1 = some (.error .tagRemoved) := by
  intro t stay uses field
  have hlink : 0 < (field.after uses).links.length := Nat.zero_lt_one
  refine ⟨hlink, rfl, fun later frame => ?_⟩
  obtain ⟨before, since, k, t', -, -, -, -, hstayed, hgone, hfield⟩ := links_end_with_their_tag _ uses hlink
  rw [hfield later]
  refine congrArg Prod.fst (hgone (fun hs => ?_) later frame)
  have hanswer := congrArg Prod.fst (hstayed hs Command.getVersion)
  cases hanswer

end

end Premises
end Nearfield
