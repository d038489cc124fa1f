/-
# A random identifier hides the real one

Two tags that show random identifiers and differ in nothing but the identifier
and its pages are driven in the same way, with the same random bytes. Whatever
they are sent, they stay such a pair (`Twins.apply`), so what one of them lets
out at any moment at which it is not in a session on the identifier's slot, the
other one lets out as well (`random_id_hides_uid`): identifiers, challenges,
MACs, refusals, and READs that count on from the last page to the first.

In a session on the identifier's slot the pages are no longer hidden. What is
let out then differs, but what the tags become does not, so once that session
has ended they cannot be told apart again.

Key definitions: `Tag.Twins`, `Tag.Revealing`, `Tag.shown`.
Key theorems: `Tag.Twins.process`, `Tag.Twins.reached`, `Tag.random_id_hides_uid`.
-/
import Nearfield.Proofs.Memory
import Nearfield.Proofs.Tag.Handshake
import Nearfield.Proofs.Tag.History

namespace Nearfield
namespace Tag

/-- In a session on the identifier's slot. -/
def Revealing (t : Tag) : Prop :=
  match t.state with
  | .authenticated s => s.slot = uidSlot
  | _ => False

instance (t : Tag) : Decidable (Revealing t) := by
  unfold Revealing
  split <;> infer_instance

/-- Both tags show random identifiers, and they agree in everything but the
identifier and its three pages. -/
structure Twins (t u : Tag) : Prop where
  random : t.randomId = true
  random' : u.randomId = true
  model_eq : u.model = t.model
  key0_eq : u.key0 = t.key0
  key1_eq : u.key1 = t.key1
  forges_eq : u.forges = t.forges
  state_eq : u.state = t.state
  allowance_eq : u.allowance = t.allowance
  memory : Memory.SameOutside 0 3 t.memory u.memory

section
variable {t u : Tag}

namespace Twins

theorem key_eq (h : Twins t u) (slot : UInt8) : u.key slot = t.key slot := by
  unfold Tag.key
  rw [h.key0_eq, h.key1_eq]

theorem answerMac_eq (h : Twins t u) (s : Session) (data : Bytes) :
    u.answerMac s data = t.answerMac s data := by
  unfold Tag.answerMac
  rw [h.forges_eq]

/-- Whatever state both come to. -/
theorem withState (h : Twins t u) (state : TagState) : Twins { t with state } { u with state } :=
  { h with state_eq := rfl }

theorem taken (h : Twins t u) : Twins t.taken u.taken := by
  have hallowance : u.taken.allowance = t.taken.allowance := by
    show u.allowance.map (· - 1) = t.allowance.map (· - 1)
    rw [h.allowance_eq]
  exact { h with state_eq := rfl, allowance_eq := hallowance }

/-- The same page is written on both. -/
theorem setPage (h : Twins t u) (page : UInt8) (data : Page) :
    Twins { t with memory := t.memory.setPage page data }
      { u with memory := u.memory.setPage page data } := by
  refine { h with memory := fun n hn => ?_ }
  have hold : u.memory.wrapped n = t.memory.wrapped n := h.memory.wrapped_eq n.isLt hn
  have hnew : (u.memory.setPage page data).wrapped n = (t.memory.setPage page data).wrapped n := by
    rw [Memory.wrapped_setPage, Memory.wrapped_setPage, hold]
  rwa [Memory.wrapped_of_lt _ n.isLt, Memory.wrapped_of_lt _ n.isLt] at hnew

/-! ### Commands -/

/-- **The identifier pages are zeros on both**, also where a READ counts on from
the last page to the first. -/
theorem readPages_eq (h : Twins t u) {slot : Option UInt8} (hslot : slot ≠ some uidSlot)
    (start : UInt8) : u.readPages slot start = t.readPages slot start := by
  have hhidden : t.randomId = true ∧ slot ≠ some uidSlot := ⟨h.random, hslot⟩
  have hhidden' : u.randomId = true ∧ slot ≠ some uidSlot := ⟨h.random', hslot⟩
  unfold Tag.readPages
  dsimp only
  congr 1
  funext n
  by_cases hn : n % pageCount < 3
  · rw [if_pos ⟨hhidden', hn⟩, if_pos ⟨hhidden, hn⟩]
  · have hpage : u.memory.wrapped n = t.memory.wrapped n :=
      h.memory ⟨n % pageCount, Nat.mod_lt n (by decide)⟩ (Or.inr (Nat.not_lt.mp hn))
    rw [if_neg (fun hboth => hn hboth.2), if_neg (fun hboth => hn hboth.2)]
    rw [hpage]

/-- Both tags run a command alike, and outside of a session on the identifier's
slot they answer it alike. -/
theorem runCommand (h : Twins t u) (slot : Option UInt8) (frame : Bytes) :
    Twins (t.runCommand slot frame).2 (u.runCommand slot frame).2 ∧
      Answer.nak? (u.runCommand slot frame).1 = Answer.nak? (t.runCommand slot frame).1 ∧
      (slot ≠ some uidSlot → (u.runCommand slot frame).1 = (t.runCommand slot frame).1) := by
  have hread : ∀ page, Answer.nak? (u.readPages slot page) = Answer.nak? (t.readPages slot page) := by
    intro page
    have hlen : ∀ v : Tag, (v.readPages slot page).length ≠ 1 := by
      intro v
      rw [length_readPages]
      decide
    rw [nak?_of_length (hlen u), nak?_of_length (hlen t)]
  unfold Tag.runCommand
  split
  · split
    · rw [h.model_eq]
      exact ⟨h, rfl, fun _ => rfl⟩
    · exact ⟨h, rfl, fun _ => rfl⟩
  · split
    · exact ⟨h, hread _, fun hslot => h.readPages_eq hslot _⟩
    · exact ⟨h, rfl, fun _ => rfl⟩
  · split
    · exact ⟨h, rfl, fun _ => rfl⟩
    · split
      · exact ⟨h, rfl, fun _ => rfl⟩
      · exact ⟨h.setPage _ _, rfl, fun _ => rfl⟩
  · exact ⟨h, rfl, fun _ => rfl⟩

/-- A frame with a MAC: both tags check it alike, and take the session to the
same turn. -/
theorem runSecure (h : Twins t u) (s : Session) (frame : Bytes) :
    Twins (t.runSecure s frame).2 (u.runSecure s frame).2 ∧
      (s.slot ≠ uidSlot → (u.runSecure s frame).1 = (t.runSecure s frame).1) := by
  cases hcheck : s.check? frame with
  | none =>
    unfold Tag.runSecure
    rw [hcheck]
    exact ⟨h, fun _ => rfl⟩
  | some command =>
    obtain ⟨htwins, hnak, hdata⟩ := h.runCommand (some s.slot) command
    cases hrun : t.runCommand (some s.slot) command with
    | mk data t' =>
    cases hrun' : u.runCommand (some s.slot) command with
    | mk data' u' =>
    rw [hrun, hrun'] at htwins hnak hdata
    dsimp only at htwins hnak hdata
    have hsame : s.slot ≠ uidSlot → data' = data := fun hslot =>
      hdata (fun he => hslot (Option.some.inj he))
    cases hcode : Answer.nak? data with
    | some code =>
      rw [runSecure_refused hcheck hrun hcode, runSecure_refused hcheck hrun' (hnak.trans hcode)]
      exact ⟨htwins, hsame⟩
    | none =>
      cases hnext : s.advance? with
      | none =>
        rw [runSecure_exhausted hcheck hrun hcode hnext,
          runSecure_exhausted hcheck hrun' (hnak.trans hcode) hnext]
        exact ⟨htwins, fun _ => rfl⟩
      | some next =>
        rw [runSecure_secured hcheck hrun hcode hnext,
          runSecure_secured hcheck hrun' (hnak.trans hcode) hnext]
        refine ⟨htwins.withState _, fun hslot => ?_⟩
        dsimp only
        rw [hsame hslot, htwins.answerMac_eq]

/-! ### Handshakes -/

section
variable {ρ : Type} [RandomSource ρ]

/-- Both tags draw the same challenge. -/
theorem challenge (h : Twins t u) (frame : Bytes) (rng : ρ) :
    Twins (t.challenge frame rng).2.1 (u.challenge frame rng).2.1 ∧
      (u.challenge frame rng).2.2 = (t.challenge frame rng).2.2 ∧
      (u.challenge frame rng).1 = (t.challenge frame rng).1 := by
  unfold Tag.challenge
  split
  · rename_i c slot
    by_cases hrefused : t.model ≠ .ultralightAes ∨ slot > uidSlot
    · have hrefused' : u.model ≠ .ultralightAes ∨ slot > uidSlot := by rwa [h.model_eq]
      rw [if_pos hrefused, if_pos hrefused']
      exact ⟨h, rfl, rfl⟩
    · have hrefused' : ¬ (u.model ≠ .ultralightAes ∨ slot > uidSlot) := by rwa [h.model_eq]
      rw [if_neg hrefused, if_neg hrefused']
      dsimp only
      rw [h.key_eq]
      exact ⟨h.withState _, rfl, rfl⟩
  · exact ⟨h, rfl, rfl⟩

/-- Both tags accept the same answer to it. -/
theorem prove (h : Twins t u) (slot : UInt8) (rndB : Block) (frame : Bytes) :
    Twins (t.prove slot rndB frame).2 (u.prove slot rndB frame).2 ∧
      (u.prove slot rndB frame).1 = (t.prove slot rndB frame).1 := by
  unfold Tag.prove
  rw [h.key_eq]
  split
  · split
    · exact ⟨h.withState _, rfl⟩
    · exact ⟨h, rfl⟩
  · exact ⟨h, rfl⟩

/-! ### Events -/

/-- Activation shows the same random identifier. -/
theorem activate (h : Twins t u) (rng : ρ) :
    Twins (t.activate rng).2.1 (u.activate rng).2.1 ∧
      (u.activate rng).2.2 = (t.activate rng).2.2 ∧ (u.activate rng).1 = (t.activate rng).1 := by
  unfold Tag.activate
  dsimp only
  rw [if_pos h.random, if_pos h.random']
  exact ⟨h.withState .idle, rfl, rfl⟩

/-- **One frame** takes twins to twins, and unless a session on the identifier's
slot is open both answer it alike. -/
theorem process (h : Twins t u) (frame : Bytes) (rng : ρ) :
    Twins (t.process frame rng).2.1 (u.process frame rng).2.1 ∧
      (u.process frame rng).2.2 = (t.process frame rng).2.2 ∧
      (¬ Revealing t → (u.process frame rng).1 = (t.process frame rng).1) := by
  have hsame : ∀ {state}, t.state = state → u.state = state := fun hstate => h.state_eq.trans hstate
  cases hstate : t.state with
  | challenged slot rndB =>
    obtain ⟨htwins, hanswer⟩ := h.taken.prove slot rndB frame
    rw [process_challenged rng hstate, process_challenged rng (hsame hstate)]
    exact ⟨htwins, rfl, fun _ => hanswer⟩
  | authenticated s =>
    by_cases hhead : frame.head? = some Code.authenticate
    · obtain ⟨htwins, hrng, hanswer⟩ := h.taken.challenge frame rng
      rw [process_authenticate rng (.of_authenticated hstate) hhead,
        process_authenticate rng (.of_authenticated (hsame hstate)) hhead]
      exact ⟨htwins, hrng, fun _ => hanswer⟩
    · obtain ⟨htwins, hanswer⟩ := h.taken.runSecure s frame
      have hslot : ¬ Revealing t → s.slot ≠ uidSlot := by
        intro hclosed hslot
        unfold Revealing at hclosed
        rw [hstate] at hclosed
        exact hclosed hslot
      rw [process_authenticated rng hstate hhead, process_authenticated rng (hsame hstate) hhead]
      exact ⟨htwins, rfl, fun hclosed => hanswer (hslot hclosed)⟩
  | idle =>
    by_cases hhead : frame.head? = some Code.authenticate
    · obtain ⟨htwins, hrng, hanswer⟩ := h.taken.challenge frame rng
      rw [process_authenticate rng (.of_idle hstate) hhead,
        process_authenticate rng (.of_idle (hsame hstate)) hhead]
      exact ⟨htwins, hrng, fun _ => hanswer⟩
    · obtain ⟨htwins, -, hanswer⟩ := h.taken.runCommand none frame
      rw [process_idle rng hstate hhead, process_idle rng (hsame hstate) hhead]
      exact ⟨htwins, rfl, fun _ => hanswer (by decide)⟩

end
end Twins
end

/-! ### Histories -/

section
variable {ρ : Type} [RandomSource ρ] {t u : Tag}

/-- What a tag lets out at an event: an identifier, or the answer to a frame. -/
def Event.shown (x : Tag × ρ) : Event → Bytes
  | .activation => (x.1.activate x.2).1
  | .frame bytes => (x.1.process bytes x.2).1

/-- All that a tag lets out in a history. -/
def shown (start : Tag × ρ) : List Event → List Bytes
  | [] => []
  | e :: rest => e.shown start :: shown (e.apply start) rest

/-- The tag and its random bytes after a history. -/
def reached (start : Tag × ρ) (history : List Event) : Tag × ρ := history.foldl Event.apply start

theorem Twins.apply (h : Twins t u) (rng : ρ) (e : Event) :
    Twins (e.apply (t, rng)).1 (e.apply (u, rng)).1 ∧ (e.apply (u, rng)).2 = (e.apply (t, rng)).2 ∧
      (¬ Revealing t → e.shown (u, rng) = e.shown (t, rng)) := by
  cases e with
  | activation =>
    obtain ⟨htwins, hrng, hid⟩ := h.activate rng
    exact ⟨htwins, hrng, fun _ => hid⟩
  | frame bytes => exact h.process bytes rng

/-- **Twins stay twins**, whatever happens to both. -/
theorem Twins.reached (h : Twins t u) (rng : ρ) (history : List Event) :
    Twins (reached (t, rng) history).1 (reached (u, rng) history).1 ∧
      (reached (u, rng) history).2 = (reached (t, rng) history).2 := by
  induction history generalizing t u rng with
  | nil => exact ⟨h, rfl⟩
  | cons e rest ih =>
    obtain ⟨htwins, hrng, -⟩ := h.apply rng e
    have hu : e.apply (u, rng) = ((e.apply (u, rng)).1, (e.apply (t, rng)).2) := Prod.ext rfl hrng
    have hrest := ih htwins (e.apply (t, rng)).2
    rw [← hu] at hrest
    exact hrest

theorem Twins.shown_eq (h : Twins t u) (rng : ρ) (history : List Event)
    (hclosed : ∀ n < history.length, ¬ Revealing (after (t, rng) (history.take n))) :
    shown (u, rng) history = shown (t, rng) history := by
  induction history generalizing t u rng with
  | nil => rfl
  | cons e rest ih =>
    obtain ⟨htwins, hrng, hshown⟩ := h.apply rng e
    have hfirst : e.shown (u, rng) = e.shown (t, rng) := hshown (hclosed 0 (Nat.succ_pos _))
    have hu : e.apply (u, rng) = ((e.apply (u, rng)).1, (e.apply (t, rng)).2) := Prod.ext rfl hrng
    have hrest := ih htwins (e.apply (t, rng)).2 fun n hn => hclosed (n + 1) (Nat.succ_lt_succ hn)
    rw [← hu] at hrest
    rw [shown, shown, hfirst]
    exact congrArg _ hrest

/-- **A random identifier hides the real one.** Two tags with random identifiers
that differ only in the identifier and its pages, after the same history and
with the same random bytes: at every event at which no session on the
identifier's slot is open they let out the same bytes, and so all that they have
let out is the same if there was none. -/
theorem random_id_hides_uid (h : Twins t u) (rng : ρ) (history : List Event) :
    (∀ e : Event, ¬ Revealing (after (t, rng) history) →
      e.shown (reached (u, rng) history) = e.shown (reached (t, rng) history)) ∧
    ((∀ n < history.length, ¬ Revealing (after (t, rng) (history.take n))) →
      shown (u, rng) history = shown (t, rng) history) := by
  refine ⟨fun e hclosed => ?_, h.shown_eq rng history⟩
  obtain ⟨htwins, hrng⟩ := h.reached rng history
  have hu : reached (u, rng) history = ((reached (u, rng) history).1, (reached (t, rng) history).2) :=
    Prod.ext rfl hrng
  rw [hu]
  exact (htwins.apply _ e).2.2 hclosed

/-- In a session on the data key's slot, a READ of the last page that counts on
to the identifier pages. -/
theorem random_id_hides_uid_wrapped :
    let t : Tag := { Tag.new Uid.default with randomId := true }
    let u : Tag := { Tag.new ⟨4, 1, 2, 3, 4, 5, 6⟩ with randomId := true }
    let rndB := Block.zeroFilled [1, 2, 3]
    let rng : ByteStream := ⟨[7, 8, 9] ++ rndB.toBytes, 0⟩
    let s := Session.establish Block.zero dataSlot Block.zero rndB
    let history : List Event := [.activation, .frame (Command.authenticate dataSlot),
      .frame (proofFrame Block.zero Block.zero rndB), .frame (s.protect (Command.read lastPage))]
    Twins t u ∧ (∀ n < history.length, ¬ Revealing (after (t, rng) (history.take n))) ∧
      (after (t, rng) history).state = .authenticated (s.after 1) ∧
      shown (u, rng) history = shown (t, rng) history := by
  intro t u rndB rng s history
  have htwins : Twins t u := by
    refine ⟨rfl, rfl, rfl, rfl, rfl, rfl, rfl, rfl, ?_⟩
    unfold Memory.SameOutside
    decide
  have hclosed : ∀ n < history.length, ¬ Revealing (after (t, rng) (history.take n)) := by
    decide +kernel
  have hopen : (after (t, rng) history).state = .authenticated (s.after 1) := by decide +kernel
  exact ⟨htwins, hclosed, hopen, (random_id_hides_uid htwins rng history).2 hclosed⟩

end
end Tag
end Nearfield
