/-
# What a refusal leaves behind

A tag runs a command first, then advances the counter of its session, and only
then knows what to answer. Every refusal but one comes before the command has done
anything. The exception is a WRITE to a user page under the last counter
(`LastTurn`): the page is written, there is no next turn, and the tag answers that
the access was denied (`LastTurn.process_eq`). There is no other
(`Answers.refused_cases`), and a tag that was idle at first is not in its last
turn before it has accepted 65535 commands (`refused_early`).

Key definition: `Tag.LastTurn`.
Key theorems: `Tag.Answers.refused_cases`, `Tag.process_refused`,
`Tag.refused_early`.
-/
import Nearfield.Proofs.Tag.History

namespace Nearfield

/-- Only the last counter has no next one. -/
theorem Session.advance?_eq_none_iff {s : Session} : s.advance? = none ↔ s.counter = 0xFFFF := by
  unfold advance?
  by_cases h : s.counter = 0xFFFF
  · simp [h]
  · simp [h]

namespace Tag
variable {t t' : Tag} {frame answer : Bytes} {code page : UInt8} {data : Page}

/-- The frame is a WRITE to a user page, with the MAC of a session that is under
its last counter. -/
def LastTurn (t : Tag) (frame : Bytes) (page : UInt8) (data : Page) : Prop :=
  ∃ s, t.state = .authenticated s ∧ s.counter = 0xFFFF ∧ Writable page ∧
    frame = s.protect (Command.write page data)

section
variable {ρ : Type} [RandomSource ρ]

/-- **The page is written and the WRITE refused.** -/
theorem LastTurn.process_eq (h : t.LastTurn frame page data) (rng : ρ) : t.process frame rng =
    ([Code.nakAuth], { t.taken with memory := t.memory.setPage page data }, rng) := by
  obtain ⟨s, hstate, hcounter, hpage, rfl⟩ := h
  have hhead : (s.protect (Command.write page data)).head? ≠ some Code.authenticate :=
    fun he => absurd (Option.some.inj he) (by decide)
  have hrun := runCommand_write t.taken s.slot data hpage
  have hlast : s.advance? = none := Session.advance?_eq_none_iff.mpr hcounter
  rw [process_authenticated rng hstate hhead, runSecure_exhausted (s.check?_protect _) hrun rfl hlast]
  rfl

end

/-- A refused frame has changed nothing, or it was a WRITE in the last turn. -/
theorem Answers.refused_cases (h : t.Answers frame answer t') (hnak : Answer.nak? answer = some code) :
    t' = t.taken ∨ ∃ page data, t.LastTurn frame page data := by
  cases h with
  | refused code' hcode => exact Or.inl rfl
  | challenged slot rndB hstate hframe hmodel hslot => cases hnak
  | opened slot rndB rndA hstate htoken => cases hnak
  | plain answer hstate hrun hnone => rw [hnone] at hnak; cases hnak
  | secured s next command data t' hstate hhead hcheck hrun hnone hnext =>
    -- data and a MAC are longer than a negative acknowledge
    have hlen : (data ++ t'.answerMac next data).length ≠ 1 := by
      rw [List.length_append, length_answerMac, Cmac.truncatedSize]
      omega
    rw [nak?_of_length hlen] at hnak
    cases hnak
  | exhausted s command data t' hstate hhead hcheck hrun hnone hnext =>
    have hframe := Session.check?_eq_some_iff.mp hcheck
    have hlast := Session.advance?_eq_none_iff.mp hnext
    rcases settled_runCommand hrun with hsame | ⟨page, p, rfl, hpage, -⟩
    · exact Or.inl hsame
    · exact Or.inr ⟨page, p, s, hstate, hlast, hpage, hframe⟩

variable {ρ : Type} [RandomSource ρ] {rng rng' : ρ}

/-- **After a refusal the tag is idle, and its memory is as it was**, unless the
frame was a WRITE in the last turn. Then the answer is that the access was denied,
and the page is written all the same. -/
theorem process_refused (hrun : t.process frame rng = ([code], t', rng')) (hcode : code ≠ Code.ack) :
    t'.state = .idle ∧ ((∀ page data, ¬ t.LastTurn frame page data) → t'.memory = t.memory) ∧
      ∀ page data, t.LastTurn frame page data →
        code = Code.nakAuth ∧ t'.memory = t.memory.setPage page data := by
  have hans : t.Answers frame [code] t' := by
    have := process_answers rng t frame
    rwa [hrun] at this
  have hnak : Answer.nak? [code] = some code := nak?_refused hcode
  refine ⟨hans.idle_of_nak (nak?_refused_ne hcode), fun hearlier => ?_, fun page data hlast => ?_⟩
  · rcases hans.refused_cases hnak with rfl | ⟨page, data, hlast⟩
    · rfl
    · exact absurd hlast (hearlier page data)
  · have hwritten := hlast.process_eq rng
    rw [hrun, Prod.mk.injEq, Prod.mk.injEq, List.cons.injEq] at hwritten
    exact ⟨hwritten.1.1, congrArg memory hwritten.2.1⟩

/-- A frame without a MAC is refused in a session, and a WRITE in its last turn is
refused as well. -/
theorem process_refused_last_turn :
    let s : Session := ⟨Block.zero, uidSlot, 0xFFFF⟩
    let t : Tag := { Tag.new Uid.default with state := .authenticated s }
    let rng : ByteStream := ⟨[], 0⟩
    let bare := Command.write 4 Page.zero
    let last := s.protect (Command.write 4 ⟨1, 2, 3, 4⟩)
    (∃ t', t.process bare rng = ([Code.nakAuth], t', rng) ∧ t'.state = .idle ∧ t'.memory = t.memory) ∧
      ∃ t', t.process last rng = ([Code.nakAuth], t', rng) ∧ t'.state = .idle ∧
        t'.memory = t.memory.setPage 4 ⟨1, 2, 3, 4⟩ := by
  intro s t rng bare last
  have hbare : (t.process bare rng).1 = [Code.nakAuth] := by decide +kernel
  have hcode : Code.nakAuth ≠ Code.ack := by decide
  have hlast : t.LastTurn last 4 ⟨1, 2, 3, 4⟩ := ⟨s, rfl, rfl, ⟨by decide, by decide⟩, rfl⟩
  have hearlier : ∀ page data, ¬ t.LastTurn bare page data := by
    intro page data h
    obtain ⟨s', -, -, -, hframe⟩ := h
    have hlen := congrArg List.length hframe
    rw [Session.length_protect] at hlen
    simp [bare, Command.write, Word.toBytes, Cmac.truncatedSize] at hlen
  refine ⟨?_, ?_⟩
  · have hrun : t.process bare rng = ([Code.nakAuth], (t.process bare rng).2.1, rng) := by
      rw [← hbare]
      rfl
    obtain ⟨hidle, hsame, -⟩ := process_refused hrun hcode
    exact ⟨_, hrun, hidle, hsame hearlier⟩
  · have hrun := hlast.process_eq rng
    obtain ⟨hidle, -, hwritten⟩ := process_refused hrun hcode
    exact ⟨_, hrun, hidle, (hwritten _ _ hlast).2⟩

/-- A tag that denies an access and has written the page. -/
theorem denied_and_written :
    let s : Session := ⟨Block.zero, uidSlot, 0xFFFF⟩
    let t : Tag := { Tag.new Uid.default with state := .authenticated s }
    let rng : ByteStream := ⟨[], 0⟩
    let frame := s.protect (Command.write 4 ⟨1, 2, 3, 4⟩)
    (t.process frame rng).1 = [Code.nakAuth] ∧ t.memory.page? 4 = some Page.zero ∧
      (t.process frame rng).2.1.memory.page? 4 = some ⟨1, 2, 3, 4⟩ := by
  decide +kernel

/-- The last turn comes after 65535 commands. -/
theorem Origin.le_length_of_last {start : Tag × ρ} {history : List Event} (o : Origin start history)
    (hlast : o.current.counter = 0xFFFF) : 65537 ≤ history.length := by
  have hcount : o.commands.length = 65535 := by
    rw [← o.session.toNat_counter_after o.length_le]
    exact congrArg UInt16.toNat hlast
  have hlen := congrArg List.length o.history_eq
  simp only [List.length_append, List.length_map, handshake, List.length_cons, List.length_nil] at hlen
  omega

/-- **A tag that was idle writes nothing that it refuses**, in a history of any
frames and activations that is not longer than a handshake and 65534 commands. -/
theorem refused_early {start : Tag × ρ} (hidle : start.1.state = .idle) {history : List Event}
    (hlen : history.length < 65537) {frame : Bytes}
    (hnak : Answer.nak? ((history.foldl Event.apply start).1.process frame
      (history.foldl Event.apply start).2).1 ≠ none) :
    (after start (history ++ [.frame frame])).memory = (after start history).memory ∧
      (after start (history ++ [.frame frame])).state = .idle := by
  have hans := process_answers (history.foldl Event.apply start).2 (after start history) frame
  rw [show ((after start history).process frame _).2.1 = after start (history ++ [.frame frame]) from
    (after_snoc start history (.frame frame)).symm] at hans
  refine ⟨?_, hans.idle_of_nak hnak⟩
  obtain ⟨code, hcode⟩ := Option.ne_none_iff_exists'.mp hnak
  rcases hans.refused_cases hcode with hsame | ⟨page, data, s, hstate, hlast, -⟩
  · rw [hsame]
    rfl
  · obtain ⟨o, rfl⟩ := (explained hidle history).authenticated s hstate
    have := o.le_length_of_last hlast
    omega

end Tag
end Nearfield
