/-
# Where a tag's session comes from

Anybody can activate a tag and send it any frames in any order. As long as the
tag is in a session, the history ends with the handshake that opened it and the
commands that it has accepted since, each under its turn (`Origin`), and such a
history leaves it in that session (`Origin.state_eq`). As long as it waits for
the answer to a challenge, the history ends with the frame that asked for it.
One event keeps both (`Explained.snoc`), so they hold after every history of a
tag that was idle at first.

Key definitions: `Tag.Event`, `Tag.after`, `Tag.Origin`, `Tag.Explained`.
Key theorems: `Tag.Origin.state_eq`, `Tag.Explained.snoc`, `Tag.explained`.
-/
import Mathlib.Data.List.Induction
import Nearfield.Proofs.Cipher.Cbc
import Nearfield.Proofs.Tag.Steps

namespace Nearfield
namespace Tag

/-! ### Histories -/

/-- What can happen to a tag. -/
inductive Event where
  | activation
  | frame (bytes : Bytes)
  deriving DecidableEq

section
variable {ρ : Type} [RandomSource ρ]

/-- A tag and the source of its random bytes, after an event. -/
def Event.apply (x : Tag × ρ) : Event → Tag × ρ
  | .activation => (x.1.activate x.2).2
  | .frame bytes => (x.1.process bytes x.2).2

/-- The tag after a history. -/
def after (start : Tag × ρ) (history : List Event) : Tag := (history.foldl Event.apply start).1

/-- The two frames of a handshake. -/
def handshake (slot : UInt8) (c0 c1 : Block) : List Event :=
  [.frame (Command.authenticate slot), .frame (Command.continuation (c0.toBytes ++ c1.toBytes))]

/-- Where a session comes from: a history that ends with a handshake and the
commands that were accepted since. -/
structure Origin (start : Tag × ρ) (history : List Event) where
  before : List Event
  /-- The key slot of the handshake. -/
  slot : UInt8
  rndA : Block
  rndB : Block
  /-- The two blocks that answered the challenge. -/
  c0 : Block
  c1 : Block
  /-- The frames since the handshake. -/
  commands : List Bytes
  model_eq : start.1.model = .ultralightAes
  slot_cases : slot = dataSlot ∨ slot = uidSlot
  history_eq : history = before ++ handshake slot c0 c1 ++ commands.map .frame
  /-- `rndB` is the challenge. -/
  challenged : (after start (before ++ [.frame (Command.authenticate slot)])).state
    = .challenged slot rndB
  /-- The answer decrypts to a random number and the rotated challenge. -/
  proved : Cbc.decryptBlocks (Aes.schedule (start.1.key slot)) Block.zero [c0, c1]
    = [rndA, rndB.rotateLeft]
  length_le : commands.length ≤ 65535
  /-- Each frame carries the MAC for its turn. -/
  protected_eq : ∀ n (h : n < commands.length), ∃ command, commands[n]
    = ((Session.establish (start.1.key slot) slot rndA rndB).after n).protect command
  /-- Each frame was accepted: the session goes on with the next turn. -/
  held : ∀ n ≤ commands.length,
    (after start (before ++ handshake slot c0 c1 ++ (commands.take n).map .frame)).state
      = .authenticated ((Session.establish (start.1.key slot) slot rndA rndB).after n)

namespace Origin
variable {start : Tag × ρ} {history : List Event} (o : Origin start history)

/-- The session as the handshake opened it. -/
def session : Session := Session.establish (start.1.key o.slot) o.slot o.rndA o.rndB

/-- The session whose turn it is now. -/
def current : Session := o.session.after o.commands.length

/-- The tag is in the session whose turn it is. -/
theorem state_eq : (after start history).state = .authenticated o.current := by
  have h := o.held o.commands.length (Nat.le_refl _)
  rw [List.take_length, ← o.history_eq] at h
  exact h

end Origin

/-- The tag's authentication state follows from the history. -/
structure Explained (start : Tag × ρ) (history : List Event) : Prop where
  challenged : ∀ slot rndB, (after start history).state = .challenged slot rndB →
    start.1.model = .ultralightAes ∧ (slot = dataSlot ∨ slot = uidSlot) ∧
      ∃ before, history = before ++ [.frame (Command.authenticate slot)]
  authenticated : ∀ s, (after start history).state = .authenticated s →
    ∃ o : Origin start history, s = o.current

/-! ### One event -/

theorem after_snoc (start : Tag × ρ) (history : List Event) (e : Event) :
    after start (history ++ [e]) = (e.apply (history.foldl Event.apply start)).1 := by
  unfold after
  rw [List.foldl_append]
  rfl

theorem after_activation (start : Tag × ρ) (history : List Event) :
    (after start (history ++ [.activation])).settled = (after start history).settled ∧
      (after start (history ++ [.activation])).state = .idle := by
  rw [after_snoc, Event.apply, activate_eq]
  exact ⟨rfl, rfl⟩

/-- A frame is answered in one of the ways on the list. -/
theorem after_frame (start : Tag × ρ) (history : List Event) (bytes : Bytes) : ∃ answer,
    (after start history).Answers bytes answer (after start (history ++ [.frame bytes])) := by
  rw [after_snoc]
  exact ⟨_, process_answers _ _ bytes⟩

theorem model_after (start : Tag × ρ) (history : List Event) :
    (after start history).model = start.1.model := by
  induction history using List.reverseRecOn with
  | nil => rfl
  | append_singleton history e ih =>
    cases e with
    | activation => exact (model_of_settled (after_activation start history).1).trans ih
    | frame bytes =>
      obtain ⟨answer, h⟩ := after_frame start history bytes
      exact h.model_eq.trans ih

theorem key_after (start : Tag × ρ) (history : List Event) (slot : UInt8) :
    (after start history).key slot = start.1.key slot := by
  induction history using List.reverseRecOn with
  | nil => rfl
  | append_singleton history e ih =>
    cases e with
    | activation => exact (key_of_settled (after_activation start history).1 slot).trans ih
    | frame bytes =>
      obtain ⟨answer, h⟩ := after_frame start history bytes
      exact (h.key_eq slot).trans ih

variable {start : Tag × ρ}

/-- The blocks that opened a session are the token of its second frame. -/
theorem openToken?_eq_some {key : Key} {frame : Bytes} {rndA rotated : Block}
    (h : openToken? key frame = some (rndA, rotated)) : ∃ c0 c1 : Block,
      frame = Command.continuation (c0.toBytes ++ c1.toBytes) ∧
      Cbc.decryptBlocks (Aes.schedule key) Block.zero [c0, c1] = [rndA, rotated] := by
  unfold openToken? at h
  split at h
  · rename_i mark token
    split at h
    · rename_i c0 c1 hsplit
      split at h
      · rename_i hmark
        have hjoin := Block.join_split token
        rw [hsplit] at hjoin
        simp only [Option.some.injEq, Prod.mk.injEq] at h
        refine ⟨c0, c1, ?_, ?_⟩
        · rw [hmark, ← hjoin]
          simp [Command.continuation, Block.join]
        · rw [Cbc.decryptBlocks, Cbc.decryptBlocks, Cbc.decryptBlocks, Block.xor_zero, h.1, h.2]
      · cases h
    · cases h
  · cases h

theorem slot_cases {slot : UInt8} (h : slot ≤ uidSlot) : slot = dataSlot ∨ slot = uidSlot := by
  have hle : slot.toNat ≤ 1 := UInt8.le_iff_toNat_le.mp h
  rcases Nat.le_one_iff_eq_zero_or_eq_one.mp hle with h0 | h1
  · exact Or.inl (UInt8.toNat_inj.mp h0)
  · exact Or.inr (UInt8.toNat_inj.mp h1)

/-- A handshake is the origin of a session without commands. -/
theorem Origin.of_opened {before : List Event} {slot : UInt8} {rndA rndB : Block} {bytes : Bytes}
    (hmodel : start.1.model = .ultralightAes) (hslot : slot = dataSlot ∨ slot = uidSlot)
    (hchallenged : (after start (before ++ [.frame (Command.authenticate slot)])).state
      = .challenged slot rndB)
    (htoken : openToken? (start.1.key slot) bytes = some (rndA, rndB.rotateLeft))
    (hstate : (after start (before ++ [.frame (Command.authenticate slot)] ++ [.frame bytes])).state
      = .authenticated (Session.establish (start.1.key slot) slot rndA rndB)) :
    ∃ o : Origin start (before ++ [.frame (Command.authenticate slot)] ++ [.frame bytes]),
      Session.establish (start.1.key slot) slot rndA rndB = o.current := by
  obtain ⟨c0, c1, rfl, hproved⟩ := openToken?_eq_some htoken
  refine ⟨⟨before, slot, rndA, rndB, c0, c1, [], hmodel, hslot, ?_, hchallenged, hproved, ?_, ?_, ?_⟩,
    rfl⟩
  · simp [handshake]
  · exact Nat.zero_le _
  · intro n hn
    exact absurd hn (Nat.not_lt_zero n)
  · intro n hn
    obtain rfl : n = 0 := Nat.le_zero.mp hn
    rw [← Session.establish_eq_after, ← hstate]
    simp [handshake]

/-- An accepted command is one more since the handshake. -/
theorem Origin.of_secured {history : List Event} (o : Origin start history) {bytes command : Bytes}
    {next : Session} (hcheck : o.current.check? bytes = some command)
    (hnext : o.current.advance? = some next)
    (hstate : (after start (history ++ [.frame bytes])).state = .authenticated next) :
    ∃ o' : Origin start (history ++ [.frame bytes]), next = o'.current := by
  have hlt : o.commands.length < 65535 := by
    by_contra hge
    have hmax : o.commands.length = 65535 := by have := o.length_le; omega
    have hcounter : o.current.counter = 0xFFFF := by
      unfold Origin.current
      rw [hmax]
      rfl
    exact absurd hcounter (Session.advance?_eq_some hnext).1
  have hsucc : next = o.session.after (o.commands.length + 1) := by
    unfold Origin.current at hnext
    rw [Session.advance?_after _ hlt] at hnext
    exact (Option.some.inj hnext).symm
  have hlen : (o.commands ++ [bytes]).length = o.commands.length + 1 := List.length_append
  refine ⟨⟨o.before, o.slot, o.rndA, o.rndB, o.c0, o.c1, o.commands ++ [bytes], o.model_eq,
    o.slot_cases, ?_, o.challenged, o.proved, ?_, ?_, ?_⟩, ?_⟩
  · rw [List.map_append, ← List.append_assoc, ← o.history_eq]
    rfl
  · omega
  · intro n hn
    rcases Nat.lt_or_ge n o.commands.length with hold | hnew
    · rw [List.getElem_append_left hold]
      exact o.protected_eq n hold
    · obtain rfl : n = o.commands.length := by omega
      rw [List.getElem_concat_length rfl]
      exact ⟨command, Session.check?_eq_some_iff.mp hcheck⟩
  · intro n hn
    rcases Nat.lt_or_ge o.commands.length n with hnew | hold
    · obtain rfl : n = o.commands.length + 1 := by omega
      rw [List.take_of_length_le (by omega), List.map_append, ← List.append_assoc, ← o.history_eq]
      exact hstate.trans (congrArg TagState.authenticated hsucc)
    · rw [List.take_append_of_le_length hold]
      exact o.held n hold
  · exact hsucc.trans (congrArg o.session.after hlen.symm)

/-- **One event keeps the state explained.** -/
theorem Explained.snoc {history : List Event} (h : Explained start history) (e : Event) :
    Explained start (history ++ [e]) := by
  cases e with
  | activation =>
    have hidle := (after_activation start history).2
    constructor
    · intro slot rndB hs
      rw [hidle] at hs
      cases hs
    · intro s hs
      rw [hidle] at hs
      cases hs
  | frame bytes =>
    obtain ⟨answer, hans⟩ := after_frame start history bytes
    generalize hnew : after start (history ++ [.frame bytes]) = t' at hans
    cases hans with
    | refused code hcode =>
      constructor <;> (intros; rename_i hs; rw [hnew] at hs; cases hs)
    | challenged slot rndB hstate hframe hmodel hslot =>
      constructor
      · intro slot' rndB' hs
        rw [hnew] at hs
        cases hs
        exact ⟨(model_after start history).symm.trans hmodel, slot_cases hslot, history, by rw [hframe]⟩
      · intro s hs
        rw [hnew] at hs
        cases hs
    | opened slot rndB rndA hstate htoken =>
      obtain ⟨hmodel, hslot, before, rfl⟩ := h.challenged slot rndB hstate
      rw [key_after] at htoken hnew
      constructor
      · intro slot' rndB' hs
        rw [hnew] at hs
        cases hs
      · intro s hs
        have hopen := hs
        rw [hnew] at hopen
        cases hopen
        exact Origin.of_opened hmodel hslot hstate htoken hs
    | plain answer hstate hrun hnak =>
      constructor <;> (intros; rename_i hs; rw [hnew] at hs; cases hs)
    | secured s next command data t' hstate hhead hcheck hrun hnak hnext =>
      obtain ⟨o, rfl⟩ := h.authenticated s hstate
      constructor
      · intro slot' rndB' hs
        rw [hnew] at hs
        cases hs
      · intro s' hs
        have hopen := hs
        rw [hnew] at hopen
        cases hopen
        exact o.of_secured hcheck hnext hs
    | exhausted s command data t' hstate hhead hcheck hrun hnak hnext =>
      have hidle : t'.state = .idle := by
        rcases settled_runCommand hrun with rfl | ⟨page, p, rfl, hpage, rfl⟩ <;> rfl
      constructor <;> (intros; rename_i hs; rw [hnew, hidle] at hs; cases hs)

/-- The state is explained after every history. -/
theorem explained (h : start.1.state = .idle) (history : List Event) : Explained start history := by
  induction history using List.reverseRecOn with
  | nil =>
    constructor
    · intro slot rndB hs
      rw [show (after start []).state = .idle from h] at hs
      cases hs
    · intro s hs
      rw [show (after start []).state = .idle from h] at hs
      cases hs
  | append_singleton history e ih => exact ih.snoc e

end
end Tag
end Nearfield
