/-
# The two frames of a handshake

AUTHENTICATE is refused or answered with a challenge, and the frame after a
challenge is refused or opens a session (`Answers.authenticate_cases`,
`Answers.challenged_cases`). A host with the tag's key is not refused: a tag
that is not in the middle of a handshake sends it a challenge, and accepts its
answer (`Steps.challenge`, `Steps.prove`).

Key definition: `Tag.proofFrame`.
Key theorems: `Tag.Steps.challenge`, `Tag.Steps.prove`.
-/
import Nearfield.Proofs.Cipher.Cbc
import Nearfield.Proofs.Tag.Steps

namespace Nearfield

/-! ### How the host reads the answers -/

namespace Answer

theorem handshakeBlock_mark (mark : UInt8) (rejected : TagError) (b : Block) :
    handshakeBlock mark rejected (mark :: b.toBytes) = .ok b := by
  unfold handshakeBlock
  rw [Tag.nak?_of_length (by rw [List.length_cons, Block.length_toBytes]; decide)]
  dsimp only
  rw [if_pos rfl, Block.ofBytes?_toBytes]

theorem handshakeBlock_nak (mark : UInt8) (rejected : TagError) {answer : Bytes}
    (h : nak? answer ≠ none) : ∃ e, handshakeBlock mark rejected answer = .error e := by
  obtain ⟨code, hcode⟩ := Option.ne_none_iff_exists'.mp h
  unfold handshakeBlock
  rw [hcode]
  exact ⟨_, rfl⟩

theorem challenge_mark (b : Block) : challenge (Code.authenticateMore :: b.toBytes) = .ok b :=
  handshakeBlock_mark _ _ b

theorem challenge_nak {answer : Bytes} (h : nak? answer ≠ none) : ∃ e, challenge answer = .error e :=
  handshakeBlock_nak _ _ h

theorem final_mark (b : Block) : final (Code.authenticateDone :: b.toBytes) = .ok b :=
  handshakeBlock_mark _ _ b

theorem final_nak {answer : Bytes} (h : nak? answer ≠ none) : ∃ e, final answer = .error e :=
  handshakeBlock_nak _ _ h

end Answer

namespace Tag
variable {t t' : Tag} {frame answer : Bytes} {slot : UInt8} {rndA rndB : Block}

/-- The host's answer to a challenge. -/
def proofFrame (key : Key) (rndA rndB : Block) : Bytes :=
  Command.continuation
    (Block.join (Cbc.encryptBlocks (Aes.schedule key) Block.zero [rndA, rndB.rotateLeft]))

/-- The tag finds in it what the host put there. -/
theorem openToken?_proofFrame (key : Key) (rndA rndB : Block) :
    openToken? key (proofFrame key rndA rndB) = some (rndA, rndB.rotateLeft) := by
  unfold openToken? proofFrame Command.continuation
  dsimp only
  rw [Block.split_join]
  simp only [Cbc.encryptBlocks, if_true, Aes.Schedule.decrypt_encrypt, Block.xor_zero,
    Block.xor_cancel_right]

/-! ### All that can come of each frame -/

theorem Answers.authenticate_cases (h : t.Answers (Command.authenticate slot) answer t') :
    (Answer.nak? answer ≠ none ∧ t' = t.taken) ∨
      (t.model = .ultralightAes ∧ slot ≤ uidSlot ∧ ∃ rndB,
        answer = Code.authenticateMore :: (Aes.encrypt (t.key slot) rndB).toBytes ∧
          t' = { t.taken with state := .challenged slot rndB }) := by
  cases h with
  | refused code hcode => exact Or.inl ⟨nak?_refused_ne hcode, rfl⟩
  | challenged slot' rndB hstate hframe hmodel hslot =>
    obtain rfl : slot = slot' := by simpa [Command.authenticate] using hframe
    exact Or.inr ⟨hmodel, hslot, rndB, rfl, rfl⟩
  | opened slot' rndB rndA hstate htoken => cases htoken
  | plain answer hstate hrun hnak =>
    -- two bytes that are no READ are refused
    have hrefused : t.taken.runCommand none (Command.authenticate slot)
        = ([Code.nakArgument], t.taken) := rfl
    rw [hrefused, Prod.mk.injEq] at hrun
    rw [← hrun.1] at hnak
    cases hnak
  | secured s next command data t' hstate hhead hcheck hrun hnak hnext => exact absurd rfl hhead
  | exhausted s command data t' hstate hhead hcheck hrun hnak hnext => exact absurd rfl hhead

theorem Answers.challenged_cases (h : t.Answers frame answer t')
    (hstate : t.state = .challenged slot rndB) :
    (Answer.nak? answer ≠ none ∧ t' = t.taken) ∨ ∃ rndA,
      openToken? (t.key slot) frame = some (rndA, rndB.rotateLeft) ∧
        answer = Code.authenticateDone :: (Aes.encrypt (t.key slot) rndA.rotateLeft).toBytes ∧
        t' = { t.taken with
          state := .authenticated (Session.establish (t.key slot) slot rndA rndB) } := by
  cases h with
  | refused code hcode => exact Or.inl ⟨nak?_refused_ne hcode, rfl⟩
  | challenged slot' rndB' hother hframe hmodel hslot => exact absurd hstate (hother slot rndB)
  | opened slot' rndB' rndA hopen htoken =>
    rw [hstate, TagState.challenged.injEq] at hopen
    obtain ⟨rfl, rfl⟩ := hopen
    exact Or.inr ⟨rndA, htoken, rfl, rfl⟩
  | plain answer hidle hrun hnak => rw [hstate] at hidle; cases hidle
  | secured s next command data t' hopen hhead hcheck hrun hnak hnext =>
    rw [hstate] at hopen; cases hopen
  | exhausted s command data t' hopen hhead hcheck hrun hnak hnext =>
    rw [hstate] at hopen; cases hopen

/-- A proof is refused as a denied access, or answered. -/
theorem Steps.prove_cases (h : t.Steps frame answer t') (hstate : t.state = .challenged slot rndB) :
    answer = [Code.nakAuth] ∨ ∃ b : Block, answer = Code.authenticateDone :: b.toBytes := by
  obtain ⟨ρ, _, rng, rng', h⟩ := h
  rw [process_challenged rng hstate, Prod.mk.injEq] at h
  rw [← h.1, Tag.prove]
  split
  · split
    · exact Or.inr ⟨_, rfl⟩
    · exact Or.inl rfl
  · exact Or.inl rfl

/-! ### With the right key -/

/-- The tag sends a challenge for a slot that it has. -/
theorem Steps.challenge (h : t.Steps (Command.authenticate slot) answer t') (hstate : Unchallenged t)
    (hmodel : t.model = .ultralightAes) (hslot : slot ≤ uidSlot) : ∃ rndB,
      answer = Code.authenticateMore :: (Aes.encrypt (t.key slot) rndB).toBytes ∧
        t' = { t.taken with state := .challenged slot rndB } := by
  obtain ⟨ρ, _, rng, rng', h⟩ := h
  rw [process_authenticate rng hstate rfl, challenge_authenticate (t := t.taken) rng hmodel hslot,
    Prod.mk.injEq, Prod.mk.injEq] at h
  exact ⟨_, h.1.symm, h.2.1.symm⟩

/-- The tag accepts the answer of a host with its key. -/
theorem Steps.prove (h : t.Steps (proofFrame (t.key slot) rndA rndB) answer t')
    (hstate : t.state = .challenged slot rndB) :
    answer = Code.authenticateDone :: (Aes.encrypt (t.key slot) rndA.rotateLeft).toBytes ∧
      t' = { t.taken with
        state := .authenticated (Session.establish (t.key slot) slot rndA rndB) } := by
  obtain ⟨ρ, _, rng, rng', h⟩ := h
  have htoken : openToken? (t.taken.key slot) (proofFrame (t.key slot) rndA rndB)
      = some (rndA, rndB.rotateLeft) := openToken?_proofFrame (t.key slot) rndA rndB
  rw [process_challenged rng hstate, Tag.prove, htoken] at h
  dsimp only at h
  rw [if_pos rfl, Prod.mk.injEq, Prod.mk.injEq] at h
  exact ⟨h.1.symm, h.2.1.symm⟩

end Tag
end Nearfield
