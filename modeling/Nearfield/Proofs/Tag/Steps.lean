/-
# All that one frame can do to a tag

`Tag.Answers` lists the ways in which a tag answers a frame: it refuses, sends
a challenge, opens a session, answers outside a session or inside it, or uses
up the last counter. Every run of `process` is one of them
(`process_answers`), so what a frame can change is read off the list: the
memory only by a WRITE in a session (`Answers.memory_cases`), keys and products
never, and after a refusal the tag is idle (`Answers.idle_of_nak`).

Key definitions: `Tag.Answers`, `Tag.Steps`, `Tag.settled`.
Key theorems: `Tag.process_answers`, `Tag.Answers.memory_cases`,
`Tag.Answers.idle_of_nak`, `Tag.runCommand_cases`.
-/
import Nearfield.Tag
import Nearfield.Proofs.Session

namespace Nearfield
namespace Tag

/-! ### Commands -/

/-- The bounds of the user pages, in numbers. -/
def Writable (page : UInt8) : Prop := firstUserPage ≤ page ∧ page ≤ lastPage

theorem writable_iff {page : UInt8} : Writable page ↔ 4 ≤ page.toNat ∧ page.toNat < pageCount := by
  unfold Writable
  rw [UInt8.le_iff_toNat_le, UInt8.le_iff_toNat_le]
  show 4 ≤ page.toNat ∧ page.toNat ≤ 39 ↔ 4 ≤ page.toNat ∧ page.toNat < 40
  omega

theorem runCommand_getVersion (t : Tag) (slot : Option UInt8) :
    t.runCommand slot Command.getVersion = (t.model.version.toBytes, t) := rfl

theorem runCommand_read (t : Tag) (slot : Option UInt8) {page : UInt8} (h : page ≤ lastPage) :
    t.runCommand slot (Command.read page) = (t.readPages slot page, t) := by
  unfold Command.read
  rw [runCommand, if_pos ⟨rfl, h⟩]

theorem runCommand_write (t : Tag) (slot : UInt8) {page : UInt8} (data : Page) (h : Writable page) :
    t.runCommand (some slot) (Command.write page data) =
      ([Code.ack], { t with memory := t.memory.setPage page data }) := by
  have hin : ¬ (Code.write ≠ Code.write ∨ page < firstUserPage ∨ page > lastPage) := by
    rintro (hw | hlo | hhi)
    · exact hw rfl
    · exact absurd hlo (UInt8.not_lt.mpr h.1)
    · exact absurd hhi (UInt8.not_lt.mpr h.2)
  unfold Command.write Word.toBytes
  rw [runCommand, if_neg hin, if_neg (Option.some_ne_none slot)]

/-- Other pages cannot be written. -/
theorem runCommand_write_refused (t : Tag) (slot : Option UInt8) {page : UInt8} (data : Page)
    (h : ¬ Writable page) : t.runCommand slot (Command.write page data) = ([Code.nakArgument], t) := by
  have hout : Code.write ≠ Code.write ∨ page < firstUserPage ∨ page > lastPage := by
    by_cases hlo : page < firstUserPage
    · exact Or.inr (Or.inl hlo)
    · exact Or.inr (Or.inr (UInt8.not_le.mp fun hhi => h ⟨UInt8.not_lt.mp hlo, hhi⟩))
  unfold Command.write Word.toBytes
  rw [runCommand, if_pos hout]

/-- The answer to a READ is always four pages. -/
theorem length_readPages (t : Tag) (slot : Option UInt8) (page : UInt8) :
    (t.readPages slot page).length = Block.size := by
  have hpage : ∀ n, (if (t.randomId = true ∧ slot ≠ some uidSlot) ∧ n % pageCount < 3
      then Page.zero.toBytes else (t.memory.wrapped n).toBytes).length = Page.size := by
    intro n
    split <;> rfl
  unfold readPages
  rw [List.length_flatMap]
  simp only [hpage]
  rfl

/-- A command changes nothing, or it is a WRITE to a user page in a session and
changes that page. -/
theorem runCommand_cases (t : Tag) (slot : Option UInt8) (frame : Bytes) :
    (t.runCommand slot frame).2 = t ∨ ∃ page data, frame = Command.write page data ∧
      slot ≠ none ∧ Writable page ∧ t.runCommand slot frame =
        ([Code.ack], { t with memory := t.memory.setPage page data }) := by
  unfold runCommand
  split
  · left; split <;> rfl
  · left; split <;> rfl
  · rename_i c page b0 b1 b2 b3
    split
    · left; rfl
    · split
      · left; rfl
      · rename_i hin hslot
        right
        simp only [ne_eq, not_or, Decidable.not_not, gt_iff_lt, UInt8.not_lt] at hin
        exact ⟨page, ⟨b0, b1, b2, b3⟩, by rw [hin.1]; rfl, hslot, hin.2, rfl⟩
  · left; rfl

theorem runCommand_none (t : Tag) (frame : Bytes) : (t.runCommand none frame).2 = t := by
  rcases runCommand_cases t none frame with h | ⟨_, _, _, hslot, _⟩
  · exact h
  · exact absurd rfl hslot

/-! ### Steps -/

/-- The tag when it takes up a frame: idle, with one frame less to answer. -/
def taken (t : Tag) : Tag := { t.spend with state := .idle }

/-- The ways in which a tag answers a frame and the tag it is afterwards. -/
inductive Answers (t : Tag) (frame : Bytes) : Bytes → Tag → Prop where
  /-- Whatever is refused leaves the tag idle. -/
  | refused (code : UInt8) (hcode : code ≠ Code.ack) : Answers t frame [code] t.taken
  /-- AUTHENTICATE, in any state but after a challenge. -/
  | challenged (slot : UInt8) (rndB : Block) (hstate : ∀ k b, t.state ≠ .challenged k b)
      (hframe : frame = Command.authenticate slot) (hmodel : t.model = .ultralightAes)
      (hslot : slot ≤ uidSlot) :
      Answers t frame (Code.authenticateMore :: (Aes.encrypt (t.key slot) rndB).toBytes)
        { t.taken with state := .challenged slot rndB }
  /-- The right answer to a challenge. -/
  | opened (slot : UInt8) (rndB rndA : Block) (hstate : t.state = .challenged slot rndB)
      (htoken : openToken? (t.key slot) frame = some (rndA, rndB.rotateLeft)) :
      Answers t frame (Code.authenticateDone :: (Aes.encrypt (t.key slot) rndA.rotateLeft).toBytes)
        { t.taken with state := .authenticated (Session.establish (t.key slot) slot rndA rndB) }
  /-- A command outside a session. -/
  | plain (answer : Bytes) (hstate : t.state = .idle)
      (hrun : t.taken.runCommand none frame = (answer, t.taken)) (hnak : Answer.nak? answer = none) :
      Answers t frame answer t.taken
  /-- A command with its MAC in a session. -/
  | secured (s next : Session) (command data : Bytes) (t' : Tag) (hstate : t.state = .authenticated s)
      (hhead : frame.head? ≠ some Code.authenticate) (hcheck : s.check? frame = some command)
      (hrun : t.taken.runCommand (some s.slot) command = (data, t')) (hnak : Answer.nak? data = none)
      (hnext : s.advance? = some next) :
      Answers t frame (data ++ t'.answerMac next data) { t' with state := .authenticated next }
  /-- The same under the last counter: the command runs and is refused after
  all. -/
  | exhausted (s : Session) (command data : Bytes) (t' : Tag) (hstate : t.state = .authenticated s)
      (hhead : frame.head? ≠ some Code.authenticate) (hcheck : s.check? frame = some command)
      (hrun : t.taken.runCommand (some s.slot) command = (data, t')) (hnak : Answer.nak? data = none)
      (hnext : s.advance? = none) : Answers t frame [Code.nakAuth] t'

theorem nak?_refused {code : UInt8} (h : code ≠ Code.ack) : Answer.nak? [code] = some code := if_neg h

theorem nak?_refused_ne {code : UInt8} (h : code ≠ Code.ack) : Answer.nak? [code] ≠ none := by
  rw [nak?_refused h]
  exact Option.some_ne_none code

/-- A negative acknowledge is a single byte. -/
theorem nak?_of_length {answer : Bytes} (h : answer.length ≠ 1) : Answer.nak? answer = none := by
  unfold Answer.nak?
  split
  · exact absurd rfl h
  · rfl

theorem length_answerMac (t : Tag) (s : Session) (data : Bytes) :
    (t.answerMac s data).length = Cmac.truncatedSize := by
  unfold answerMac
  split <;> simp

/-- A refused command has changed nothing. -/
theorem runCommand_nak {t t' : Tag} {slot : Option UInt8} {frame data : Bytes} {code : UInt8}
    (hrun : t.runCommand slot frame = (data, t')) (hnak : Answer.nak? data = some code) :
    data = [code] ∧ code ≠ Code.ack ∧ t' = t := by
  have hdata : data = [code] ∧ code ≠ Code.ack := by
    unfold Answer.nak? at hnak
    split at hnak
    · split at hnak
      · cases hnak
      · cases hnak
        exact ⟨rfl, ‹_›⟩
    · cases hnak
  refine ⟨hdata.1, hdata.2, ?_⟩
  rcases runCommand_cases t slot frame with h | ⟨page, p, _, _, _, h⟩
  · rw [← h, hrun]
  · rw [hrun, Prod.mk.injEq, hdata.1, List.cons.injEq] at h
    exact absurd h.1.1 hdata.2

/-- What a tag says to a command that it does not refuse. -/
inductive Replies (t : Tag) : Bytes → Prop where
  | acknowledge : Replies t [Code.ack]
  | version : Replies t t.model.version.toBytes
  | pages (slot : Option UInt8) (page : UInt8) : Replies t (t.readPages slot page)

theorem Replies.length_cases {t : Tag} {data : Bytes} (h : t.Replies data) :
    data.length = 1 ∨ data.length = 8 ∨ data.length = 16 := by
  cases h with
  | acknowledge => exact Or.inl rfl
  | version => exact Or.inr (Or.inl rfl)
  | pages slot page => exact Or.inr (Or.inr (t.length_readPages slot page))

theorem runCommand_replies {t t' : Tag} {slot : Option UInt8} {frame data : Bytes}
    (hrun : t.runCommand slot frame = (data, t')) (hnak : Answer.nak? data = none) : t.Replies data := by
  have hargument : Answer.nak? [Code.nakArgument] ≠ none := nak?_refused_ne (by decide)
  have hauth : Answer.nak? [Code.nakAuth] ≠ none := nak?_refused_ne (by decide)
  unfold runCommand at hrun
  split at hrun
  · split at hrun <;> cases hrun
    · exact .version
    · exact absurd hnak hargument
  · split at hrun <;> cases hrun
    · exact .pages slot _
    · exact absurd hnak hargument
  · split at hrun
    · cases hrun
      exact absurd hnak hargument
    · split at hrun <;> cases hrun
      · exact absurd hnak hauth
      · exact .acknowledge
  · cases hrun
    exact absurd hnak hargument

/-! ### The parts of a step -/

section
variable {ρ : Type} [RandomSource ρ] {t : Tag} {frame : Bytes} (rng : ρ)

theorem activate_eq (t : Tag) (rng : ρ) : (t.activate rng).2.1 = { t with state := .idle } := by
  unfold activate
  dsimp only
  split <;> rfl

/-- Not in the middle of a handshake. -/
def Unchallenged (t : Tag) : Prop := ∀ slot rndB, t.state ≠ .challenged slot rndB

theorem Unchallenged.of_idle (h : t.state = .idle) : Unchallenged t := by
  intro slot rndB
  rw [h]
  exact TagState.noConfusion

theorem Unchallenged.of_authenticated {s : Session} (h : t.state = .authenticated s) :
    Unchallenged t := by
  intro slot rndB
  rw [h]
  exact TagState.noConfusion

theorem process_challenged {slot : UInt8} {rndB : Block} (h : t.state = .challenged slot rndB) :
    t.process frame rng =
      ((t.taken.prove slot rndB frame).1, (t.taken.prove slot rndB frame).2, rng) := by
  unfold process
  rw [h]
  rfl

theorem process_authenticate (hstate : Unchallenged t) (hhead : frame.head? = some Code.authenticate) :
    t.process frame rng = t.taken.challenge frame rng := by
  unfold process
  cases hs : t.state with
  | idle => exact if_pos hhead
  | authenticated s => exact if_pos hhead
  | challenged slot rndB => exact absurd hs (hstate slot rndB)

theorem process_authenticated {s : Session} (h : t.state = .authenticated s)
    (hhead : frame.head? ≠ some Code.authenticate) :
    t.process frame rng = ((t.taken.runSecure s frame).1, (t.taken.runSecure s frame).2, rng) := by
  unfold process
  rw [h]
  exact if_neg hhead

theorem process_idle (h : t.state = .idle) (hhead : frame.head? ≠ some Code.authenticate) :
    t.process frame rng =
      ((t.taken.runCommand none frame).1, (t.taken.runCommand none frame).2, rng) := by
  unfold process
  rw [h]
  exact if_neg hhead

/-- The challenge of a slot that the tag has. -/
theorem challenge_authenticate {slot : UInt8} (hmodel : t.model = .ultralightAes)
    (hslot : slot ≤ uidSlot) :
    t.challenge (Command.authenticate slot) rng =
      (Code.authenticateMore :: (Aes.encrypt (t.key slot) (drawBlock rng).1).toBytes,
        { t with state := .challenged slot (drawBlock rng).1 }, (drawBlock rng).2) := by
  have hok : ¬ (t.model ≠ .ultralightAes ∨ slot > uidSlot) := by
    rintro (h | h)
    · exact h hmodel
    · exact absurd h (UInt8.not_lt.mpr hslot)
  unfold challenge Command.authenticate
  exact if_neg hok

theorem challenge_answers (hstate : Unchallenged t) (hhead : frame.head? = some Code.authenticate) :
    t.Answers frame (t.taken.challenge frame rng).1 (t.taken.challenge frame rng).2.1 := by
  rcases frame with _ | ⟨c, _ | ⟨slot, _ | ⟨b, rest⟩⟩⟩
  · cases hhead
  · exact .refused _ (by decide)
  · cases hhead
    by_cases hok : t.taken.model ≠ .ultralightAes ∨ slot > uidSlot
    · rw [challenge, if_pos hok]
      exact .refused _ (by decide)
    · simp only [not_or, ne_eq, Decidable.not_not, gt_iff_lt, UInt8.not_lt] at hok
      have h := challenge_authenticate (t := t.taken) rng hok.1 hok.2
      unfold Command.authenticate at h
      rw [h]
      exact .challenged slot _ hstate rfl hok.1 hok.2
  · exact .refused _ (by decide)

theorem prove_answers {slot : UInt8} {rndB : Block} (hstate : t.state = .challenged slot rndB) :
    t.Answers frame (t.taken.prove slot rndB frame).1 (t.taken.prove slot rndB frame).2 := by
  unfold prove
  cases htoken : openToken? (t.taken.key slot) frame with
  | none => exact .refused _ (by decide)
  | some token =>
    obtain ⟨rndA, rotated⟩ := token
    by_cases hrot : rotated = rndB.rotateLeft
    · dsimp only
      rw [if_pos hrot]
      exact .opened slot rndB rndA hstate (hrot ▸ htoken)
    · dsimp only
      rw [if_neg hrot]
      exact .refused _ (by decide)

section
variable {t t' : Tag} {s : Session} {command data : Bytes}

/-! A frame with its MAC runs as the command it protects. -/

theorem runSecure_refused {code : UInt8} (hcheck : s.check? frame = some command)
    (hrun : t.runCommand (some s.slot) command = (data, t')) (hnak : Answer.nak? data = some code) :
    t.runSecure s frame = (data, t') := by
  simp [runSecure, hcheck, hrun, hnak]

theorem runSecure_exhausted (hcheck : s.check? frame = some command)
    (hrun : t.runCommand (some s.slot) command = (data, t')) (hnak : Answer.nak? data = none)
    (hnext : s.advance? = none) : t.runSecure s frame = ([Code.nakAuth], t') := by
  simp [runSecure, hcheck, hrun, hnak, hnext]

theorem runSecure_secured {next : Session} (hcheck : s.check? frame = some command)
    (hrun : t.runCommand (some s.slot) command = (data, t')) (hnak : Answer.nak? data = none)
    (hnext : s.advance? = some next) : t.runSecure s frame =
      (data ++ t'.answerMac next data, { t' with state := .authenticated next }) := by
  simp [runSecure, hcheck, hrun, hnak, hnext]

end

theorem runSecure_answers {s : Session} (hstate : t.state = .authenticated s)
    (hhead : frame.head? ≠ some Code.authenticate) :
    t.Answers frame (t.taken.runSecure s frame).1 (t.taken.runSecure s frame).2 := by
  cases hcheck : s.check? frame with
  | none =>
    unfold runSecure
    rw [hcheck]
    exact .refused _ (by decide)
  | some command =>
    cases hrun : t.taken.runCommand (some s.slot) command with
    | mk data t' =>
      cases hnak : Answer.nak? data with
      | some code =>
        rw [runSecure_refused hcheck hrun hnak]
        obtain ⟨rfl, hcode, rfl⟩ := runCommand_nak hrun hnak
        exact .refused code hcode
      | none =>
        cases hnext : s.advance? with
        | none =>
          rw [runSecure_exhausted hcheck hrun hnak hnext]
          exact .exhausted s command data t' hstate hhead hcheck hrun hnak hnext
        | some next =>
          rw [runSecure_secured hcheck hrun hnak hnext]
          exact .secured s next command data t' hstate hhead hcheck hrun hnak hnext

theorem runCommand_answers (hstate : t.state = .idle) :
    t.Answers frame (t.taken.runCommand none frame).1 (t.taken.runCommand none frame).2 := by
  have hsame := runCommand_none t.taken frame
  cases hrun : t.taken.runCommand none frame with
  | mk data t' =>
    rw [hrun] at hsame
    cases hsame
    cases hnak : Answer.nak? data with
    | none => exact .plain data hstate hrun hnak
    | some code =>
      obtain ⟨rfl, hcode, -⟩ := runCommand_nak hrun hnak
      exact .refused code hcode

/-- **Whatever a tag does with a frame is on the list.** -/
theorem process_answers (t : Tag) (frame : Bytes) :
    t.Answers frame (t.process frame rng).1 (t.process frame rng).2.1 := by
  by_cases hhead : frame.head? = some Code.authenticate
  · cases hstate : t.state with
    | challenged slot rndB =>
      rw [process_challenged rng hstate]
      exact prove_answers hstate
    | idle =>
      rw [process_authenticate rng (.of_idle hstate) hhead]
      exact challenge_answers rng (.of_idle hstate) hhead
    | authenticated s =>
      rw [process_authenticate rng (.of_authenticated hstate) hhead]
      exact challenge_answers rng (.of_authenticated hstate) hhead
  · cases hstate : t.state with
    | challenged slot rndB =>
      rw [process_challenged rng hstate]
      exact prove_answers hstate
    | idle =>
      rw [process_idle rng hstate hhead]
      exact runCommand_answers hstate
    | authenticated s =>
      rw [process_authenticated rng hstate hhead]
      exact runSecure_answers hstate hhead

end

/-- The tag answers a frame and becomes `t'`, with some random bytes. -/
def Steps (t : Tag) (frame answer : Bytes) (t' : Tag) : Prop :=
  ∃ (ρ : Type) (_ : RandomSource ρ) (rng rng' : ρ), t.process frame rng = (answer, t', rng')

theorem Steps.answers {t t' : Tag} {frame answer : Bytes} (h : t.Steps frame answer t') :
    t.Answers frame answer t' := by
  obtain ⟨ρ, _, rng, rng', h⟩ := h
  have := process_answers rng t frame
  rwa [h] at this

/-! ### What a host gets that keeps to the rules -/

/-- The answer to a command outside a session. -/
theorem Steps.plain {t t' u : Tag} {frame answer data : Bytes} (h : t.Steps frame answer t')
    (hstate : t.state = .idle) (hhead : frame.head? ≠ some Code.authenticate)
    (hrun : t.taken.runCommand none frame = (data, u)) : answer = data ∧ t' = u := by
  obtain ⟨ρ, _, rng, rng', h⟩ := h
  rw [process_idle rng hstate hhead, hrun, Prod.mk.injEq, Prod.mk.injEq] at h
  exact ⟨h.1.symm, h.2.1.symm⟩

/-- A command with its MAC that is refused. -/
theorem Steps.secured_refused {t t' u : Tag} {s : Session} {frame answer : Bytes} {code : UInt8}
    (h : t.Steps (s.protect frame) answer t') (hstate : t.state = .authenticated s)
    (hhead : (s.protect frame).head? ≠ some Code.authenticate)
    (hrun : t.taken.runCommand (some s.slot) frame = ([code], u)) (hcode : code ≠ Code.ack) :
    answer = [code] ∧ t' = u := by
  obtain ⟨ρ, _, rng, rng', h⟩ := h
  rw [process_authenticated rng hstate hhead,
    runSecure_refused (s.check?_protect frame) hrun (nak?_refused hcode), Prod.mk.injEq,
    Prod.mk.injEq] at h
  exact ⟨h.1.symm, h.2.1.symm⟩

/-- The answer to a command with its MAC, as long as there is another turn. -/
theorem Steps.secured {t t' u : Tag} {s next : Session} {frame answer data : Bytes}
    (h : t.Steps (s.protect frame) answer t') (hstate : t.state = .authenticated s)
    (hhead : (s.protect frame).head? ≠ some Code.authenticate) (hnext : s.advance? = some next)
    (hrun : t.taken.runCommand (some s.slot) frame = (data, u)) (hnak : Answer.nak? data = none) :
    answer = data ++ u.answerMac next data ∧ t' = { u with state := .authenticated next } := by
  obtain ⟨ρ, _, rng, rng', h⟩ := h
  rw [process_authenticated rng hstate hhead,
    runSecure_secured (s.check?_protect frame) hrun hnak hnext, Prod.mk.injEq, Prod.mk.injEq] at h
  exact ⟨h.1.symm, h.2.1.symm⟩

theorem answerMac_honest {t : Tag} (h : t.forges = false) (s : Session) (data : Bytes) :
    t.answerMac s data = s.answerMac data := by
  unfold answerMac
  rw [h]
  rfl

theorem answerMac_forged {t : Tag} (h : t.forges = true) (s : Session) (data : Bytes) :
    s.answerMac data ≠ t.answerMac s data := by
  have hflip : ∀ b : UInt8, b ≠ b ^^^ 0xFF := by
    intro b hb
    have h0 : (0 : UInt8) = 0xFF := (UInt8.xor_right_inj b).mp (UInt8.xor_zero.trans hb)
    exact absurd h0 (by decide)
  unfold answerMac Session.answerMac Cmac.truncated
  rw [h]
  intro hsame
  exact hflip _ (List.cons.inj hsame).1

/-! ### What a step leaves alone -/

/-- All that lasts: not the authentication state, and of the allowance only
whether there is one. -/
def settled (t : Tag) : Tag := { t with state := .idle, allowance := t.allowance.map fun _ => 0 }

theorem settled_taken (t : Tag) : t.taken.settled = t.settled := by
  unfold taken spend settled
  simp only [Option.map_map, Function.comp_def]

theorem settled_written (t : Tag) (m : Memory) :
    Tag.settled { t.taken with memory := m } = Tag.settled { t with memory := m } :=
  (congrArg (fun v : Tag => { v with memory := m }) t.settled_taken :)

/-! What tags have in common that agree in all that lasts. -/

section
variable {t u : Tag} (h : u.settled = t.settled)
include h

theorem model_of_settled : u.model = t.model := (congrArg Tag.model h :)

theorem forges_of_settled : u.forges = t.forges := (congrArg Tag.forges h :)

theorem memory_of_settled : u.memory = t.memory := (congrArg Tag.memory h :)

theorem key_of_settled (slot : UInt8) : u.key slot = t.key slot :=
  (congrArg (fun v : Tag => v.key slot) h :)

theorem taken_of_settled : u.taken.settled = t.settled := u.settled_taken.trans h

end

theorem settled_runCommand {t t' : Tag} {slot : Option UInt8} {frame data : Bytes}
    (hrun : t.runCommand slot frame = (data, t')) :
    t' = t ∨ ∃ page p, frame = Command.write page p ∧ Writable page ∧
      t' = { t with memory := t.memory.setPage page p } := by
  rcases runCommand_cases t slot frame with h | ⟨page, p, hframe, -, hpage, h⟩
  · exact Or.inl (by rw [← h, hrun])
  · rw [hrun, Prod.mk.injEq] at h
    exact Or.inr ⟨page, p, hframe, hpage, h.2⟩

variable {t t' : Tag} {frame answer : Bytes}

/-- **Only a WRITE with the MAC of the session changes anything that lasts**,
and it changes one user page. -/
theorem Answers.settled_cases (h : t.Answers frame answer t') :
    t'.settled = t.settled ∨ ∃ s page p, t.state = .authenticated s ∧
      frame = s.protect (Command.write page p) ∧ Writable page ∧
      t'.settled = Tag.settled { t with memory := t.memory.setPage page p } := by
  cases h with
  | refused code hcode => exact Or.inl t.settled_taken
  | challenged slot rndB hstate hframe hmodel hslot => exact Or.inl t.settled_taken
  | opened slot rndB rndA hstate htoken => exact Or.inl t.settled_taken
  | plain answer hstate hrun hnak => exact Or.inl t.settled_taken
  | secured s next command data t' hstate hhead hcheck hrun hnak hnext =>
    rcases settled_runCommand hrun with rfl | ⟨page, p, rfl, hpage, rfl⟩
    · exact Or.inl t.settled_taken
    · have hframe := Session.check?_eq_some_iff.mp hcheck
      exact Or.inr ⟨s, page, p, hstate, hframe, hpage, t.settled_written _⟩
  | exhausted s command data t' hstate hhead hcheck hrun hnak hnext =>
    rcases settled_runCommand hrun with rfl | ⟨page, p, rfl, hpage, rfl⟩
    · exact Or.inl t.settled_taken
    · have hframe := Session.check?_eq_some_iff.mp hcheck
      exact Or.inr ⟨s, page, p, hstate, hframe, hpage, t.settled_written _⟩

theorem Answers.memory_cases (h : t.Answers frame answer t') :
    t'.memory = t.memory ∨ ∃ s page p, t.state = .authenticated s ∧
      frame = s.protect (Command.write page p) ∧ Writable page ∧
      t'.memory = t.memory.setPage page p := by
  rcases h.settled_cases with h | ⟨s, page, p, hstate, hframe, hpage, h⟩
  · exact Or.inl (memory_of_settled h)
  · exact Or.inr ⟨s, page, p, hstate, hframe, hpage, memory_of_settled h⟩

theorem Answers.model_eq (h : t.Answers frame answer t') : t'.model = t.model := by
  rcases h.settled_cases with h | ⟨_, _, _, _, _, _, h⟩ <;> exact (model_of_settled h :)

theorem Answers.key_eq (h : t.Answers frame answer t') (slot : UInt8) : t'.key slot = t.key slot := by
  rcases h.settled_cases with h | ⟨_, _, _, _, _, _, h⟩ <;> exact key_of_settled h slot

/-- Every frame takes one off the allowance. -/
theorem Answers.allowance_eq (h : t.Answers frame answer t') : t'.allowance = t.taken.allowance := by
  cases h with
  | refused code hcode => rfl
  | challenged slot rndB hstate hframe hmodel hslot => rfl
  | opened slot rndB rndA hstate htoken => rfl
  | plain answer hstate hrun hnak => rfl
  | secured s next command data t' hstate hhead hcheck hrun hnak hnext =>
    rcases settled_runCommand hrun with rfl | ⟨page, p, rfl, hpage, rfl⟩ <;> rfl
  | exhausted s command data t' hstate hhead hcheck hrun hnak hnext =>
    rcases settled_runCommand hrun with rfl | ⟨page, p, rfl, hpage, rfl⟩ <;> rfl

/-- A tag that is not to leave stays. -/
theorem Answers.stays (h : t.Answers frame answer t') (hstays : t.allowance = none) :
    t'.allowance = none := by
  rw [h.allowance_eq]
  show t.allowance.map (· - 1) = none
  rw [hstays]
  rfl

/-- A refusal leaves the tag idle, whatever was refused. -/
theorem Answers.idle_of_nak (h : t.Answers frame answer t') (hnak : Answer.nak? answer ≠ none) :
    t'.state = .idle := by
  cases h with
  | refused code hcode => rfl
  | challenged slot rndB hstate hframe hmodel hslot => exact absurd rfl hnak
  | opened slot rndB rndA hstate htoken => exact absurd rfl hnak
  | plain answer hstate hrun hnone => rfl
  | secured s next command data t' hstate hhead hcheck hrun hnone hnext =>
    refine absurd (nak?_of_length ?_) hnak
    rw [List.length_append, length_answerMac]
    exact Nat.ne_of_gt (Nat.lt_of_lt_of_le (by decide) (Nat.le_add_left _ _))
  | exhausted s command data t' hstate hhead hcheck hrun hnone hnext =>
    rcases settled_runCommand hrun with rfl | ⟨page, p, rfl, hpage, rfl⟩ <;> rfl

/-- A frame with its MAC is refused, or runs and takes the session to the next
turn. -/
theorem Answers.secured_cases {s : Session} {command : Bytes}
    (h : t.Answers (s.protect command) answer t') (hstate : t.state = .authenticated s)
    (hnak : Answer.nak? answer = none) :
    ∃ next data u, s.advance? = some next ∧ t.taken.runCommand (some s.slot) command = (data, u) ∧
      Answer.nak? data = none ∧ answer = data ++ u.answerMac next data ∧
      t' = { u with state := .authenticated next } := by
  cases h with
  | refused code hcode =>
    rw [nak?_refused hcode] at hnak
    cases hnak
  | challenged slot rndB hother hframe hmodel hslot =>
    -- AUTHENTICATE has no room for a MAC
    have hlen := congrArg List.length hframe
    rw [Session.length_protect] at hlen
    simp only [Cmac.truncatedSize, Command.authenticate, List.length_cons, List.length_nil] at hlen
    omega
  | opened slot rndB rndA hopen htoken => rw [hstate] at hopen; cases hopen
  | plain answer hidle hrun hnone => rw [hstate] at hidle; cases hidle
  | secured s' next command' data u hopen hhead hcheck hrun hnone hnext =>
    rw [hstate, TagState.authenticated.injEq] at hopen
    subst hopen
    rw [Session.check?_protect, Option.some.injEq] at hcheck
    exact ⟨next, data, u, hnext, hcheck ▸ hrun, hnone, rfl, rfl⟩
  | exhausted s' command' data u hopen hhead hcheck hrun hnone hnext => cases hnak

theorem Answers.advanced {s : Session} {command : Bytes}
    (h : t.Answers (s.protect command) answer t') (hstate : t.state = .authenticated s)
    (hnak : Answer.nak? answer = none) :
    ∃ next, s.advance? = some next ∧ t'.state = .authenticated next := by
  obtain ⟨next, data, u, hnext, -, -, -, rfl⟩ := h.secured_cases hstate hnak
  exact ⟨next, hnext, rfl⟩

end Tag
end Nearfield
