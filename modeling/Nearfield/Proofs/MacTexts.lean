/-
# No two MACs are over the same text

The MAC of a command is over its frame with the counter behind the first byte, the MAC
of an answer over the counter and the data, and the key for one tag is the code of a
purpose and an identifier. No field comes with its length, and still each text tells
its fields (`commandInput_eq_iff`, `answerInput_eq_iff`, `diversifyInput_eq_iff`): the
counter has two bytes, and only the text of the empty frame has no more.

A command and an answer may share a text. But what a tag says in a session is an
acknowledge, a version or four pages, and with the counter these are 3, 10 or 18 bytes,
where a READ makes 4 and a WRITE 8 (`Tag.Replies.ne_transfer`). So under one MAC key, a MAC
passes for another frame, another counter or the other direction only if two texts
collide (`mac_texts_unambiguous`).

Key definitions: `Cmac.Collides`, `Command.Transfers`, `Tag.Replies`.
Key theorems: `commandInput_eq_iff`, `Tag.Replies.ne_transfer`,
`Tag.Answers.replies_in_session`, `mac_texts_unambiguous`.
-/
import Nearfield.Proofs.Tag.Steps

namespace Nearfield

/-! ### The fields of a text -/

theorem length_commandInput (n : UInt16) (frame : Bytes) :
    (commandInput n frame).length = frame.length + 2 := by
  cases frame with
  | nil => rfl
  | cons instruction rest =>
    rw [commandInput, List.length_cons, List.length_append, Bytes.length_littleEndian, List.length_cons]
    omega

theorem length_answerInput (n : UInt16) (data : Bytes) :
    (answerInput n data).length = data.length + 2 := by
  rw [answerInput, List.length_append, Bytes.length_littleEndian, Nat.add_comm]

/-- **The text of a command tells the counter and the frame.** -/
theorem commandInput_eq_iff {n n' : UInt16} {frame frame' : Bytes} :
    commandInput n frame = commandInput n' frame' ↔ n = n' ∧ frame = frame' := by
  constructor
  · intro h
    have hlen : frame.length = frame'.length := by
      have := congrArg List.length h
      rw [length_commandInput, length_commandInput] at this
      exact Nat.add_right_cancel this
    cases frame with
    | nil =>
      obtain rfl : frame' = [] := List.length_eq_zero_iff.mp hlen.symm
      exact ⟨Session.littleEndian_inj h, rfl⟩
    | cons instruction rest =>
      cases frame' with
      | nil => cases hlen
      | cons instruction' rest' =>
        rw [commandInput, commandInput, List.cons.injEq] at h
        obtain ⟨rfl, hrest⟩ := h
        obtain ⟨hcounter, rfl⟩ := List.append_inj hrest rfl
        exact ⟨Session.littleEndian_inj hcounter, rfl⟩
  · rintro ⟨rfl, rfl⟩
    rfl

/-- **The text of an answer tells the counter and the data.** -/
theorem answerInput_eq_iff {n n' : UInt16} {data data' : Bytes} :
    answerInput n data = answerInput n' data' ↔ n = n' ∧ data = data' := by
  constructor
  · intro h
    obtain ⟨hcounter, hdata⟩ := List.append_inj h rfl
    exact ⟨Session.littleEndian_inj hcounter, hdata⟩
  · rintro ⟨rfl, rfl⟩
    rfl

/-- Every purpose has a code of its own. -/
theorem Purpose.code_inj {p p' : Purpose} (h : p.code = p'.code) : p = p' := by
  cases p <;> cases p' <;> first | rfl | exact absurd h (by decide)

/-- **The text of a key for one tag tells the purpose and the identifier**, which may
have any length. -/
theorem diversifyInput_eq_iff {p p' : Purpose} {uid uid' : Bytes} :
    diversifyInput p uid = diversifyInput p' uid' ↔ p = p' ∧ uid = uid' := by
  constructor
  · intro h
    rw [diversifyInput, diversifyInput, List.cons.injEq] at h
    exact ⟨Purpose.code_inj h.1, h.2⟩
  · rintro ⟨rfl, rfl⟩
    rfl

/-! ### Commands and answers -/

/-- The frame is a READ or a WRITE. -/
inductive Command.Transfers : Bytes → Prop where
  | read (page : UInt8) : Transfers (Command.read page)
  | write (page : UInt8) (data : Page) : Transfers (Command.write page data)

theorem Command.Transfers.length_cases {frame : Bytes} (h : Transfers frame) :
    frame.length = 2 ∨ frame.length = 6 := by
  cases h with
  | read page => exact Or.inl rfl
  | write page data => exact Or.inr rfl

namespace Tag
variable {t t' : Tag} {frame answer data : Bytes} {s next : Session}

/-- **Nothing that a tag says has the text of a READ or a WRITE**, under any counters. -/
theorem Replies.ne_transfer (h : t.Replies data) (hframe : Command.Transfers frame) (n n' : UInt16) :
    commandInput n frame ≠ answerInput n' data := by
  intro hsame
  have hlen := congrArg List.length hsame
  rw [length_commandInput, length_answerInput] at hlen
  have hsaid := h.length_cases
  have hsent := hframe.length_cases
  omega

theorem Replies.of_taken (h : t.taken.Replies data) : t.Replies data := by
  cases h with
  | acknowledge => exact .acknowledge
  | version => exact .version
  | pages slot page => exact .pages slot page

/-- An answer inside a session is something that the tag says, and a MAC. -/
theorem Answers.replies_in_session (h : t.Answers frame answer t') (hstate : t.state = .authenticated s)
    (hnext : t'.state = .authenticated next) :
    ∃ data, answer = data ++ t'.answerMac next data ∧ t.Replies data := by
  cases h with
  | refused code hcode => cases hnext
  | challenged slot rndB hother hframe hmodel hslot => cases hnext
  | opened slot rndB rndA hopen htoken => rw [hstate] at hopen; cases hopen
  | plain answer hidle hrun hnak => rw [hstate] at hidle; cases hidle
  | secured s' next' command data u hopen hhead hcheck hrun hnak hadvance =>
    cases hnext
    exact ⟨data, rfl, (runCommand_replies hrun hnak).of_taken⟩
  | exhausted s' command data u hopen hhead hcheck hrun hnak hadvance =>
    rcases settled_runCommand hrun with rfl | ⟨page, p, rfl, hpage, rfl⟩ <;> cases hnext

end Tag

/-! ### What passes a check -/

/-- Two texts have the same truncated code. -/
def Cmac.Collides (key : Key) (text text' : Bytes) : Prop :=
  text ≠ text' ∧ truncated key text = truncated key text'

/-- Texts with the same code are one, or they collide. -/
theorem Cmac.eq_or_collides {key : Key} {text text' : Bytes} (h : truncated key text = truncated key text') :
    text = text' ∨ Collides key text text' := by
  by_cases hsame : text = text'
  · exact Or.inl hsame
  · exact Or.inr ⟨hsame, h⟩

namespace Session
variable {s s' : Session} {frame frame' data data' : Bytes}

/-- The MAC of a command, behind a frame that passes the check of a session with the
same MAC key: it is the same command and the same counter, or a collision. -/
theorem same_of_check? (hkey : s.macKey = s'.macKey)
    (h : s'.check? (frame' ++ s.commandMac frame) = some frame') :
    (s.counter = s'.counter ∧ frame = frame') ∨
      Cmac.Collides s.macKey (commandInput s.counter frame) (commandInput s'.counter frame') := by
  have hmac : s.commandMac frame = s'.commandMac frame' :=
    List.append_cancel_left (check?_eq_some_iff.mp h)
  unfold commandMac at hmac
  rw [← hkey] at hmac
  exact (Cmac.eq_or_collides hmac).imp_left commandInput_eq_iff.mp

/-- The same for the MAC of an answer behind the data of an answer that is verified. -/
theorem same_of_openAnswer (hkey : s.macKey = s'.macKey)
    (h : s'.openAnswer true (data' ++ s.answerMac data) = .ok data') :
    (s.counter = s'.counter ∧ data = data') ∨
      Cmac.Collides s.macKey (answerInput s.counter data) (answerInput s'.counter data') := by
  have hmac : s.answerMac data = s'.answerMac data' :=
    List.append_cancel_left (openAnswer_verified_iff.mp h)
  unfold answerMac at hmac
  rw [← hkey] at hmac
  exact (Cmac.eq_or_collides hmac).imp_left answerInput_eq_iff.mp

/-- The MAC of an answer passes behind a READ or a WRITE by a collision only. -/
theorem collides_of_check? {t : Tag} (hkey : s.macKey = s'.macKey) (hreplies : t.Replies data)
    (hframe : Command.Transfers frame) (h : s'.check? (frame ++ s.answerMac data) = some frame) :
    Cmac.Collides s.macKey (commandInput s'.counter frame) (answerInput s.counter data) := by
  have hmac : s.answerMac data = s'.commandMac frame :=
    List.append_cancel_left (check?_eq_some_iff.mp h)
  unfold answerMac commandMac at hmac
  rw [← hkey] at hmac
  exact ⟨hreplies.ne_transfer hframe _ _, hmac.symm⟩

end Session

/-- **The texts of MACs and derived keys are unambiguous.** The text of a command tells
the counter and the frame, that of an answer the counter and the data, that of a derived
key the purpose and the identifier. What a tag answers in a session is something that it
says and a MAC; and what it says never has the text of a READ or a WRITE. So under one
MAC key, the MAC of a command passes for another counter or another frame by a collision
only, and so does the MAC of an answer for another counter, for other data, or for a READ
or a WRITE. -/
theorem mac_texts_unambiguous :
    (∀ n n' frame frame', commandInput n frame = commandInput n' frame' → n = n' ∧ frame = frame') ∧
    (∀ n n' data data', answerInput n data = answerInput n' data' → n = n' ∧ data = data') ∧
    (∀ p p' uid uid', diversifyInput p uid = diversifyInput p' uid' → p = p' ∧ uid = uid') ∧
    (∀ (t t' : Tag) s next frame answer, t.Steps frame answer t' → t.state = .authenticated s →
      t'.state = .authenticated next → ∃ data, answer = data ++ t'.answerMac next data ∧ t.Replies data) ∧
    (∀ (t : Tag) data, t.Replies data → (data.length = 1 ∨ data.length = 8 ∨ data.length = 16) ∧
      ∀ n n' frame, Command.Transfers frame → commandInput n frame ≠ answerInput n' data) ∧
    ∀ s s' : Session, s.macKey = s'.macKey →
      (∀ frame frame', s'.check? (frame' ++ s.commandMac frame) = some frame' →
        (s.counter = s'.counter ∧ frame = frame') ∨
          Cmac.Collides s.macKey (commandInput s.counter frame) (commandInput s'.counter frame')) ∧
      (∀ data data', s'.openAnswer true (data' ++ s.answerMac data) = .ok data' →
        (s.counter = s'.counter ∧ data = data') ∨
          Cmac.Collides s.macKey (answerInput s.counter data) (answerInput s'.counter data')) ∧
      ∀ (t : Tag) data frame, t.Replies data → Command.Transfers frame →
        s'.check? (frame ++ s.answerMac data) = some frame →
        Cmac.Collides s.macKey (commandInput s'.counter frame) (answerInput s.counter data) := by
  refine ⟨fun _ _ _ _ => commandInput_eq_iff.mp, fun _ _ _ _ => answerInput_eq_iff.mp,
    fun _ _ _ _ => diversifyInput_eq_iff.mp, ?_, ?_, ?_⟩
  · intro t t' s next frame answer hstep hstate hnext
    exact hstep.answers.replies_in_session hstate hnext
  · intro t data hreplies
    exact ⟨hreplies.length_cases, fun n n' frame hframe => hreplies.ne_transfer hframe n n'⟩
  · intro s s' hkey
    refine ⟨fun _ _ => Session.same_of_check? hkey, fun _ _ => Session.same_of_openAnswer hkey, ?_⟩
    intro t data frame hreplies hframe hcheck
    exact Session.collides_of_check? hkey hreplies hframe hcheck

/-- A tag that is asked for its version in a session. -/
theorem mac_texts_unambiguous_version :
    let s : Session := ⟨Block.zero, uidSlot, 0⟩
    let next : Session := ⟨Block.zero, uidSlot, 1⟩
    let t : Tag := { Tag.new Uid.default with state := .authenticated s }
    ∃ t' answer, t.Steps (s.protect Command.getVersion) answer t' ∧ t.state = .authenticated s ∧
      t'.state = .authenticated next ∧ ∃ data, answer = data ++ t'.answerMac next data ∧ t.Replies data := by
  intro s next t
  have hhead : (s.protect Command.getVersion).head? ≠ some Code.authenticate :=
    fun he => absurd (Option.some.inj he) (by decide)
  have hsecured := Tag.runSecure_secured (t := t.taken) (s.check?_protect Command.getVersion) rfl rfl
    (rfl : s.advance? = some next)
  have hrun := Tag.process_authenticated (t := t) (⟨[], 0⟩ : ByteStream) rfl hhead
  rw [hsecured] at hrun
  have hstep := (⟨ByteStream, inferInstance, _, _, hrun⟩ : t.Steps (s.protect Command.getVersion) _ _)
  obtain ⟨-, -, -, hreplies, -⟩ := mac_texts_unambiguous
  exact ⟨_, _, hstep, rfl, rfl, hreplies t _ s next _ _ hstep rfl rfl⟩

end Nearfield
