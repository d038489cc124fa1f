/-
# A tag that several hosts use

The hosts send their frames in any order, and between them they draw from the
source that the tag draws from. What the tag drew is a finite string of bytes,
and a stream with these bytes takes it through the same history to the same
place (`Replays`). So its session comes from a handshake of that history
(`Replays.established`), whoever made it.

A host whose session is over is refused, whatever the tag is doing: the frames
of its commands are too long to be plain commands and too short to answer a
challenge, and in another session their MAC is wrong
(`Answers.protected_cases`). Without a MAC nothing is written at all
(`Answers.write_refused`).

Key definitions: `Tag.Replays`, `Tag.Established`.
Key theorems: `Tag.Replays.established`, `Tag.Answers.protected_cases`,
`Tag.Answers.write_refused`.
-/
import Nearfield.Proofs.Tag.History

namespace Nearfield
namespace Tag

variable {t u v : Tag} {history history' : List Event} {frame answer : Bytes}

/-! ### The same history with other bytes -/

/-- With the bytes that were drawn, the history takes `t` to `u`. -/
def Replays (t : Tag) (history : List Event) (u : Tag) : Prop :=
  ∃ drawn : Bytes, ∀ tail,
    history.foldl Event.apply (t, (⟨drawn ++ tail, 0⟩ : ByteStream)) = (u, ⟨tail, 0⟩)

theorem Replays.refl (t : Tag) : t.Replays [] t := ⟨[], fun _ => rfl⟩

theorem Replays.trans (h : t.Replays history u) (h' : u.Replays history' v) :
    t.Replays (history ++ history') v := by
  obtain ⟨drawn, hdrawn⟩ := h
  obtain ⟨drawn', hdrawn'⟩ := h'
  refine ⟨drawn ++ drawn', fun tail => ?_⟩
  rw [List.foldl_append, List.append_assoc, hdrawn, hdrawn']

section
variable {ρ : Type} [RandomSource ρ]

theorem replays_activation (t : Tag) : t.Replays [.activation] { t with state := .idle } := by
  unfold Replays
  simp only [List.foldl_cons, List.foldl_nil, Event.apply]
  unfold activate
  by_cases hrandom : t.randomId
  · simp only [if_pos hrandom]
    -- the identifier may be any three bytes
    exact ⟨[0, 0, 0], fun _ => rfl⟩
  · simp only [if_neg hrandom]
    exact ⟨[], fun _ => rfl⟩

/-- A challenge is drawn, and nothing else. -/
theorem challenge_replays (t : Tag) (frame : Bytes) (rng : ρ) : ∃ drawn : Bytes, ∀ tail,
    (t.challenge frame (⟨drawn ++ tail, 0⟩ : ByteStream)).2 = ((t.challenge frame rng).2.1, ⟨tail, 0⟩) := by
  unfold challenge
  split
  · split
    · exact ⟨[], fun _ => rfl⟩
    · exact ⟨(drawBlock rng).1.toBytes, fun _ => rfl⟩
  · exact ⟨[], fun _ => rfl⟩

theorem replays_frame (t : Tag) (frame : Bytes) (rng : ρ) :
    t.Replays [.frame frame] (t.process frame rng).2.1 := by
  unfold Replays
  simp only [List.foldl_cons, List.foldl_nil, Event.apply]
  by_cases hhead : frame.head? = some Code.authenticate
  · cases hstate : t.state with
    | challenged slot rndB =>
      simp only [process_challenged _ hstate]
      exact ⟨[], fun _ => rfl⟩
    | idle =>
      simp only [process_authenticate _ (.of_idle hstate) hhead]
      exact challenge_replays t.taken frame rng
    | authenticated s =>
      simp only [process_authenticate _ (.of_authenticated hstate) hhead]
      exact challenge_replays t.taken frame rng
  · cases hstate : t.state with
    | challenged slot rndB =>
      simp only [process_challenged _ hstate]
      exact ⟨[], fun _ => rfl⟩
    | idle =>
      simp only [process_idle _ hstate hhead]
      exact ⟨[], fun _ => rfl⟩
    | authenticated s =>
      simp only [process_authenticated _ hstate hhead]
      exact ⟨[], fun _ => rfl⟩

end

/-- The session that the tag is in. -/
def session? (t : Tag) : Option Session :=
  match t.state with
  | .authenticated s => some s
  | _ => none

theorem session?_eq_some_iff {s : Session} : t.session? = some s ↔ t.state = .authenticated s := by
  unfold session?
  cases t.state <;> simp

/-- The session was opened by a handshake of the history, and goes on. -/
def Established (t : Tag) (history : List Event) (s : Session) : Prop :=
  ∃ (rng : ByteStream) (o : Origin (t, rng) history), s = o.current

/-- **A session was established in the history**, if there was none before. -/
theorem Replays.established (h : t.Replays history u) (hidle : t.state = .idle) {s : Session}
    (hstate : u.state = .authenticated s) : t.Established history s := by
  obtain ⟨drawn, hdrawn⟩ := h
  have hafter : after (t, (⟨drawn ++ [], 0⟩ : ByteStream)) history = u := congrArg Prod.fst (hdrawn [])
  refine ⟨⟨drawn ++ [], 0⟩, (explained hidle history).authenticated s ?_⟩
  rw [hafter, hstate]

/-! ### Refusals -/

/-- No command is as long. -/
theorem runCommand_of_length (t : Tag) (slot : Option UInt8) (h : 6 < frame.length) :
    t.runCommand slot frame = ([Code.nakArgument], t) := by
  unfold runCommand
  split
  · simp at h
  · simp at h
  · simp at h
  · rfl

/-- Outside a session a WRITE is refused. -/
theorem nak?_runCommand_write (t : Tag) (page : UInt8) (data : Page) :
    Answer.nak? (t.runCommand none (Command.write page data)).1 ≠ none := by
  have hargument : Answer.nak? [Code.nakArgument] ≠ none := nak?_refused_ne (by decide)
  have hauth : Answer.nak? [Code.nakAuth] ≠ none := nak?_refused_ne (by decide)
  unfold Command.write Word.toBytes
  rw [runCommand, if_pos rfl]
  split
  · exact hargument
  · exact hauth

/-- A frame is refused that starts no handshake, answers no challenge, is no
command and has no MAC of the session. -/
theorem Answers.refused_of (h : t.Answers frame answer u) (hstart : frame.length ≠ 2)
    (htoken : frame.length ≠ 33) (hplain : Answer.nak? (t.taken.runCommand none frame).1 ≠ none)
    (hcheck : ∀ s, t.state = .authenticated s → s.check? frame = none) :
    ∃ code, answer = [code] ∧ code ≠ Code.ack ∧ u = t.taken := by
  cases h with
  | refused code hcode => exact ⟨code, rfl, hcode, rfl⟩
  | challenged slot rndB hstate hframe hmodel hslot => exact absurd (hframe ▸ rfl) hstart
  | opened slot rndB rndA hstate hopen =>
    obtain ⟨c0, c1, rfl, -⟩ := openToken?_eq_some hopen
    exact absurd rfl htoken
  | plain answer hstate hrun hnak =>
    rw [hrun] at hplain
    exact absurd hnak hplain
  | secured s next command data t' hstate hhead hsecured hrun hnak hnext =>
    rw [hcheck s hstate] at hsecured
    cases hsecured
  | exhausted s command data t' hstate hhead hsecured hrun hnak hnext =>
    rw [hcheck s hstate] at hsecured
    cases hsecured

/-- **A command with a MAC is refused by every tag but one in a session where
the MAC is right.** -/
theorem Answers.protected_cases {s : Session} {command : Bytes}
    (h : t.Answers (s.protect command) answer u) (hlen : command.length < 25) :
    (∃ s', t.state = .authenticated s' ∧ s'.commandMac command = s.commandMac command) ∨
      ∃ code, answer = [code] ∧ code ≠ Code.ack ∧ u = t.taken := by
  have hsize : Cmac.truncatedSize = 8 := rfl
  have hframe := s.length_protect command
  by_cases hmac : ∃ s', t.state = .authenticated s' ∧ s'.commandMac command = s.commandMac command
  · exact Or.inl hmac
  refine Or.inr (h.refused_of (by omega) (by omega) ?_ ?_)
  · rw [runCommand_of_length _ _ (by omega)]
    exact nak?_refused_ne (by decide)
  · intro s' hstate
    rw [Option.eq_none_iff_forall_not_mem]
    intro command' hchecked
    obtain ⟨rfl, hsame⟩ := Session.protect_inj (Session.check?_eq_some_iff.mp hchecked)
    exact hmac ⟨s', hstate, hsame.symm⟩

/-- **A WRITE without a MAC is refused**, inside a session and outside. -/
theorem Answers.write_refused {page : UInt8} {data : Page}
    (h : t.Answers (Command.write page data) answer u) :
    ∃ code, answer = [code] ∧ code ≠ Code.ack ∧ u = t.taken :=
  h.refused_of (fun hlen => nomatch hlen) (fun hlen => nomatch hlen)
    (nak?_runCommand_write _ page data) fun _ _ => rfl

end Tag
end Nearfield
