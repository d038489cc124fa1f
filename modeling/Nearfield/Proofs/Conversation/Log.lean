/-
# What a host does on a link

A link with a log shows all that its host does: the random bytes that are drawn
and the frames with their answers, in order. A host that gives up leaves a log
that was `Cut`: it is the front of a conversation that might have been, and only
the answer to its last frame is another one. `Leaves prog c Q E` says what an
action adds to the log, `Q` if it returns and `E` if it fails.

Key definitions: `Entry`, `Logged`, `exchanges`, `Cut`, `Stopped`,
`Channel.Leaves`.
Key theorems: `Cut.at_exchange`, `Cut.frames_prefix`, `Channel.Leaves.bind`.
-/
import Nearfield.Proofs.Channel.Recorded
import Nearfield.Proofs.Cipher.Cbc

namespace Nearfield

/-! ### Logs -/

/-- What a host does on a link. -/
inductive Entry where
  | drew (b : UInt8)
  | exchanged (frame : Bytes) (answer : Except LinkError Bytes)

/-- A link that keeps a log of its host. -/
structure Logged (σ : Type) where
  link : σ
  /-- Oldest entry first. -/
  log : List Entry

instance {σ : Type} [FrameLink σ] : FrameLink (Logged σ) where
  nextByte l :=
    let (b, link) := RandomSource.nextByte l.link
    (b, ⟨link, l.log ++ [.drew b]⟩)
  exchange frame l :=
    let (answer, link) := FrameLink.exchange frame l.link
    (answer, ⟨link, l.log ++ [.exchanged frame answer]⟩)

namespace Logged
variable {σ : Type} [FrameLink σ]

/-- The link inside. -/
def forget : LinkMap (Logged σ) σ where
  map := Logged.link
  nextByte_map _ := rfl
  exchange_map _ _ := rfl

theorem exchange_eq (frame : Bytes) (l : Logged σ) :
    FrameLink.exchange frame l = ((FrameLink.exchange frame l.link).1,
      ⟨(FrameLink.exchange frame l.link).2,
        l.log ++ [.exchanged frame (FrameLink.exchange frame l.link).1]⟩) := rfl

theorem log_exchange (frame : Bytes) (l : Logged σ) : (FrameLink.exchange frame l).2.log
    = l.log ++ [.exchanged frame (FrameLink.exchange frame l).1] := rfl

theorem log_drawBytes : ∀ (n : Nat) (l : Logged σ),
    (drawBytes n l).2.log = l.log ++ (drawBytes n l).1.map .drew
  | 0, l => (List.append_nil l.log).symm
  | n + 1, l => by
    have hrest := log_drawBytes n (RandomSource.nextByte l).2
    have hfirst : (RandomSource.nextByte l).2.log = l.log ++ [.drew (RandomSource.nextByte l).1] := rfl
    rw [hfirst, List.append_assoc] at hrest
    exact hrest

theorem log_drawBlock (l : Logged σ) :
    (drawBlock l).2.log = l.log ++ (drawBlock l).1.toBytes.map .drew := by
  have hbytes : (drawBlock l).1.toBytes = (drawBytes Block.size l).1 :=
    Block.toBytes_zeroFilled_of_length (length_drawBytes Block.size l)
  rw [hbytes]
  exact log_drawBytes Block.size l

end Logged

/-- The frames of a log with their answers. -/
def exchanges (log : List Entry) : List Exchanged :=
  log.filterMap fun
    | .drew _ => none
    | .exchanged frame answer => some (frame, answer)

@[simp] theorem exchanges_append (log log' : List Entry) :
    exchanges (log ++ log') = exchanges log ++ exchanges log' := List.filterMap_append

@[simp] theorem exchanges_drew (bytes : Bytes) : exchanges (bytes.map .drew) = [] := by
  induction bytes with
  | nil => rfl
  | cons b bytes ih => exact ih

@[simp] theorem exchanges_exchanged (frame : Bytes) (answer : Except LinkError Bytes) (log : List Entry) :
    exchanges (.exchanged frame answer :: log) = (frame, answer) :: exchanges log := rfl

/-! ### Conversations that were cut off -/

/-- The log stops somewhere in the conversation; the last frame may have been
answered in another way. -/
inductive Cut : List Entry → List Entry → Prop where
  | idle (conv : List Entry) : Cut conv []
  | tried (frame : Bytes) (answer answer' : Except LinkError Bytes) (rest : List Entry) :
    Cut (.exchanged frame answer :: rest) [.exchanged frame answer']
  | next (entry : Entry) {conv log : List Entry} (h : Cut conv log) : Cut (entry :: conv) (entry :: log)

namespace Cut
variable {conv log : List Entry}

theorem refl : ∀ conv : List Entry, Cut conv conv
  | [] => .idle []
  | entry :: rest => .next entry (refl rest)

/-- What would have come later makes no difference. -/
theorem extend (h : Cut conv log) (rest : List Entry) : Cut (conv ++ rest) log := by
  induction h with
  | idle conv => exact .idle _
  | tried frame answer answer' rest' => exact .tried frame answer answer' (rest' ++ rest)
  | next entry _ ih => exact .next entry ih

theorem prepend (h : Cut conv log) : ∀ front : List Entry, Cut (front ++ conv) (front ++ log)
  | [] => h
  | entry :: front => .next entry (h.prepend front)

/-- The frames of the log are the first ones of the conversation. -/
theorem frames_prefix (h : Cut conv log) :
    (exchanges log).map Prod.fst <+: (exchanges conv).map Prod.fst := by
  induction h with
  | idle conv => exact List.nil_prefix
  | tried frame answer answer' rest => exact ⟨(exchanges rest).map Prod.fst, rfl⟩
  | next entry _ ih =>
    cases entry with
    | drew b => exact ih
    | exchanged frame answer => exact (List.prefix_cons_inj frame).mpr ih

/-- **Every exchange of the log has its place in the conversation**, after the
same exchanges, and unless it is the last one with the same answer. -/
theorem at_exchange (h : Cut conv log) {earlier later : List Exchanged} {frame : Bytes}
    {answer : Except LinkError Bytes} (hsplit : exchanges log = earlier ++ (frame, answer) :: later) :
    ∃ answer' rest, exchanges conv = earlier ++ (frame, answer') :: rest ∧
      (later ≠ [] → answer = answer') := by
  induction h generalizing earlier with
  | idle conv =>
    exact absurd hsplit.symm (List.append_ne_nil_of_right_ne_nil _ (List.cons_ne_nil _ _))
  | tried frame' wanted answer' rest =>
    cases earlier with
    | nil =>
      cases hsplit
      exact ⟨wanted, exchanges rest, rfl, fun hlater => absurd rfl hlater⟩
    | cons first earlier =>
      have hnil : earlier ++ (frame, answer) :: later = [] := (List.cons.inj hsplit).2.symm
      exact absurd hnil (List.append_ne_nil_of_right_ne_nil _ (List.cons_ne_nil _ _))
  | @next entry conv log hcut ih =>
    cases entry with
    | drew b => exact ih hsplit
    | exchanged frame' answer' =>
      cases earlier with
      | nil =>
        cases hsplit
        exact ⟨answer, exchanges conv, rfl, fun _ => rfl⟩
      | cons first earlier =>
        obtain ⟨hfirst, hrest⟩ := List.cons.inj hsplit
        obtain ⟨wanted, rest, hconv, hlast⟩ := ih hrest
        refine ⟨wanted, rest, ?_, hlast⟩
        rw [exchanges_exchanged, hconv, hfirst, List.cons_append]

end Cut

/-- The log was cut off in one of these conversations. -/
def Stopped (S : List Entry → Prop) (log : List Entry) : Prop := ∃ conv, S conv ∧ Cut conv log

namespace Stopped
variable {S S' : List Entry → Prop} {log : List Entry}

theorem of_mem (h : S log) : Stopped S log := ⟨log, h, Cut.refl log⟩

/-- The last frame of a log of one frame is not looked at. -/
theorem tried {frame : Bytes} {answer : Except LinkError Bytes} {rest : List Entry}
    (h : S (.exchanged frame answer :: rest)) (answer' : Except LinkError Bytes) :
    Stopped S [.exchanged frame answer'] := ⟨_, h, .tried frame answer answer' rest⟩

theorem mono (h : Stopped S log) (hmono : ∀ conv, S conv → S' conv) : Stopped S' log := by
  obtain ⟨conv, hconv, hcut⟩ := h
  exact ⟨conv, hmono conv hconv, hcut⟩

/-- Every conversation of the one kind begins one of the other. -/
theorem extend (h : Stopped S log) (hextend : ∀ conv, S conv → ∃ rest, S' (conv ++ rest)) :
    Stopped S' log := by
  obtain ⟨conv, hconv, hcut⟩ := h
  obtain ⟨rest, hrest⟩ := hextend conv hconv
  exact ⟨conv ++ rest, hrest, hcut.extend rest⟩

theorem prepend (h : Stopped S log) {front : List Entry} (hprepend : ∀ conv, S conv → S' (front ++ conv)) :
    Stopped S' (front ++ log) := by
  obtain ⟨conv, hconv, hcut⟩ := h
  exact ⟨front ++ conv, hprepend conv hconv, hcut.prepend front⟩

end Stopped

/-! ### What an action adds to the log -/

namespace Channel
variable {σ α β : Type} {c : Channel (Logged σ)} {Q : α → List Entry → Channel (Logged σ) → Prop}
  {E : List Entry → Prop}

/-- The action returns and adds a conversation with `Q` to the log, or fails and
adds one with `E`. -/
def Leaves (prog : ChannelM (Logged σ) α) (c : Channel (Logged σ))
    (Q : α → List Entry → Channel (Logged σ) → Prop) (E : List Entry → Prop) : Prop :=
  Ends prog c (fun a c' => ∃ added, c'.link.log = c.link.log ++ added ∧ Q a added c')
    (fun _ c' => ∃ added, c'.link.log = c.link.log ++ added ∧ E added)

theorem Leaves.mono {prog : ChannelM (Logged σ) α} {Q' : α → List Entry → Channel (Logged σ) → Prop}
    {E' : List Entry → Prop} (h : Leaves prog c Q E) (hQ : ∀ a added c', Q a added c' → Q' a added c')
    (hE : ∀ added, E added → E' added) : Leaves prog c Q' E' := by
  refine Ends.mono h ?_ ?_
  · intro a c' hend
    obtain ⟨added, hlog, hadded⟩ := hend
    exact ⟨added, hlog, hQ a added c' hadded⟩
  · intro e c' hend
    obtain ⟨added, hlog, hadded⟩ := hend
    exact ⟨added, hlog, hE added hadded⟩

theorem leaves_pure {a : α} (h : Q a [] c) : Leaves (pure a) c Q E :=
  ⟨[], (List.append_nil _).symm, h⟩

theorem leaves_throw {e : TagError} (h : E []) : Leaves (throw e) c Q E :=
  ⟨[], (List.append_nil _).symm, h⟩

theorem leaves_lift {r : Except TagError α} (hok : ∀ a, r = .ok a → Q a [] c)
    (herror : ∀ e, r = .error e → E []) : Leaves (lift r) c Q E := by
  cases r with
  | ok a => exact leaves_pure (hok a rfl)
  | error e => exact leaves_throw (herror e rfl)

/-- What was added before counts as added. -/
theorem Leaves.since {prog : ChannelM (Logged σ) α} {c₁ : Channel (Logged σ)} {front : List Entry}
    (hfront : c₁.link.log = c.link.log ++ front)
    (h : Leaves prog c₁ (fun a added c' => Q a (front ++ added) c') fun added => E (front ++ added)) :
    Ends prog c₁ (fun a c' => ∃ added, c'.link.log = c.link.log ++ added ∧ Q a added c')
      (fun _ c' => ∃ added, c'.link.log = c.link.log ++ added ∧ E added) := by
  have happend : ∀ added, c₁.link.log ++ added = c.link.log ++ (front ++ added) := by
    intro added
    rw [hfront, List.append_assoc]
  refine Ends.mono h ?_ ?_
  · intro a c' hend
    obtain ⟨added, hlog, hadded⟩ := hend
    exact ⟨front ++ added, hlog.trans (happend added), hadded⟩
  · intro e c' hend
    obtain ⟨added, hlog, hadded⟩ := hend
    exact ⟨front ++ added, hlog.trans (happend added), hadded⟩

/-- **What two actions add, one after the other.** -/
theorem Leaves.bind {prog : ChannelM (Logged σ) β} {next : β → ChannelM (Logged σ) α}
    {R : β → List Entry → Channel (Logged σ) → Prop} {E' : List Entry → Prop}
    (h : Leaves prog c R E') (hE : ∀ added, E' added → E added)
    (hnext : ∀ b front c₁, R b front c₁ → Leaves (next b) c₁ (fun a added c' => Q a (front ++ added) c')
      fun added => E (front ++ added)) : Leaves (prog >>= next) c Q E := by
  refine Ends.bind h ?_ ?_
  · intro e c' hend
    obtain ⟨added, hlog, hadded⟩ := hend
    exact ⟨added, hlog, hE added hadded⟩
  · intro b c₁ hend
    obtain ⟨front, hfront, hR⟩ := hend
    exact (hnext b front c₁ hR).since hfront

/-! One rule for each action that a command may begin with. -/

theorem leaves_get_bind {next : Channel (Logged σ) → ChannelM (Logged σ) α} (h : Leaves (next c) c Q E) :
    Leaves (get >>= next) c Q E := h

theorem leaves_setSession_bind {s : Option Session} {next : Unit → ChannelM (Logged σ) α}
    (h : Leaves (next ()) { c with session := s } Q E) : Leaves (setSession s >>= next) c Q E := h

theorem leaves_lift_bind {r : Except TagError β} {next : β → ChannelM (Logged σ) α}
    (hok : ∀ b, r = .ok b → Leaves (next b) c Q E) (herror : ∀ e, r = .error e → E []) :
    Leaves (lift r >>= next) c Q E := by
  cases r with
  | ok b => exact hok b rfl
  | error e => exact leaves_throw (herror e rfl)

theorem leaves_draw_bind {take : Logged σ → β × Logged σ} {next : β → ChannelM (Logged σ) α}
    {front : List Entry} (hfront : (take c.link).2.log = c.link.log ++ front)
    (h : Leaves (next (take c.link).1) { c with link := (take c.link).2 }
      (fun a added c' => Q a (front ++ added) c') fun added => E (front ++ added)) :
    Leaves (draw take >>= next) c Q E := by
  unfold Leaves
  rw [ends_bind, ends_draw]
  exact h.since hfront

theorem leaves_exchange_bind [FrameLink σ] {frame : Bytes} {next : Bytes → ChannelM (Logged σ) α}
    (hok : ∀ answer link, Leaves (next answer) { c with link }
      (fun a added c' => Q a (.exchanged frame (.ok answer) :: added) c')
      fun added => E (.exchanged frame (.ok answer) :: added))
    (herror : ∀ e, E [.exchanged frame (.error e)]) : Leaves (exchange frame >>= next) c Q E := by
  unfold Leaves
  rw [ends_bind, ends_exchange]
  have hlog := Logged.log_exchange frame c.link
  rcases hex : FrameLink.exchange frame c.link with ⟨e | answer, link⟩
  · rw [hex] at hlog
    exact ⟨_, hlog, herror e⟩
  · rw [hex] at hlog
    exact (hok answer link).since hlog

/-- A failure may be replaced by another one. -/
theorem Leaves.tryCatch {prog : ChannelM (Logged σ) α} (h : Leaves prog c Q E)
    (handle : TagError → ChannelM (Logged σ) α) (hhandle : ∀ e, ∃ e', handle e = throw e') :
    Leaves (tryCatch prog handle) c Q E := by
  refine ends_tryCatch.mpr (Ends.mono h (fun _ _ hend => hend) fun e c' hend => ?_)
  obtain ⟨e', he'⟩ := hhandle e
  rw [he']
  exact hend

end Channel
end Nearfield
