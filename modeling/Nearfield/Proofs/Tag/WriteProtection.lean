/-
# A tag's memory is written in sessions only

Whatever frames a tag is sent, its first four pages stay. Whenever its memory
changes, a whole handshake stands in the history, every frame since was a
command with the MAC for its turn, and the frame that changed the memory was a
WRITE to a user page with the MAC for the next turn (`write_protected`).

A frame that was made for another session key or another counter passes only if
two truncated MACs agree (`Collides`). The counter never comes back in one
session. A tag that draws a challenge again can be led through the same
handshake again, and then the frames of the first session pass once more
(`replayed_write_accepted`); a second handshake is the only way
(`Origin.handshake_since`).

Key definitions: `Tag.Collides`, `Tag.WrittenAs`, `Tag.Replay.between`.
Key theorems: `Tag.write_protected`, `Tag.replayed_write_accepted`.
-/
import Nearfield.Proofs.Memory
import Nearfield.Proofs.Tag.History

namespace Nearfield
namespace Tag

section
variable {ρ : Type} [RandomSource ρ] {start : Tag × ρ}

/-- The MACs of a command in two sessions agree, although the MAC keys or the
texts differ. -/
def Collides (s s' : Session) (command : Bytes) : Prop :=
  (s.macKey, commandInput s.counter command) ≠ (s'.macKey, commandInput s'.counter command) ∧
    s.commandMac command = s'.commandMac command

/-- A frame for one session passes in another by a collision, or because both
sessions have the same MAC key and the same counter. -/
theorem collides_or_same {s s' : Session} {command frame : Bytes}
    (h : s.protect command = s'.protect frame) :
    Collides s s' command ∨ (s.macKey = s'.macKey ∧ s.counter = s'.counter) := by
  obtain ⟨rfl, hmac⟩ := Session.protect_inj h
  by_cases hsame : (s.macKey, commandInput s.counter command)
      = (s'.macKey, commandInput s'.counter command)
  · rw [Prod.mk.injEq] at hsame
    exact Or.inr ⟨hsame.1, Session.commandInput_inj hsame.2⟩
  · exact Or.inl ⟨hsame, hmac⟩

/-- Between two moments with the same MAC key and the same counter a whole
handshake was made. -/
theorem Origin.handshake_since {history earlier later : List Event} (o : Origin start history)
    (hhistory : history = earlier ++ later) (hlater : later ≠ []) {s : Session}
    (hstate : (after start earlier).state = .authenticated s)
    (hcounter : s.counter = o.current.counter) :
    ∃ between, later = between ++ handshake o.slot o.c0 o.c1 ++ o.commands.map .frame := by
  have hsplit : earlier ++ later = o.before ++ handshake o.slot o.c0 o.c1 ++ o.commands.map .frame :=
    hhistory.symm.trans o.history_eq
  have hlen : earlier.length + later.length = o.before.length + 2 + o.commands.length := by
    have := congrArg List.length hsplit
    simp only [handshake, List.length_append, List.length_cons, List.length_nil, List.length_map] at this
    omega
  have hpos : 0 < later.length := List.length_pos_of_ne_nil hlater
  have hearlier : earlier = (earlier ++ later).take earlier.length := List.take_left.symm
  by_cases hbefore : earlier.length ≤ o.before.length
  · -- the earlier moment was in front of the handshake
    refine ⟨o.before.drop earlier.length, ?_⟩
    have := congrArg (List.drop earlier.length) hsplit
    rwa [List.drop_left, List.append_assoc, List.drop_append_of_le_length hbefore,
      ← List.append_assoc] at this
  · by_cases hmiddle : earlier.length = o.before.length + 1
    · -- or it was in the middle of the handshake, and no session was open
      have hchallenged := o.challenged
      have : earlier = o.before ++ [.frame (Command.authenticate o.slot)] := by
        rw [hearlier, hsplit, hmiddle, List.append_assoc, List.take_length_add_append]
        rfl
      rw [← this, hstate] at hchallenged
      cases hchallenged
    · -- or since the handshake, and the counter was lower
      obtain ⟨k, hk⟩ : ∃ k, earlier.length = o.before.length + 2 + k :=
        ⟨earlier.length - (o.before.length + 2), by omega⟩
      have hlt : k < o.commands.length := by omega
      have hheld := o.held k (Nat.le_of_lt hlt)
      have : earlier = o.before ++ handshake o.slot o.c0 o.c1 ++ (o.commands.take k).map .frame := by
        have hhead : o.before.length + 2 = (o.before ++ handshake o.slot o.c0 o.c1).length := by
          rw [List.length_append]
          rfl
        rw [hearlier, hsplit, hk, hhead, List.take_length_add_append, List.map_take]
      rw [← this, hstate] at hheld
      cases hheld
      have hbound := o.length_le
      have hnow : o.current.counter.toNat = o.commands.length :=
        o.session.toNat_counter_after hbound
      rw [← hcounter, Session.toNat_counter_after _ (by omega)] at hnow
      omega

/-- The event is a frame that writes a page, with the MAC for its turn in a
session that a handshake opened. -/
structure WrittenAs (start : Tag × ρ) (history : List Event) (e : Event) (page : UInt8)
    (data : Page) where
  /-- The handshake and the commands since. -/
  origin : Origin start history
  event_eq : e = .frame (origin.current.protect (Command.write page data))
  writable : Writable page
  memory_eq : (after start (history ++ [e])).memory = (after start history).memory.setPage page data

/-- One event changes the memory by a protected WRITE or not at all. -/
theorem memory_snoc (h : start.1.state = .idle) (history : List Event) (e : Event) :
    (after start (history ++ [e])).memory = (after start history).memory ∨
      ∃ page data, Nonempty (WrittenAs start history e page data) := by
  cases e with
  | activation => exact Or.inl (memory_of_settled (after_activation start history).1)
  | frame bytes =>
    obtain ⟨answer, hans⟩ := after_frame start history bytes
    rcases hans.memory_cases with hsame | ⟨s, page, data, hstate, hframe, hpage, hmemory⟩
    · exact Or.inl hsame
    · obtain ⟨o, rfl⟩ := (explained h history).authenticated s hstate
      exact Or.inr ⟨page, data, ⟨o, congrArg Event.frame hframe, hpage, hmemory⟩⟩

/-- The pages in front of the user pages stay. -/
theorem sameOutside_after (h : start.1.state = .idle) (history : List Event) :
    Memory.SameOutside 4 36 start.1.memory (after start history).memory := by
  induction history using List.reverseRecOn with
  | nil => exact Memory.SameOutside.refl 4 36 _
  | append_singleton history e ih =>
    refine ih.trans ?_
    rcases memory_snoc h history e with hsame | ⟨page, data, ⟨w⟩⟩
    · rw [hsame]
      exact Memory.SameOutside.refl 4 36 _
    · rw [w.memory_eq]
      have hpage := writable_iff.mp w.writable
      exact Memory.sameOutside_setPage _ data hpage.1 hpage.2 (Nat.le_refl _)

/-- **The memory is write protected.** After any history of an idle tag, the
identifier pages are what they were; if one more event changes the memory, it
is a WRITE under the MAC of a session whose handshake and commands end the
history, and it writes that page. A frame that was made for any other session
or turn passes only by a collision; and one that was right at an earlier moment
is right again only after another handshake. -/
theorem write_protected (h : start.1.state = .idle) (history : List Event) (e : Event) :
    (∀ n : Fin pageCount, n.val < 4 → (after start (history ++ [e])).memory[n] = start.1.memory[n]) ∧
      ((after start (history ++ [e])).memory ≠ (after start history).memory →
        ∃ page data, ∃ w : WrittenAs start history e page data,
          (∀ s command, e = .frame (s.protect command) →
            Collides s w.origin.current command ∨
              (s.macKey = w.origin.current.macKey ∧ s.counter = w.origin.current.counter)) ∧
          ∀ earlier later s, history = earlier ++ later → later ≠ [] →
            (after start earlier).state = .authenticated s →
            s.macKey = w.origin.current.macKey → s.counter = w.origin.current.counter →
            ∃ between, later = between ++ handshake w.origin.slot w.origin.c0 w.origin.c1
              ++ w.origin.commands.map .frame) := by
  constructor
  · intro n hn
    exact sameOutside_after h (history ++ [e]) n (Or.inl hn)
  · intro hchanged
    rcases memory_snoc h history e with hsame | ⟨page, data, ⟨w⟩⟩
    · exact absurd hsame hchanged
    · refine ⟨page, data, w, ?_, ?_⟩
      · intro s command he
        have hframe := he.symm.trans w.event_eq
        rw [Event.frame.injEq] at hframe
        exact collides_or_same hframe
      · intro earlier later s hhistory hlater hstate _ hcounter
        exact w.origin.handshake_since hhistory hlater hstate hcounter

end

/-! ### The same handshake twice -/

namespace Replay

/-- The number that the tag draws, twice in a row. -/
def rndB : Block := Block.zeroFilled [1, 2, 3]

/-- A new tag and its random bytes. -/
def start : Tag × ByteStream := (Tag.new Uid.default, ⟨rndB.toBytes ++ rndB.toBytes, 0⟩)

/-- The handshake of a host that draws zeros. -/
def opening : List Event :=
  let key := Aes.schedule Block.zero
  let c0 := key.encrypt Block.zero
  handshake uidSlot c0 (key.encrypt (rndB.rotateLeft.xor c0))

def session : Session := Session.establish Block.zero uidSlot Block.zero rndB

/-- A write in the `n`-th turn. -/
def write (n : Nat) (data : Page) : Event :=
  .frame ((session.after n).protect (Command.write payloadStart data))

/-- Two writes, another activation and the handshake again. -/
def between : List Event :=
  [write 0 ⟨1, 1, 1, 1⟩, write 1 ⟨2, 2, 2, 2⟩, .activation] ++ opening

end Replay

/-- The second write changes the memory, and so it is explained. -/
theorem write_protected_second :
    let history := Replay.opening ++ [Replay.write 0 ⟨1, 1, 1, 1⟩]
    let e := Replay.write 1 ⟨2, 2, 2, 2⟩
    Replay.start.1.state = .idle ∧
      (after Replay.start (history ++ [e])).memory ≠ (after Replay.start history).memory ∧
      ∃ page data, Nonempty (WrittenAs Replay.start history e page data) := by
  intro history e
  have hidle : Replay.start.1.state = .idle := rfl
  have hchanged : (after Replay.start (history ++ [e])).memory
      ≠ (after Replay.start history).memory := by
    decide +kernel
  obtain ⟨page, data, w, -, -⟩ := (write_protected hidle history e).2 hchanged
  exact ⟨hidle, hchanged, page, data, ⟨w⟩⟩

/-- **A replayed frame can pass without a collision**: when the tag draws its
challenge again and the handshake is replayed with it, the session key and the
counter come back, and with them the frames. -/
theorem replayed_write_accepted :
    ¬ ∀ (start : Tag × ByteStream) (earlier later : List Event) (s s' : Session) (command : Bytes),
      start.1.state = .idle → (after start earlier).state = .authenticated s →
      later.head? = some (.frame (s.protect command)) →
      (after start (earlier ++ later)).state = .authenticated s' →
      (after start (earlier ++ later ++ [.frame (s.protect command)])).memory
        ≠ (after start (earlier ++ later)).memory →
      Collides s s' command := by
  intro h
  have hopened : (after Replay.start Replay.opening).state = .authenticated Replay.session := by
    decide +kernel
  have hagain : (after Replay.start (Replay.opening ++ Replay.between)).state
      = .authenticated Replay.session := by
    decide +kernel
  have hchanged : (after Replay.start
        (Replay.opening ++ Replay.between ++ [Replay.write 0 ⟨1, 1, 1, 1⟩])).memory
      ≠ (after Replay.start (Replay.opening ++ Replay.between)).memory := by
    decide +kernel
  have hcollides := h Replay.start Replay.opening Replay.between Replay.session Replay.session
    (Command.write payloadStart ⟨1, 1, 1, 1⟩) rfl hopened rfl hagain hchanged
  exact hcollides.1 rfl

end Tag
end Nearfield
