/-
# Commands against any link

What the commands of a host add to its log, whatever the link answers. A host
sends its commands in the clear or in a session (`Messaging`), one turn after
the other: a command, and an answer from which the host takes some data. `Talk`
says that turns were taken, each under its own counter. A command that returns
has taken its turns; one that fails was stopped on its way, and the last answer
is the only one that the host did not accept.

Key definitions: `Messaging`, `Turn`, `Messaging.Opens`, `Messaging.Talk`,
`Messaging.At`, `Channel.handshake`.
Key theorems: `Messaging.leaves_transceive`, `Messaging.leaves_readArea`,
`Messaging.leaves_writeRangeCommitted`, `Channel.leaves_authenticate`.
-/
import Nearfield.Proofs.Channel.Commands
import Nearfield.Proofs.Conversation.Log

namespace Nearfield

/-! ### What an accepted answer looks like -/

theorem Block.eq_toBytes_of_ofBytes? {d : Bytes} {b : Block} (h : Block.ofBytes? d = some b) :
    d = b.toBytes := by
  unfold Block.ofBytes? at h
  split at h
  · cases h
    rfl
  · cases h

theorem Version.eq_toBytes_of_ofBytes? {d : Bytes} {v : Version} (h : Version.ofBytes? d = some v) :
    d = v.toBytes := by
  unfold Version.ofBytes? at h
  split at h
  · cases h
    rfl
  · cases h

namespace Answer

theorem pages_eq_ok {data : Bytes} {b : Block} (h : pages data = .ok b) : data = b.toBytes := by
  unfold pages at h
  cases hread : Block.ofBytes? data with
  | none => rw [hread] at h; cases h
  | some b' =>
    rw [hread] at h
    cases h
    exact Block.eq_toBytes_of_ofBytes? hread

theorem version_eq_ok {data : Bytes} {v : Version} (h : version data = .ok v) : data = v.toBytes := by
  unfold version at h
  cases hread : Version.ofBytes? data with
  | none => rw [hread] at h; cases h
  | some v' =>
    rw [hread] at h
    cases h
    exact Version.eq_toBytes_of_ofBytes? hread

theorem acknowledge_eq_ok {data : Bytes} (h : acknowledge data = .ok ()) : data = [Code.ack] := by
  unfold acknowledge at h
  split at h
  · split at h
    · rename_i hack
      rw [hack]
    · cases h
  · cases h

theorem handshakeBlock_eq_ok {mark : UInt8} {rejected : TagError} {answer : Bytes} {b : Block}
    (h : handshakeBlock mark rejected answer = .ok b) : answer = mark :: b.toBytes := by
  unfold handshakeBlock at h
  cases hnak : nak? answer with
  | some code => rw [hnak] at h; cases h
  | none =>
    rw [hnak] at h
    cases answer with
    | nil => cases h
    | cons m block =>
      dsimp only at h
      by_cases hmark : m = mark
      · rw [if_pos hmark] at h
        cases hread : Block.ofBytes? block with
        | none => rw [hread] at h; cases h
        | some b' =>
          rw [hread] at h
          cases h
          rw [hmark, Block.eq_toBytes_of_ofBytes? hread]
      · rw [if_neg hmark] at h
        cases h

end Answer

/-! ### Turns -/

/-- A command and the data of its answer. -/
structure Turn where
  command : Bytes
  data : Bytes

/-- How a host sends its commands: as they are, or in a session. -/
inductive Messaging where
  | plain
  | secured (s : Session) (verify : Bool)

namespace Messaging
variable {m : Messaging} {n : Nat} {turns turns' : List Turn} {conv conv' : List Entry}

/-- The `n`-th command as it is sent. -/
def frame : Messaging → Nat → Bytes → Bytes
  | .plain, _, command => command
  | .secured s _, n, command => (s.after n).protect command

/-- The host takes this data out of the answer to the `n`-th command. -/
def Opens (m : Messaging) (n : Nat) (answer data : Bytes) : Prop :=
  Answer.nak? answer = none ∧
    match m with
    | .plain => answer = data
    | .secured s verify => (s.after (n + 1)).openAnswer verify answer = .ok data

/-- The turns from the `n`-th on, as the log shows them. -/
inductive Talk (m : Messaging) : Nat → List Turn → List Entry → Prop where
  | nil (n : Nat) : Talk m n [] []
  | cons {n : Nat} {turn : Turn} {turns : List Turn} {answer : Bytes} {conv : List Entry}
    (hopens : m.Opens n answer turn.data) (h : Talk m (n + 1) turns conv) :
    Talk m n (turn :: turns) (.exchanged (m.frame n turn.command) (.ok answer) :: conv)

theorem Talk.one {turn : Turn} {answer : Bytes} (hopens : m.Opens n answer turn.data) :
    m.Talk n [turn] [.exchanged (m.frame n turn.command) (.ok answer)] := .cons hopens (.nil (n + 1))

theorem Talk.append (h : m.Talk n turns conv) (h' : m.Talk (n + turns.length) turns' conv') :
    m.Talk n (turns ++ turns') (conv ++ conv') := by
  induction h with
  | nil n => exact h'
  | cons hopens _ ih =>
    rw [List.length_cons, ← Nat.add_assoc, Nat.add_right_comm] at h'
    exact .cons hopens (ih h')

/-- If the first answer is another one, the rest is never said. -/
theorem Talk.tried {turn : Turn} (h : m.Talk n (turn :: turns) conv) (answer : Except LinkError Bytes) :
    Cut conv [.exchanged (m.frame n turn.command) answer] := by
  cases h with
  | cons hopens h => exact .tried _ _ answer _

/-- All data but a refusal can be in an answer. -/
theorem exists_opens (m : Messaging) (n : Nat) {data : Bytes} (h : Answer.nak? data = none) :
    ∃ answer, m.Opens n answer data := by
  cases m with
  | plain => exact ⟨data, h, rfl⟩
  | secured s verify =>
    have hlen : (data ++ (s.after (n + 1)).answerMac data).length ≠ 1 := by
      rw [List.length_append, Session.length_answerMac]
      simp only [Cmac.truncatedSize]
      omega
    refine ⟨data ++ (s.after (n + 1)).answerMac data, Tag.nak?_of_length hlen, ?_⟩
    show Session.openAnswer _ verify _ = _
    rw [Session.openAnswer_append _ _ _ (Session.length_answerMac _ data), if_neg (fun hne => hne.2 rfl)]

/-- No turn ends with a refusal. -/
def Answerable (turns : List Turn) : Prop := ∀ turn ∈ turns, Answer.nak? turn.data = none

theorem answerable_nil : Answerable [] := List.forall_mem_nil _

theorem Answerable.append (h : Answerable turns) (h' : Answerable turns') : Answerable (turns ++ turns') :=
  List.forall_mem_append.mpr ⟨h, h'⟩

theorem exists_talk (m : Messaging) (n : Nat) {turns : List Turn} (h : Answerable turns) :
    ∃ conv, m.Talk n turns conv := by
  induction turns generalizing n with
  | nil => exact ⟨[], .nil n⟩
  | cons turn turns ih =>
    obtain ⟨hturn, hturns⟩ := List.forall_mem_cons.mp h
    obtain ⟨answer, hopens⟩ := m.exists_opens n hturn
    obtain ⟨conv, hconv⟩ := ih (n + 1) hturns
    exact ⟨_, .cons hopens hconv⟩

/-! ### One command -/

section
variable {σ : Type} {c : Channel (Logged σ)} {uid : Bytes}

/-- The host is about to send its `n`-th command. -/
def At (m : Messaging) (n : Nat) (uid : Bytes) (c : Channel σ) : Prop :=
  c.uid = uid ∧
    match m with
    | .plain => c.session = none
    | .secured s verify => c.session = some (s.after n) ∧ c.verify = verify

theorem At.outgoing_eq {c : Channel σ} (h : m.At n uid c) (command : Bytes) :
    c.outgoing command = m.frame n command := by
  obtain ⟨-, hm⟩ := h
  cases m with
  | plain => exact Channel.outgoing_resting hm command
  | secured s verify => exact Channel.outgoing_inSession hm.1 command

variable [FrameLink σ]

open Channel

/-- **One command is one exchange**, in which the host accepts the answer or
fails. -/
theorem leaves_transceive (h : m.At n uid c) (hn : n < 65535) (command : Bytes) :
    Leaves (transceive command) c
      (fun data added c' => ∃ answer, m.Opens n answer data ∧
        added = [.exchanged (m.frame n command) (.ok answer)] ∧ m.At (n + 1) uid c')
      (fun added => ∃ answer, added = [.exchanged (m.frame n command) answer]) := by
  unfold transceive
  refine leaves_get_bind ?_
  rw [h.outgoing_eq]
  refine leaves_exchange_bind ?_ fun e => ⟨.error e, rfl⟩
  intro answer link
  obtain ⟨huid, hm⟩ := h
  cases hnak : Answer.nak? answer with
  | some code => exact leaves_setSession_bind (leaves_throw ⟨.ok answer, rfl⟩)
  | none =>
    dsimp only
    cases m with
    | plain =>
      have hsession : c.session = none := hm
      rw [hsession]
      exact leaves_pure ⟨answer, ⟨hnak, rfl⟩, rfl, huid, rfl⟩
    | secured s verify =>
      obtain ⟨hsession, hverify⟩ := hm
      rw [hsession]
      dsimp only
      unfold receive
      rw [Session.advance?_after s hn]
      refine leaves_setSession_bind (leaves_get_bind (leaves_lift ?_ fun e _ => ⟨.ok answer, rfl⟩))
      intro data hdata
      rw [hverify] at hdata
      exact ⟨answer, ⟨hnak, hdata⟩, rfl, huid, rfl, hverify⟩

/-- A command whose data are read in some way is one turn. -/
theorem leaves_command {α : Type} {parse : Bytes → Except TagError α} (h : m.At n uid c)
    (hn : n < 65535) (command : Bytes) :
    Leaves (do lift (parse (← transceive command))) c
      (fun a added c' => ∃ data, parse data = .ok a ∧ m.Talk n [⟨command, data⟩] added ∧
        m.At (n + 1) uid c')
      (fun added => ∃ answer, added = [.exchanged (m.frame n command) answer]) := by
  refine (leaves_transceive h hn command).bind (fun _ hadded => hadded) ?_
  intro data front c₁ hend
  obtain ⟨answer, hopens, rfl, hat⟩ := hend
  refine leaves_lift ?_ fun e _ => ⟨.ok answer, rfl⟩
  intro a ha
  exact ⟨data, ha, Talk.one hopens, hat⟩

/-! ### Reading -/

/-- A READ and the four pages of its answer. -/
def readTurn (page : UInt8) (b : Block) : Turn := ⟨Command.read page, b.toBytes⟩

/-- READs of four pages each, one group after the other. -/
def readTurns (page : UInt8) : List Block → List Turn
  | [] => []
  | b :: bs => readTurn page b :: readTurns (page + 4) bs

theorem length_readTurns (page : UInt8) (bs : List Block) : (readTurns page bs).length = bs.length := by
  induction bs generalizing page with
  | nil => rfl
  | cons b bs ih => rw [readTurns, List.length_cons, List.length_cons, ih]

theorem answerable_readTurns (page : UInt8) (bs : List Block) : Answerable (readTurns page bs) := by
  induction bs generalizing page with
  | nil => exact answerable_nil
  | cons b bs ih => exact List.forall_mem_cons.mpr ⟨rfl, ih (page + 4)⟩

theorem leaves_readPages (h : m.At n uid c) (hn : n < 65535) (page : UInt8) :
    Leaves (readPages page) c
      (fun b added c' => m.Talk n [readTurn page b] added ∧ m.At (n + 1) uid c')
      (fun added => ∃ answer, added = [.exchanged (m.frame n (Command.read page)) answer]) := by
  refine (leaves_command h hn (Command.read page)).mono ?_ fun _ hadded => hadded
  intro b added c' hend
  obtain ⟨data, hdata, htalk, hat⟩ := hend
  rw [Answer.pages_eq_ok hdata] at htalk
  exact ⟨htalk, hat⟩

/-- Group after group, each in its turn. -/
theorem leaves_readGroups : ∀ (k : Nat) {c : Channel (Logged σ)} {n : Nat} {page : UInt8},
    m.At n uid c → n + k ≤ 65535 → Leaves (readGroups page k) c
      (fun d added c' => ∃ bs : List Block, bs.length = k ∧ d = Block.join bs ∧
        m.Talk n (readTurns page bs) added ∧ m.At (n + k) uid c')
      (Stopped fun conv => ∃ bs : List Block, bs.length = k ∧ m.Talk n (readTurns page bs) conv)
  | 0, c, n, page, h, _ => leaves_pure ⟨[], rfl, rfl, .nil n, h⟩
  | k + 1, c, n, page, h, hn => by
    unfold readGroups
    refine (leaves_readPages h (by omega) page).bind ?_ ?_
    · intro added hadded
      obtain ⟨answer, rfl⟩ := hadded
      obtain ⟨conv, hconv⟩ := m.exists_talk n
        (answerable_readTurns page (List.replicate (k + 1) Block.zero))
      exact ⟨conv, ⟨_, List.length_replicate, hconv⟩, hconv.tried answer⟩
    intro b front c₁ hend
    obtain ⟨hfront, hat⟩ := hend
    have hcons : ∀ {bs : List Block} {conv : List Entry}, m.Talk (n + 1) (readTurns (page + 4) bs) conv →
        m.Talk n (readTurns page (b :: bs)) (front ++ conv) := fun hconv => hfront.append hconv
    refine (leaves_readGroups k hat (by omega)).bind ?_ ?_
    · intro added hstopped
      refine hstopped.prepend fun conv hconv => ?_
      obtain ⟨bs, hlen, hbs⟩ := hconv
      exact ⟨b :: bs, congrArg (· + 1) hlen, hcons hbs⟩
    · intro d added c₂ hend
      obtain ⟨bs, hlen, rfl, hbs, hat'⟩ := hend
      rw [Nat.add_assoc, Nat.add_comm 1 k] at hat'
      refine leaves_pure ⟨b :: bs, congrArg (· + 1) hlen, rfl, ?_, hat'⟩
      rw [List.append_nil]
      exact hcons hbs

/-- The payload area is read in eight turns. -/
theorem leaves_readArea (h : m.At n uid c) (hn : n + 8 ≤ 65535) :
    Leaves (readRange payloadStart payloadPages) c
      (fun d added c' => ∃ bs : List Block, bs.length = 8 ∧ d = Block.join bs ∧
        m.Talk n (readTurns payloadStart bs) added ∧ m.At (n + 8) uid c')
      (Stopped fun conv => ∃ bs : List Block, bs.length = 8 ∧
        m.Talk n (readTurns payloadStart bs) conv) := by
  unfold readRange
  rw [if_neg (by decide)]
  refine (leaves_readGroups 8 h hn).bind (fun _ hadded => hadded) ?_
  intro d front c₁ hend
  obtain ⟨bs, hlen, rfl, hbs, hat⟩ := hend
  have htake : (Block.join bs).take (payloadPages.toNat * Page.size) = Block.join bs := by
    apply List.take_of_length_le
    rw [Block.length_join, hlen]
    decide
  refine leaves_pure ⟨bs, hlen, htake, ?_, hat⟩
  rw [List.append_nil]
  exact hbs

/-! ### The identifier -/

/-- The identifier in the first pages. -/
def uidIn (b : Block) : Uid := ⟨b.w0.b0, b.w0.b1, b.w0.b2, b.w1.b0, b.w1.b1, b.w1.b2, b.w1.b3⟩

/-- Both check bytes fit the identifier. -/
def UidChecked (b : Block) : Prop := b.w0.b3 = (uidIn b).check0 ∧ b.w2.b0 = (uidIn b).check1

/-- An identifier with its check bytes can be answered. -/
theorem exists_readUid (m : Messaging) (n : Nat) : ∃ b conv, UidChecked b ∧ m.Talk n [readTurn 0 b] conv := by
  obtain ⟨conv, hconv⟩ := m.exists_talk n
    (answerable_readTurns 0 [⟨⟨0, 0, 0, Uid.cascadeTag⟩, Page.zero, Page.zero, Page.zero⟩])
  refine ⟨_, conv, ?_, hconv⟩
  unfold UidChecked
  decide

theorem leaves_readUid (h : m.At n uid c) (hn : n < 65535) :
    Leaves readUid c
      (fun u added c' => ∃ b, UidChecked b ∧ u = (uidIn b).toBytes ∧
        m.Talk n [readTurn 0 b] added ∧ m.At (n + 1) uid c')
      (Stopped fun conv => ∃ b, UidChecked b ∧ m.Talk n [readTurn 0 b] conv) := by
  -- whatever was answered to the one frame, something else might have been accepted
  have hstopped : ∀ answer, Stopped (fun conv => ∃ b, UidChecked b ∧ m.Talk n [readTurn 0 b] conv)
      [.exchanged (m.frame n (Command.read 0)) answer] := by
    intro answer
    obtain ⟨b, conv, hb, hconv⟩ := m.exists_readUid n
    exact ⟨conv, ⟨b, hb, hconv⟩, hconv.tried answer⟩
  unfold readUid
  refine (leaves_readPages h hn 0).bind ?_ ?_
  · intro added hadded
    obtain ⟨answer, rfl⟩ := hadded
    exact hstopped answer
  · intro b front c₁ hend
    obtain ⟨hfront, hat⟩ := hend
    dsimp only
    split
    · rename_i hcheck
      refine leaves_pure ⟨b, hcheck, rfl, ?_, hat⟩
      rw [List.append_nil]
      exact hfront
    · refine leaves_throw ?_
      cases hfront with
      | cons hopens hnil =>
        cases hnil
        exact hstopped _

/-! ### Writing -/

/-- A WRITE and the acknowledge that answers it. -/
def writeTurn (page : UInt8) (data : Page) : Turn := ⟨Command.write page data, [Code.ack]⟩

/-- WRITEs of consecutive pages. -/
def writeTurns (page : UInt8) : List Page → List Turn
  | [] => []
  | p :: ps => writeTurn page p :: writeTurns (page + 1) ps

theorem length_writeTurns (page : UInt8) (ps : List Page) : (writeTurns page ps).length = ps.length := by
  induction ps generalizing page with
  | nil => rfl
  | cons p ps ih => rw [writeTurns, List.length_cons, List.length_cons, ih]

theorem answerable_writeTurns (page : UInt8) (ps : List Page) : Answerable (writeTurns page ps) := by
  induction ps generalizing page with
  | nil => exact answerable_nil
  | cons p ps ih => exact List.forall_mem_cons.mpr ⟨rfl, ih (page + 1)⟩

theorem leaves_writePage (h : m.At n uid c) (hn : n < 65535) (page : UInt8) (data : Page) :
    Leaves (writePage page data) c
      (fun _ added c' => m.Talk n [writeTurn page data] added ∧ m.At (n + 1) uid c')
      (Stopped (m.Talk n [writeTurn page data])) := by
  refine (leaves_command h hn (Command.write page data)).mono ?_ ?_
  · intro _ added c' hend
    obtain ⟨answer, hack, htalk, hat⟩ := hend
    rw [Answer.acknowledge_eq_ok hack] at htalk
    exact ⟨htalk, hat⟩
  · intro added hadded
    obtain ⟨answer, rfl⟩ := hadded
    obtain ⟨conv, hconv⟩ := m.exists_talk n (answerable_writeTurns page [data])
    exact ⟨conv, hconv, hconv.tried answer⟩

theorem Talk.stopped_extend {log : List Entry} (h : Stopped (m.Talk n turns) log) (hrest : Answerable turns') :
    Stopped (m.Talk n (turns ++ turns')) log := by
  refine h.extend fun conv hconv => ?_
  obtain ⟨rest, hrest⟩ := m.exists_talk (n + turns.length) hrest
  exact ⟨rest, hconv.append hrest⟩

/-- Page after page, each in its turn. -/
theorem leaves_writePages : ∀ (ps : List Page) {c : Channel (Logged σ)} {n : Nat} {page : UInt8},
    m.At n uid c → n + ps.length ≤ 65535 → Leaves (writePages page ps) c
      (fun _ added c' => m.Talk n (writeTurns page ps) added ∧ m.At (n + ps.length) uid c')
      (Stopped (m.Talk n (writeTurns page ps)))
  | [], c, n, page, h, _ => leaves_pure ⟨.nil n, h⟩
  | p :: ps, c, n, page, h, hn => by
    rw [List.length_cons] at hn
    unfold writePages
    refine (leaves_writePage h (by omega) page p).bind ?_ ?_
    · intro added hstopped
      exact Talk.stopped_extend hstopped (answerable_writeTurns (page + 1) ps)
    · intro _ front c₁ hend
      obtain ⟨hfront, hat⟩ := hend
      refine (leaves_writePages ps hat (by omega)).mono ?_ ?_
      · intro _ added c₂ hend
        obtain ⟨hadded, hat'⟩ := hend
        rw [Nat.add_assoc, Nat.add_comm 1] at hat'
        exact ⟨hfront.append hadded, hat'⟩
      · intro added hstopped
        exact hstopped.prepend fun conv hconv => hfront.append hconv

theorem leaves_writeRange {start : UInt8} {data : Bytes} (h : m.At n uid c)
    (hn : n + (splitPages data).length ≤ 65535) (hend : start.toNat + (splitPages data).length ≤ 256) :
    Leaves (writeRange start data) c
      (fun _ added c' => m.Talk n (writeTurns start (splitPages data)) added ∧
        m.At (n + (splitPages data).length) uid c')
      (Stopped (m.Talk n (writeTurns start (splitPages data)))) := by
  unfold writeRange
  rw [pagesFrom_eq rfl hend]
  exact leaves_writePages (splitPages data) h hn

/-- The turns of a range with a commit mark. -/
def commitTurns (start : UInt8) (invalid first : Page) (rest : List Page) : List Turn :=
  writeTurn start invalid :: writeTurns (start + 1) rest ++ [writeTurn start first]

theorem answerable_commitTurns (start : UInt8) (invalid first : Page) (rest : List Page) :
    Answerable (commitTurns start invalid first rest) :=
  ((answerable_writeTurns start [invalid]).append (answerable_writeTurns (start + 1) rest)).append
    (answerable_writeTurns start [first])

theorem leaves_writeRangeCommitted {start : UInt8} {data : Bytes} {invalid first : Page}
    {rest : List Page} (hsplit : splitPages data = first :: rest) (h : m.At n uid c)
    (hn : n + rest.length + 2 ≤ 65535) (hend : start.toNat + (first :: rest).length ≤ 256) :
    Leaves (writeRangeCommitted start data invalid) c
      (fun _ added _ => m.Talk n (commitTurns start invalid first rest) added)
      (Stopped (m.Talk n (commitTurns start invalid first rest))) := by
  unfold writeRangeCommitted
  rw [pagesFrom_eq hsplit hend]
  refine (leaves_writePage h (by omega) start invalid).bind ?_ ?_
  · intro added hstopped
    have hall := Talk.stopped_extend hstopped
      ((answerable_writeTurns (start + 1) rest).append (answerable_writeTurns start [first]))
    exact hall
  intro _ front c₁ hend
  obtain ⟨hfront, hat₁⟩ := hend
  refine (leaves_writePages rest hat₁ (by omega)).bind ?_ ?_
  · intro added hstopped
    refine (Talk.stopped_extend hstopped (answerable_writeTurns start [first])).prepend fun conv hconv => ?_
    exact hfront.append hconv
  intro _ middle c₂ hend
  obtain ⟨hmiddle, hat₂⟩ := hend
  have hbody : ∀ {conv : List Entry}, m.Talk (n + 1 + rest.length) [writeTurn start first] conv →
      m.Talk n (commitTurns start invalid first rest) (front ++ (middle ++ conv)) := by
    intro conv hconv
    refine hfront.append (hmiddle.append ?_)
    rw [length_writeTurns]
    exact hconv
  refine (leaves_writePage hat₂ (by omega) start first).mono ?_ ?_
  · intro _ added c₃ hend
    exact hbody hend.1
  · intro added hstopped
    rw [← List.append_assoc]
    refine hstopped.prepend fun conv hconv => ?_
    rw [List.append_assoc]
    exact hbody hconv

end
end Messaging

/-! ### The product -/

/-- The first exchange of a transaction. -/
def versionExchange (v : Version) : Entry := .exchanged Command.getVersion (.ok v.toBytes)

namespace Channel
variable {σ : Type} [FrameLink σ] {c : Channel (Logged σ)} {uid : Bytes}

theorem leaves_getVersion (h : Messaging.plain.At 0 uid c) :
    Leaves getVersion c
      (fun v added c' => added = [versionExchange v] ∧ Messaging.plain.At 0 uid c')
      (fun added => ∃ answer, added = [.exchanged Command.getVersion answer]) := by
  refine (Messaging.leaves_command h (by decide) Command.getVersion).mono ?_ fun _ hadded => hadded
  intro v added c' hend
  obtain ⟨data, hdata, htalk, hat⟩ := hend
  cases htalk with
  | cons hopens hnil =>
    cases hnil
    obtain ⟨-, rfl⟩ := hopens
    rw [Answer.version_eq_ok hdata]
    exact ⟨rfl, hat⟩

/-! ### The handshake -/

/-- A whole handshake: the tag's challenge, the host's random bytes, and the
proofs of both sides. -/
def handshake (slot : UInt8) (key : Key) (rndA rndB : Block) : List Entry :=
  .exchanged (Command.authenticate slot) (.ok (Code.authenticateMore :: (Aes.encrypt key rndB).toBytes)) ::
    (rndA.toBytes.map .drew ++ [.exchanged (Tag.proofFrame key rndA rndB)
      (.ok (Code.authenticateDone :: (Aes.encrypt key rndA.rotateLeft).toBytes))])

/-- **A handshake that returns was a whole one**, and the tag has proved that it
holds the key. -/
theorem leaves_authenticate (slot : UInt8) (key : Key) (verify : Bool) :
    Leaves (authenticate slot key verify) c
      (fun _ added c' => ∃ rndA rndB, added = handshake slot key rndA rndB ∧
        (Messaging.secured (Session.establish key slot rndA rndB) verify).At 0 c.uid c')
      (Stopped fun conv => ∃ rndA rndB, conv = handshake slot key rndA rndB) := by
  -- a conversation that stops at the first or the second frame
  have hchallenge : ∀ answer, Stopped (fun conv => ∃ rndA rndB, conv = handshake slot key rndA rndB)
      [.exchanged (Command.authenticate slot) answer] := fun answer =>
    .tried ⟨Block.zero, Block.zero, rfl⟩ answer
  have hproof : ∀ rndA rndB answer, Stopped (fun conv => ∃ rndA rndB, conv = handshake slot key rndA rndB)
      (.exchanged (Command.authenticate slot)
          (.ok (Code.authenticateMore :: (Aes.encrypt key rndB).toBytes)) ::
        (rndA.toBytes.map .drew ++ [.exchanged (Tag.proofFrame key rndA rndB) answer])) :=
    fun rndA rndB answer =>
      ⟨_, ⟨rndA, rndB, rfl⟩, .next _ ((Cut.tried _ _ answer []).prepend (rndA.toBytes.map .drew))⟩
  unfold authenticate
  refine leaves_setSession_bind (leaves_exchange_bind ?_ fun e => hchallenge (.error e))
  intro answer link
  refine leaves_lift_bind ?_ fun e _ => hchallenge (.ok answer)
  intro b hb
  obtain ⟨rndB, rfl⟩ : ∃ rndB, Aes.encrypt key rndB = b := ⟨Aes.decrypt key b, Aes.encrypt_decrypt key b⟩
  rw [Answer.handshakeBlock_eq_ok hb]
  dsimp only
  rw [Aes.decrypt_encrypt]
  refine leaves_draw_bind (Logged.log_drawBlock link) ?_
  set rndA := (drawBlock link).1
  refine leaves_exchange_bind ?_ fun e => hproof rndA rndB (.error e)
  intro answer link
  refine leaves_lift_bind ?_ fun e _ => hproof rndA rndB (.ok answer)
  intro final hfinal
  split
  · rename_i htrue
    have hanswer : answer = Code.authenticateDone :: (Aes.encrypt key rndA.rotateLeft).toBytes := by
      rw [Answer.handshakeBlock_eq_ok hfinal, ← htrue, Aes.encrypt_decrypt]
    refine ⟨[], (List.append_nil _).symm, rndA, rndB, ?_, rfl, rfl, rfl⟩
    rw [hanswer]
    rfl
  · exact leaves_throw (hproof rndA rndB (.ok answer))

end Channel
end Nearfield
