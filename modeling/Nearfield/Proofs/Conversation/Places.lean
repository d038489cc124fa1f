/-
# Every frame in its place

In a course every frame has its place after those before it (`Placed`), and the
host goes on only after an answer that it accepts there: the product it needs,
the two answers of a handshake, four pages, an acknowledge. A command of a session
is sent under the number of commands since the handshake; pages are read without
a session only if the request says so.

Key definitions: `Transaction.Expects`, `Transaction.Numbered`,
`Transaction.InSession`, `Transaction.Placed`, `Transaction.Orderly`.
Key theorem: `Transaction.orderly_course`.
-/
import Nearfield.Proofs.Conversation.Transactions

namespace Nearfield
namespace Transaction

open Channel Messaging

/-! ### Places -/

/-- The data that answer a command of a transaction: four pages, with the right
check bytes if they hold the identifier, or an acknowledge. -/
inductive Expects : Bytes → Bytes → Prop where
  | read (page : UInt8) (b : Block) (hb : page = 0 → UidChecked b) : Expects (Command.read page) b.toBytes
  | write (page : UInt8) (data : Page) : Expects (Command.write page data) [Code.ack]

/-- Every turn has data that its command expects. -/
def Expected (turns : List Turn) : Prop := ∀ turn ∈ turns, Expects turn.command turn.data

theorem expected_nil : Expected [] := List.forall_mem_nil _

theorem Expected.append {turns turns' : List Turn} (h : Expected turns) (h' : Expected turns') :
    Expected (turns ++ turns') := List.forall_mem_append.mpr ⟨h, h'⟩

theorem expected_readTurns (page : UInt8) (bs : List Block) (hpage : 0 < page.toNat)
    (hend : page.toNat + 4 * bs.length < 256) : Expected (readTurns page bs) := by
  induction bs generalizing page with
  | nil => exact expected_nil
  | cons b bs ih =>
    rw [List.length_cons] at hend
    have hnext : (page + 4).toNat = page.toNat + 4 := by
      rw [UInt8.toNat_add]
      exact Nat.mod_eq_of_lt (by show page.toNat + 4 < 256; omega)
    refine List.forall_mem_cons.mpr ⟨.read page b fun hzero => ?_, ih (page + 4) (by omega) (by omega)⟩
    rw [hzero] at hpage
    exact absurd hpage (by decide)

theorem expected_writeTurns (page : UInt8) (ps : List Page) : Expected (writeTurns page ps) := by
  induction ps generalizing page with
  | nil => exact expected_nil
  | cons p ps ih => exact List.forall_mem_cons.mpr ⟨.write page p, ih (page + 1)⟩

theorem expected_commitTurns (start : UInt8) (invalid first : Page) (rest : List Page) :
    Expected (commitTurns start invalid first rest) :=
  ((expected_writeTurns start [invalid]).append (expected_writeTurns (start + 1) rest)).append
    (expected_writeTurns start [first])

theorem expected_testTurns (record : Bytes) (readBack : Block) : Expected (testTurns record readBack) := by
  have hend : scratchStart.toNat + 4 * 1 < 256 := by decide
  exact (expected_writeTurns scratchStart (splitPages record)).append
    (expected_readTurns scratchStart [readBack] (by decide) hend)

/-- The frames of these exchanges are commands of the session, numbered from 0 on. -/
def Numbered (s : Session) (turns : List Exchanged) : Prop :=
  ∃ commands : List Bytes, turns.map Prod.fst = commands.mapIdx fun i command => (s.after i).protect command

/-- The session that is opened for the identifier. -/
def session (request : Request) (rndA rndB : Block) : Session :=
  Session.establish request.uidKey uidSlot rndA rndB

/-- These exchanges end with the handshake for the identifier and the first `n`
commands of its session. -/
def InSession (request : Request) (rndA rndB : Block) (n : Nat) (earlier : List Exchanged) : Prop :=
  ∃ before turns, earlier = before ++ exchanges (handshake uidSlot request.uidKey rndA rndB) ++ turns ∧
    turns.length = n ∧ Numbered (session request rndA rndB) turns

/-- What may be sent after these exchanges, and after which answers the host
goes on. -/
inductive Placed (request : Request) : List Exchanged → Bytes → (Bytes → Prop) → Prop where
  | version : Placed request [] Command.getVersion fun a => ∃ v : Version, v.isSupported = true ∧ a = v.toBytes
  | challenge (earlier : List Exchanged) (slot : UInt8) :
    Placed request earlier (Command.authenticate slot) fun a => ∃ b : Block, a = Code.authenticateMore :: b.toBytes
  /-- The host answers the challenge that it has just got. -/
  | proof (earlier : List Exchanged) (slot : UInt8) (key rndA rndB : Block) :
    Placed request (earlier ++ [(Command.authenticate slot,
        .ok (Code.authenticateMore :: (Aes.encrypt key rndB).toBytes))])
      (Tag.proofFrame key rndA rndB)
      fun a => a = Code.authenticateDone :: (Aes.encrypt key rndA.rotateLeft).toBytes
  /-- A read without a session. -/
  | clear (earlier : List Exchanged) (page : UInt8)
    (hclear : ∃ uidKey dataKey, request = .read (.full false false) uidKey dataKey) :
    Placed request earlier (Command.read page) fun a => ∃ b : Block, a = b.toBytes
  /-- The next command of a session, with its MAC. -/
  | secured (earlier : List Exchanged) (rndA rndB : Block) (n : Nat) (command : Bytes)
    (hsession : InSession request rndA rndB n earlier) (hn : n < 65535)
    (hcommand : ∃ data, Expects command data) :
    Placed request earlier (((session request rndA rndB).after n).protect command)
      fun a => ∃ data, (opened request.uidKey rndA rndB request.verifies).Opens n a data ∧ Expects command data

/-- Every exchange of the list has its place after the earlier ones, and its
answer was accepted. -/
def Orderly (request : Request) : List Exchanged → List Exchanged → Prop
  | _, [] => True
  | earlier, (frame, answer) :: rest =>
    (∃ accepts a, Placed request earlier frame accepts ∧ answer = .ok a ∧ accepts a) ∧
      Orderly request (earlier ++ [(frame, answer)]) rest

section
variable {request : Request} {earlier xs ys : List Exchanged}

theorem Orderly.append (h : Orderly request earlier xs) (h' : Orderly request (earlier ++ xs) ys) :
    Orderly request earlier (xs ++ ys) := by
  induction xs generalizing earlier with
  | nil =>
    rw [List.append_nil] at h'
    exact h'
  | cons x xs ih =>
    refine ⟨h.1, ih h.2 ?_⟩
    rw [List.append_assoc]
    exact h'

theorem Orderly.at {frame : Bytes} {answer : Except LinkError Bytes}
    (h : Orderly request earlier (xs ++ (frame, answer) :: ys)) :
    ∃ accepts a, Placed request (earlier ++ xs) frame accepts ∧ answer = .ok a ∧ accepts a := by
  induction xs generalizing earlier with
  | nil =>
    rw [List.append_nil]
    exact h.1
  | cons x xs ih =>
    have hrest := ih h.2
    rw [List.append_assoc] at hrest
    exact hrest

theorem exchanges_handshake (slot : UInt8) (key rndA rndB : Block) :
    exchanges (handshake slot key rndA rndB) =
      [(Command.authenticate slot, .ok (Code.authenticateMore :: (Aes.encrypt key rndB).toBytes)),
        (Tag.proofFrame key rndA rndB,
          .ok (Code.authenticateDone :: (Aes.encrypt key rndA.rotateLeft).toBytes))] := by
  unfold handshake
  rw [exchanges_exchanged, exchanges_append, exchanges_drew]
  rfl

theorem orderly_handshake (request : Request) (earlier : List Exchanged) (slot : UInt8)
    (key rndA rndB : Block) : Orderly request earlier (exchanges (handshake slot key rndA rndB)) := by
  rw [exchanges_handshake]
  exact ⟨⟨_, _, .challenge earlier slot, rfl, _, rfl⟩, ⟨_, _, .proof earlier slot key rndA rndB, rfl, rfl⟩,
    trivial⟩

theorem Numbered.snoc {s : Session} {turns : List Exchanged} (h : Numbered s turns) (command : Bytes)
    (answer : Except LinkError Bytes) :
    Numbered s (turns ++ [((s.after turns.length).protect command, answer)]) := by
  obtain ⟨commands, hcommands⟩ := h
  have hlen : turns.length = commands.length := by
    have := congrArg List.length hcommands
    rwa [List.length_map, List.length_mapIdx] at this
  refine ⟨commands ++ [command], ?_⟩
  rw [List.map_append, hcommands, List.mapIdx_concat, hlen]
  rfl

theorem InSession.snoc {rndA rndB : Block} {n : Nat} (h : InSession request rndA rndB n earlier)
    (command : Bytes) (answer : Except LinkError Bytes) : InSession request rndA rndB (n + 1)
      (earlier ++ [(((session request rndA rndB).after n).protect command, answer)]) := by
  obtain ⟨before, turns, rfl, rfl, hturns⟩ := h
  exact ⟨before, turns ++ [_], List.append_assoc _ _ _, List.length_append, hturns.snoc command answer⟩

/-- The turns of a session follow each other. -/
theorem orderly_secured {rndA rndB : Block} {turns : List Turn} {conv : List Entry} {n : Nat}
    (h : (opened request.uidKey rndA rndB request.verifies).Talk n turns conv)
    (hexpects : Expected turns) (hfew : n + turns.length ≤ 65535)
    (hsession : InSession request rndA rndB n earlier) : Orderly request earlier (exchanges conv) := by
  generalize hm : opened request.uidKey rndA rndB request.verifies = m at h
  induction h generalizing earlier with
  | nil n => exact trivial
  | @cons n turn turns answer conv hopens _ ih =>
    subst hm
    rw [List.length_cons] at hfew
    obtain ⟨hexpect, hrest⟩ := List.forall_mem_cons.mp hexpects
    refine ⟨⟨_, answer, .secured earlier rndA rndB n turn.command hsession (by omega) ⟨_, hexpect⟩, rfl,
      turn.data, hopens, hexpect⟩, ?_⟩
    exact ih hrest (by omega) (hsession.snoc turn.command (.ok answer))

/-- The turns of a read without a session. -/
theorem orderly_clear {uidKey : Key} {dataKey : Option Key} {page : UInt8} {bs : List Block}
    {conv : List Entry} {n : Nat} (h : Messaging.plain.Talk n (readTurns page bs) conv) :
    Orderly (.read (.full false false) uidKey dataKey) earlier (exchanges conv) := by
  induction bs generalizing page n conv earlier with
  | nil =>
    cases h
    exact trivial
  | cons b bs ih =>
    cases h with
    | cons hopens h =>
      obtain ⟨-, rfl⟩ := hopens
      exact ⟨⟨_, _, .clear earlier page ⟨uidKey, dataKey, rfl⟩, rfl, b, rfl⟩, ih h⟩

end

theorem length_commitTurns (start : UInt8) (invalid first : Page) (rest : List Page) :
    (commitTurns start invalid first rest).length = rest.length + 2 := by
  unfold commitTurns
  rw [List.length_append, List.length_cons, length_writeTurns]
  rfl

/-! ### The order of a course -/

theorem Inside.expects {m : Messaging} {b : Block} {drawn : Bytes} {turns : List Turn} {conv : List Entry}
    (h : Inside m b drawn turns conv) (hexpects : Expected turns) :
    Expected (readTurn 0 b :: turns) := List.forall_mem_cons.mpr ⟨.read 0 b fun _ => h.1, hexpects⟩

theorem orderly_inside (request : Request) {rndA rndB b : Block} {drawn : Bytes} {turns : List Turn}
    {conv : List Entry} (h : Inside (opened request.uidKey rndA rndB request.verifies) b drawn turns conv)
    (hexpects : Expected turns) (hfew : turns.length < 65535) (earlier : List Exchanged) :
    Orderly request earlier (exchanges (handshake uidSlot request.uidKey rndA rndB ++ conv)) := by
  obtain ⟨conv', hconv, htalk⟩ := h.talk
  rw [exchanges_append, hconv]
  refine (orderly_handshake request earlier uidSlot request.uidKey rndA rndB).append ?_
  exact orderly_secured htalk (h.expects hexpects) (by rw [List.length_cons]; omega)
    ⟨earlier, [], (List.append_nil _).symm, rfl, [], rfl⟩

/-- **In a course every frame has its place**, and every answer is accepted there. -/
theorem orderly_course {uid : Bytes} {request : Request} {conv : List Entry}
    {result : Except TagError Finding} (h : Course uid request conv result) (earlier : List Exchanged) :
    Orderly request earlier (exchanges conv) := by
  cases h with
  | fast => exact trivial
  | clear hlen htalk => exact orderly_clear htalk
  | @secured mode uidKey _ _ dataKey _ _ _ hneeds hlen hinside =>
    refine orderly_inside (.read mode uidKey dataKey) hinside
      (expected_readTurns payloadStart _ (by decide) ?_) ?_ earlier
    · rw [hlen]
      decide
    · rw [length_readTurns, hlen]
      decide
  | @write payload _ _ uidKey _ _ dataKey _ _ _ _ hencodes hsplit hinside =>
    obtain ⟨header, body, hsplit', hlen⟩ := splitPages_encoded hencodes
    cases hsplit.symm.trans hsplit'
    refine orderly_inside (.write payload uidKey dataKey) hinside (expected_commitTurns _ _ _ _) ?_ earlier
    rw [length_commitTurns]
    omega
  | @oversized payload uidKey _ _ dataKey _ _ hlen hinside =>
    exact orderly_inside (.write payload uidKey dataKey) hinside expected_nil (Nat.zero_lt_succ _) earlier
  | @test uidKey _ _ dataKey _ _ _ _ _ _ hlen hinside =>
    rw [exchanges_append]
    refine (orderly_handshake _ earlier dataSlot _ _ _).append ?_
    refine orderly_inside (.test uidKey dataKey) hinside (expected_testTurns _ _) ?_ _
    unfold testTurns
    rw [List.length_append, length_writeTurns, length_splitPages_probeRecord _ _ hlen]
    have hfew : scratchPages + 1 < 65535 := by decide
    exact hfew

end Transaction
end Nearfield
