/-
# The course of a transaction

Whatever the link does, a transaction takes one of six courses (`Course`): a read
of the identifier only, a read in the clear or in a session, a write, a write of
a payload that does not fit, or a test. A course says what the host draws, what it
sends and which answers it accepts, all of it in order, and what it finds in the
end. A transaction that succeeds has gone through the whole of a course
(`course_of_ok`), and one that fails was stopped on its way through one
(`begun_record`).

Key definitions: `Request.verifies`, `Transaction.Inside`, `Transaction.Course`, `Transaction.record`.
Key theorems: `Transaction.leaves_execute`, `Transaction.run_map`, `Transaction.course_of_ok`,
`Transaction.begun_record`.
-/
import Nearfield.Proofs.Conversation.Commands
import Nearfield.Proofs.Transactions

namespace Nearfield

theorem PayloadArea.exists_encodes {dataKey : Option Key} {data : Bytes} (uid : Bytes)
    (h : data.length ≤ capacity dataKey) : ∃ area, Encodes dataKey uid data area := by
  cases dataKey with
  | none => exact ⟨_, h, rfl⟩
  | some key => exact ⟨_, h, Block.zero, rfl⟩

theorem LinkMap.encodeSealed_map {σ τ : Type} [FrameLink σ] [FrameLink τ] (f : LinkMap σ τ) (key : Key)
    (uid data : Bytes) (link : σ) : PayloadArea.encodeSealed key uid data (f.map link)
      = ((PayloadArea.encodeSealed key uid data link).1,
        f.map (PayloadArea.encodeSealed key uid data link).2) := by
  unfold PayloadArea.encodeSealed
  split
  · rfl
  · rw [f.drawBlock_map]

/-- Whether every answer in a session must carry a valid MAC. -/
def Request.verifies : Request → Bool
  | .read mode _ _ => mode.verifiesCmac
  | .write .. => true
  | .test .. => true

namespace Transaction

open Channel Messaging

/-! ### Courses -/

/-- How a host talks to a tag that has proved the key of the identifier. -/
def opened (uidKey rndA rndB : Block) (verify : Bool) : Messaging :=
  .secured (Session.establish uidKey uidSlot rndA rndB) verify

/-- All that is said in a session: the identifier is read from `b`, then bytes
are drawn, and then the other turns are taken. -/
def Inside (m : Messaging) (b : Block) (drawn : Bytes) (turns : List Turn) (conv : List Entry) : Prop :=
  UidChecked b ∧ ∃ asked told, conv = asked ++ (drawn.map .drew ++ told) ∧
    m.Talk 0 [readTurn 0 b] asked ∧ m.Talk 1 turns told

/-- What is drawn between the turns is not seen on the link. -/
theorem Inside.talk {m : Messaging} {b : Block} {drawn : Bytes} {turns : List Turn} {conv : List Entry}
    (h : Inside m b drawn turns conv) : ∃ conv', exchanges conv = exchanges conv' ∧
      m.Talk 0 (readTurn 0 b :: turns) conv' := by
  obtain ⟨-, asked, told, rfl, hasked, htold⟩ := h
  refine ⟨asked ++ told, ?_, hasked.append htold⟩
  simp only [exchanges_append, exchanges_drew, List.nil_append]

/-- What a test makes of the record that it reads back. -/
def testFinding (uid record readBack : Bytes) : Except TagError Finding :=
  if readBack = record then .ok ⟨uid, none⟩ else .error .wrongReadBack

theorem testFinding_eq_ok {u record readBack : Bytes} {found : Finding}
    (h : testFinding u record readBack = .ok found) : readBack = record ∧ found = ⟨u, none⟩ := by
  unfold testFinding at h
  split at h
  · rename_i hsame
    cases h
    exact ⟨hsame, rfl⟩
  · cases h

/-- The turns of a test: a record is written, and read back. -/
def testTurns (record : Bytes) (readBack : Block) : List Turn :=
  writeTurns scratchStart (splitPages record) ++ [readTurn scratchStart readBack]

theorem answerable_testTurns (record : Bytes) (readBack : Block) : Answerable (testTurns record readBack) :=
  (answerable_writeTurns scratchStart (splitPages record)).append (answerable_readTurns scratchStart [readBack])

/-- What is done and said after the version is known, and what it leads to. -/
inductive Course (uid : Bytes) : Request → List Entry → Except TagError Finding → Prop where
  | fast {uidKey : Key} {dataKey : Option Key} :
    Course uid (.read .fast uidKey dataKey) [] (.ok ⟨uid, none⟩)
  /-- The payload is read without a session. -/
  | clear {uidKey : Key} {dataKey : Option Key} {bs : List Block} {conv : List Entry} (hlen : bs.length = 8)
    (htalk : Messaging.plain.Talk 0 (readTurns payloadStart bs) conv) :
    Course uid (.read (.full false false) uidKey dataKey) conv (readFinding dataKey uid (Block.join bs))
  | secured {mode : ReadMode} {uidKey rndA rndB : Block} {dataKey : Option Key} {b : Block}
    {bs : List Block} {conv : List Entry} (hneeds : mode.needsSession = true) (hlen : bs.length = 8)
    (hinside : Inside (opened uidKey rndA rndB mode.verifiesCmac) b [] (readTurns payloadStart bs) conv) :
    Course uid (.read mode uidKey dataKey) (handshake uidSlot uidKey rndA rndB ++ conv)
      (readFinding dataKey (uidIn b).toBytes (Block.join bs))
  | write {payload area drawn : Bytes} {uidKey rndA rndB : Block} {dataKey : Option Key} {b : Block}
    {header : Page} {body : List Page} {conv : List Entry}
    (hencodes : PayloadArea.Encodes dataKey (uidIn b).toBytes payload area)
    (hsplit : splitPages area = header :: body)
    (hinside : Inside (opened uidKey rndA rndB true) b drawn
      (commitTurns payloadStart PayloadArea.emptyHeader header body) conv) :
    Course uid (.write payload uidKey dataKey) (handshake uidSlot uidKey rndA rndB ++ conv)
      (.ok ⟨(uidIn b).toBytes, none⟩)
  /-- The payload does not fit, which is known once the identifier is. -/
  | oversized {payload : Bytes} {uidKey rndA rndB : Block} {dataKey : Option Key} {b : Block}
    {conv : List Entry} (hlen : PayloadArea.capacity dataKey < payload.length)
    (hinside : Inside (opened uidKey rndA rndB true) b [] [] conv) :
    Course uid (.write payload uidKey dataKey) (handshake uidSlot uidKey rndA rndB ++ conv)
      (.error (.payloadTooLarge payload.length (PayloadArea.capacity dataKey)))
  | test {uidKey rndA rndB dataKey rndA₀ rndB₀ : Block} {b readBack : Block} {probe : Bytes}
    {conv : List Entry} (hlen : probe.length = probeSize)
    (hinside : Inside (opened uidKey rndA rndB true) b probe
      (testTurns (probeRecord dataKey (uidIn b).toBytes probe) readBack) conv) :
    Course uid (.test uidKey dataKey)
      (handshake dataSlot dataKey rndA₀ rndB₀ ++ (handshake uidSlot uidKey rndA rndB ++ conv))
      (testFinding (uidIn b).toBytes (probeRecord dataKey (uidIn b).toBytes probe) readBack.toBytes)

/-- The pages of a record: they fill the scratch area. -/
theorem length_splitPages_probeRecord (dataKey : Key) (uid : Bytes) {probe : Bytes}
    (h : probe.length = probeSize) : (splitPages (probeRecord dataKey uid probe)).length = scratchPages := by
  rw [length_splitPages, length_probeRecord, h]
  rfl

/-! ### Into a session -/

variable {σ : Type} [FrameLink σ] {c : Channel (Logged σ)} {uid : Bytes}

/-- Any turns may follow the identifier. -/
theorem Inside.exists_of_asked {m : Messaging} {b : Block} {asked : List Entry} (hb : UidChecked b)
    (hasked : m.Talk 0 [readTurn 0 b] asked) (drawn : Bytes) {turns : List Turn}
    (h : Answerable turns) : ∃ rest, Inside m b drawn turns (asked ++ rest) := by
  obtain ⟨told, htold⟩ := m.exists_talk 1 h
  exact ⟨drawn.map .drew ++ told, hb, asked, told, rfl, hasked, htold⟩

/-- The handshake for the identifier and the identifier itself, and then `next`. -/
theorem leaves_enter {α : Type} {uidKey : Key} {verify : Bool} {next : Bytes → ChannelM (Logged σ) α}
    {Q : α → List Entry → Channel (Logged σ) → Prop} {S : List Entry → Prop}
    (hcomplete : ∀ rndA rndB b asked, UidChecked b →
      (opened uidKey rndA rndB verify).Talk 0 [readTurn 0 b] asked →
      ∃ rest, S (handshake uidSlot uidKey rndA rndB ++ (asked ++ rest)))
    (hnext : ∀ rndA rndB b asked c', UidChecked b →
      (opened uidKey rndA rndB verify).Talk 0 [readTurn 0 b] asked →
      (opened uidKey rndA rndB verify).At 1 c.uid c' →
      Leaves (next (uidIn b).toBytes) c'
        (fun a added c'' => Q a (handshake uidSlot uidKey rndA rndB ++ (asked ++ added)) c'')
        (Stopped fun conv => S (handshake uidSlot uidKey rndA rndB ++ (asked ++ conv)))) :
    Leaves (do
      authenticate uidSlot uidKey verify
      next (← readUid)) c Q (Stopped S) := by
  refine (leaves_authenticate uidSlot uidKey verify).bind ?_ ?_
  · intro added hstopped
    refine hstopped.extend fun conv hconv => ?_
    obtain ⟨rndA, rndB, rfl⟩ := hconv
    obtain ⟨b, asked, hb, hasked⟩ := (opened uidKey rndA rndB verify).exists_readUid 0
    obtain ⟨rest, hrest⟩ := hcomplete rndA rndB b asked hb hasked
    exact ⟨asked ++ rest, hrest⟩
  intro _ front c₁ hend
  obtain ⟨rndA, rndB, rfl, hat⟩ := hend
  have hfront : ∀ {log : List Entry},
      Stopped (fun conv => S (handshake uidSlot uidKey rndA rndB ++ conv)) log →
      Stopped S (handshake uidSlot uidKey rndA rndB ++ log) := fun hstopped =>
    hstopped.prepend fun conv hconv => hconv
  refine (leaves_readUid hat (by decide)).bind ?_ ?_
  · intro added hstopped
    refine hfront (hstopped.extend fun conv hconv => ?_)
    obtain ⟨b, hb, hasked⟩ := hconv
    exact hcomplete rndA rndB b conv hb hasked
  · intro u asked c₂ hend
    obtain ⟨b, hb, rfl, hasked, hat'⟩ := hend
    refine (hnext rndA rndB b asked c₂ hb hasked hat').mono (fun _ _ _ hQ => hQ) ?_
    intro added hstopped
    exact hfront (hstopped.prepend fun conv hconv => hconv)

/-! ### The product -/

theorem leaves_checkProduct (h : Messaging.plain.At 0 uid c) :
    Leaves checkProduct c
      (fun _ added c' => ∃ v : Version, v.isSupported = true ∧ added = [versionExchange v] ∧
        Messaging.plain.At 0 uid c')
      (fun added => ∃ answer, added = [.exchanged Command.getVersion answer]) := by
  unfold checkProduct
  refine ((leaves_getVersion h).tryCatch _ ?_).bind (fun _ hadded => hadded) ?_
  · intro e
    cases e <;> exact ⟨_, rfl⟩
  intro v front c₁ hend
  obtain ⟨rfl, hat⟩ := hend
  by_cases hv : v.isSupported = true
  · have hok : v.ensureSupported = .ok () := if_pos hv
    rw [hok]
    exact leaves_pure ⟨v, hv, rfl, hat⟩
  · have herror : v.ensureSupported = .error (.incompatible v.describe) := if_neg hv
    rw [herror]
    exact leaves_throw ⟨.ok v.toBytes, rfl⟩

/-! ### The three transactions -/

/-- The conversations of a request. -/
def Possible (uid : Bytes) (request : Request) (conv : List Entry) : Prop :=
  ∃ result, Course uid request conv result

omit [FrameLink σ] in
theorem leaves_finding {dataKey : Option Key} {u area : Bytes}
    {Q : Finding → List Entry → Channel (Logged σ) → Prop} {E : List Entry → Prop}
    (hok : ∀ found, readFinding dataKey u area = .ok found → Q found [] c) (herror : E []) :
    Leaves (do
      let stored ← lift (PayloadArea.decode area)
      let payload ← lift (payloadOf dataKey u stored)
      return (⟨u, payload⟩ : Finding)) c Q E := by
  refine ends_finding ?_ fun e _ => ⟨[], (List.append_nil _).symm, herror⟩
  intro found hfound
  exact ⟨[], (List.append_nil _).symm, hok found hfound⟩

/-- The area is read, and what it holds is found for an identifier that is known. -/
theorem leaves_readPayload {m : Messaging} {n : Nat} (dataKey : Option Key) (u : Bytes)
    (h : m.At n uid c) (hn : n + 8 ≤ 65535) :
    Leaves (do
      let area ← readRange payloadStart payloadPages
      let stored ← lift (PayloadArea.decode area)
      let payload ← lift (payloadOf dataKey u stored)
      return (⟨u, payload⟩ : Finding)) c
      (fun found added _ => ∃ bs : List Block, bs.length = 8 ∧
        readFinding dataKey u (Block.join bs) = .ok found ∧ m.Talk n (readTurns payloadStart bs) added)
      (Stopped fun conv => ∃ bs : List Block, bs.length = 8 ∧
        m.Talk n (readTurns payloadStart bs) conv) := by
  refine (leaves_readArea h hn).bind (fun _ hstopped => hstopped) ?_
  intro area told c₁ hend
  obtain ⟨bs, hlen, rfl, htold, -⟩ := hend
  refine leaves_finding ?_ ?_
  · intro found hfound
    rw [List.append_nil]
    exact ⟨bs, hlen, hfound, htold⟩
  · rw [List.append_nil]
    exact .of_mem ⟨bs, hlen, htold⟩

theorem leaves_read (mode : ReadMode) (uidKey : Key) (dataKey : Option Key)
    (h : Messaging.plain.At 0 uid c) :
    Leaves (read mode uidKey dataKey) c
      (fun found added _ => Course uid (.read mode uidKey dataKey) added (.ok found))
      (Stopped (Possible uid (.read mode uidKey dataKey))) := by
  have huid : c.uid = uid := h.1
  unfold read
  cases mode with
  | fast =>
    refine leaves_get_bind (leaves_pure ?_)
    rw [huid]
    exact .fast
  | full auth cmac =>
    dsimp only
    unfold identify
    by_cases hneeds : (ReadMode.full auth cmac).needsSession = true
    · rw [if_pos hneeds, bind_assoc]
      refine leaves_enter ?_ ?_
      · intro rndA rndB b asked hb hasked
        obtain ⟨rest, hrest⟩ := Inside.exists_of_asked hb hasked []
          (answerable_readTurns payloadStart (List.replicate 8 Block.zero))
        exact ⟨rest, _, .secured hneeds rfl hrest⟩
      intro rndA rndB b asked c₁ hb hasked hat
      refine (leaves_readPayload dataKey (uidIn b).toBytes hat (by decide)).mono ?_ ?_
      · intro found told c₂ hend
        obtain ⟨bs, hlen, hfound, htold⟩ := hend
        rw [← hfound]
        exact .secured hneeds hlen ⟨hb, asked, told, rfl, hasked, htold⟩
      · intro told hstopped
        refine hstopped.mono fun conv hconv => ?_
        obtain ⟨bs, hlen, htold⟩ := hconv
        exact ⟨_, .secured hneeds hlen ⟨hb, asked, conv, rfl, hasked, htold⟩⟩
    · obtain ⟨rfl, rfl⟩ : auth = false ∧ cmac = false := by simpa [ReadMode.needsSession] using hneeds
      rw [if_neg hneeds, bind_assoc]
      refine leaves_get_bind ?_
      rw [pure_bind, huid]
      refine (leaves_readPayload dataKey uid h (by decide)).mono ?_ ?_
      · intro found told c₁ hend
        obtain ⟨bs, hlen, hfound, htold⟩ := hend
        rw [← hfound]
        exact .clear hlen htold
      · intro told hstopped
        refine hstopped.mono fun conv hconv => ?_
        obtain ⟨bs, hlen, htold⟩ := hconv
        exact ⟨_, .clear hlen htold⟩

/-- Random bytes are drawn for a sealed payload, and nothing is sent. -/
theorem leaves_encodeArea {m : Messaging} {n : Nat} (dataKey : Option Key) (u payload : Bytes)
    (h : m.At n uid c) :
    Leaves (encodeArea dataKey u payload) c
      (fun area added c' => ∃ drawn : Bytes, added = drawn.map .drew ∧
        PayloadArea.Encodes dataKey u payload area ∧ m.At n uid c')
      (fun added => added = [] ∧ PayloadArea.capacity dataKey < payload.length) := by
  unfold encodeArea
  cases dataKey with
  | none =>
    rcases PayloadArea.encodePlain_cases u payload with ⟨hlen, e, he⟩ | ⟨area, hok, hencodes⟩
    · rw [he]
      exact leaves_throw ⟨rfl, hlen⟩
    · rw [hok]
      exact leaves_pure ⟨[], rfl, hencodes, h⟩
  | some key =>
    dsimp only
    rcases PayloadArea.encodeSealed_cases key u payload c.link with
      ⟨hlen, e, he⟩ | ⟨area, hok, hencodes⟩
    · have hlog : (PayloadArea.encodeSealed key u payload c.link).2.log = c.link.log ++ [] := by
        rw [he, List.append_nil]
      refine leaves_draw_bind hlog ?_
      rw [he]
      exact leaves_throw ⟨rfl, hlen⟩
    · have hlog : (PayloadArea.encodeSealed key u payload c.link).2.log
          = c.link.log ++ (drawBlock c.link).1.toBytes.map .drew := by
        rw [hok]
        exact Logged.log_drawBlock c.link
      refine leaves_draw_bind hlog ?_
      rw [hok]
      exact leaves_pure ⟨_, List.append_nil _, hencodes, h⟩

/-- A write can be completed, or its payload does not fit. -/
theorem exists_write {payload : Bytes} {uidKey rndA rndB b : Block} (dataKey : Option Key)
    {asked : List Entry} (hb : UidChecked b)
    (hasked : (opened uidKey rndA rndB true).Talk 0 [readTurn 0 b] asked) :
    ∃ rest, Possible uid (.write payload uidKey dataKey)
      (handshake uidSlot uidKey rndA rndB ++ (asked ++ rest)) := by
  by_cases hlen : payload.length ≤ PayloadArea.capacity dataKey
  · obtain ⟨area, hencodes⟩ := PayloadArea.exists_encodes (uidIn b).toBytes hlen
    obtain ⟨header, body, hsplit, -⟩ := splitPages_encoded hencodes
    obtain ⟨rest, hrest⟩ := Inside.exists_of_asked hb hasked []
      (answerable_commitTurns payloadStart PayloadArea.emptyHeader header body)
    exact ⟨rest, _, .write hencodes hsplit hrest⟩
  · obtain ⟨rest, hrest⟩ := Inside.exists_of_asked hb hasked [] answerable_nil
    exact ⟨rest, _, .oversized (Nat.not_le.mp hlen) hrest⟩

theorem leaves_write (payload : Bytes) (uidKey : Key) (dataKey : Option Key) :
    Leaves (write payload uidKey dataKey) c
      (fun found added _ => Course uid (.write payload uidKey dataKey) added (.ok found))
      (Stopped (Possible uid (.write payload uidKey dataKey))) := by
  unfold write
  refine leaves_enter (fun rndA rndB b asked hb hasked => exists_write dataKey hb hasked) ?_
  intro rndA rndB b asked c₁ hb hasked hat
  refine (leaves_encodeArea dataKey (uidIn b).toBytes payload hat).bind ?_ ?_
  · intro added hend
    obtain ⟨rfl, hlen⟩ := hend
    exact .of_mem ⟨_, .oversized hlen ⟨hb, asked, [], rfl, hasked, .nil 1⟩⟩
  intro area front c₂ hend
  obtain ⟨drawn, rfl, hencodes, hat'⟩ := hend
  obtain ⟨header, body, hsplit, hlen⟩ := splitPages_encoded hencodes
  have hcourse : ∀ {told : List Entry}, (opened uidKey rndA rndB true).Talk 1
        (commitTurns payloadStart PayloadArea.emptyHeader header body) told →
      Course uid (.write payload uidKey dataKey)
        (handshake uidSlot uidKey rndA rndB ++ (asked ++ (drawn.map .drew ++ told)))
        (.ok ⟨(uidIn b).toBytes, none⟩) := fun htold =>
    .write hencodes hsplit ⟨hb, asked, _, rfl, hasked, htold⟩
  have hstart : payloadStart.toNat = 4 := rfl
  refine (leaves_writeRangeCommitted hsplit hat' (by omega)
    (by rw [List.length_cons]; omega)).bind ?_ ?_
  · intro added hstopped
    exact hstopped.prepend fun conv htold => ⟨_, hcourse htold⟩
  · intro _ told c₃ htold
    refine leaves_pure ?_
    rw [List.append_nil]
    exact hcourse htold

/-- A record is written to the scratch area and read back. -/
theorem leaves_readBack {m : Messaging} {record u : Bytes} (hpages : (splitPages record).length = scratchPages)
    (h : m.At 1 uid c) :
    Leaves (do
      writeRange scratchStart record
      let readBack ← readPages scratchStart
      if readBack.toBytes = record then return (⟨u, none⟩ : Finding) else throw .wrongReadBack) c
      (fun found added _ => ∃ readBack : Block, testFinding u record readBack.toBytes = .ok found ∧
        m.Talk 1 (testTurns record readBack) added)
      (Stopped fun conv => ∃ readBack, m.Talk 1 (testTurns record readBack) conv) := by
  have hstart : scratchStart.toNat + (splitPages record).length ≤ 256 := by rw [hpages]; decide
  refine (leaves_writeRange h (by rw [hpages]; decide) hstart).bind ?_ ?_
  · intro added hstopped
    refine hstopped.extend fun conv hconv => ?_
    obtain ⟨rest, hrest⟩ := m.exists_talk (1 + (writeTurns scratchStart (splitPages record)).length)
      (answerable_readTurns scratchStart [Block.zero])
    exact ⟨rest, Block.zero, hconv.append hrest⟩
  intro _ front c₁ hend
  obtain ⟨hfront, hat⟩ := hend
  have hall : ∀ {readBack : Block} {conv : List Entry},
      m.Talk (1 + (splitPages record).length) [readTurn scratchStart readBack] conv →
      m.Talk 1 (testTurns record readBack) (front ++ conv) := by
    intro readBack conv hconv
    refine hfront.append ?_
    rw [length_writeTurns]
    exact hconv
  refine (leaves_readPages hat (by rw [hpages]; decide) scratchStart).bind ?_ ?_
  · intro added hadded
    obtain ⟨answer, rfl⟩ := hadded
    obtain ⟨conv, hconv⟩ := m.exists_talk (1 + (splitPages record).length)
      (answerable_readTurns scratchStart [Block.zero])
    have hcut : Stopped (m.Talk _ [readTurn scratchStart Block.zero]) [.exchanged _ answer] :=
      ⟨conv, hconv, hconv.tried answer⟩
    exact hcut.prepend fun conv hconv => ⟨Block.zero, hall hconv⟩
  · intro readBack read c₂ hend
    obtain ⟨hread, -⟩ := hend
    by_cases hsame : readBack.toBytes = record
    · rw [if_pos hsame]
      refine leaves_pure ⟨readBack, if_pos hsame, ?_⟩
      rw [List.append_nil]
      exact hall hread
    · rw [if_neg hsame]
      refine leaves_throw ?_
      rw [List.append_nil]
      exact .of_mem ⟨readBack, hall hread⟩

/-- Both handshakes and the identifier can be followed by a whole test. -/
theorem exists_test {uidKey dataKey rndA₀ rndB₀ rndA rndB b : Block} {asked : List Entry}
    (hb : UidChecked b) (hasked : (opened uidKey rndA rndB true).Talk 0 [readTurn 0 b] asked) :
    ∃ rest, Possible uid (.test uidKey dataKey) (handshake dataSlot dataKey rndA₀ rndB₀ ++
      (handshake uidSlot uidKey rndA rndB ++ (asked ++ rest))) := by
  obtain ⟨rest, hrest⟩ := Inside.exists_of_asked hb hasked (List.replicate probeSize 0)
    (answerable_testTurns (probeRecord dataKey (uidIn b).toBytes (List.replicate probeSize 0)) Block.zero)
  exact ⟨rest, _, .test List.length_replicate hrest⟩

theorem leaves_test (uidKey dataKey : Key) :
    Leaves (test uidKey dataKey) c
      (fun found added _ => Course uid (.test uidKey dataKey) added (.ok found))
      (Stopped (Possible uid (.test uidKey dataKey))) := by
  unfold test
  refine (leaves_authenticate dataSlot dataKey true).bind ?_ ?_
  · intro added hstopped
    refine hstopped.extend fun conv hconv => ?_
    obtain ⟨rndA₀, rndB₀, rfl⟩ := hconv
    obtain ⟨b, asked, hb, hasked⟩ := (opened uidKey Block.zero Block.zero true).exists_readUid 0
    obtain ⟨rest, hrest⟩ := exists_test hb hasked
    exact ⟨_, hrest⟩
  intro _ first c₁ hend
  obtain ⟨rndA₀, rndB₀, rfl, -⟩ := hend
  refine Leaves.mono (leaves_enter
    (Q := fun found added _ => Course uid (.test uidKey dataKey)
      (handshake dataSlot dataKey rndA₀ rndB₀ ++ added) (.ok found))
    (S := fun conv => Possible uid (.test uidKey dataKey) (handshake dataSlot dataKey rndA₀ rndB₀ ++ conv))
    (fun _ _ _ _ hb hasked => exists_test hb hasked) ?_) (fun _ _ _ hcourse => hcourse)
    fun added hstopped => hstopped.prepend fun conv hconv => hconv
  intro rndA rndB b asked c₂ hb hasked hat
  refine leaves_draw_bind (Logged.log_drawBytes probeSize c₂.link) ?_
  have hlen : (drawBytes probeSize c₂.link).1.length = probeSize := length_drawBytes probeSize c₂.link
  have hat' : (opened uidKey rndA rndB true).At 1 c₁.uid
    { c₂ with link := (drawBytes probeSize c₂.link).2 } := hat
  have hpages := length_splitPages_probeRecord dataKey (uidIn b).toBytes hlen
  refine (leaves_readBack hpages hat' (u := (uidIn b).toBytes)).mono ?_ ?_
  · intro found told c₃ hend
    obtain ⟨readBack, hfound, htold⟩ := hend
    rw [← hfound]
    exact .test hlen ⟨hb, asked, told, rfl, hasked, htold⟩
  · intro told hstopped
    refine hstopped.prepend fun conv hconv => ?_
    obtain ⟨readBack, htold⟩ := hconv
    exact ⟨_, .test hlen ⟨hb, asked, conv, rfl, hasked, htold⟩⟩

/-! ### Whole transactions -/

/-- The host knows that the tag will not do, or is on its way through a course. -/
def Begun (uid : Bytes) (request : Request) (log : List Entry) : Prop :=
  (∃ answer, log = [.exchanged Command.getVersion answer]) ∨
    ∃ v rest, v.isSupported = true ∧ log = versionExchange v :: rest ∧ Stopped (Possible uid request) rest

/-- **Every transaction takes a course**, or stops on its way through one. -/
theorem leaves_execute (request : Request) (h : Messaging.plain.At 0 uid c) :
    Leaves (execute request) c
      (fun found added _ => ∃ v rest, v.isSupported = true ∧ added = versionExchange v :: rest ∧
        Course uid request rest (.ok found))
      (Begun uid request) := by
  have hrequest : ∀ {c : Channel (Logged σ)}, Messaging.plain.At 0 uid c →
      Leaves (match request with
        | .read mode uidKey dataKey => read mode uidKey dataKey
        | .write payload uidKey dataKey => write payload uidKey dataKey
        | .test uidKey dataKey => test uidKey dataKey) c
        (fun found added _ => Course uid request added (.ok found)) (Stopped (Possible uid request)) := by
    intro c hat
    cases request with
    | read mode uidKey dataKey => exact leaves_read mode uidKey dataKey hat
    | write payload uidKey dataKey => exact leaves_write payload uidKey dataKey
    | test uidKey dataKey => exact leaves_test uidKey dataKey
  unfold execute
  refine (leaves_checkProduct h).bind ?_ ?_
  · intro added hadded
    exact Or.inl hadded
  · intro _ front c₁ hend
    obtain ⟨v, hv, rfl, hat⟩ := hend
    refine (hrequest hat).mono ?_ ?_
    · intro found rest c' hcourse
      exact ⟨v, rest, hv, rfl, hcourse⟩
    · intro rest hstopped
      exact Or.inr ⟨v, rest, hv, rfl, hstopped⟩

/-! ### The log of a transaction -/

section
variable {τ : Type} [FrameLink τ] {f : LinkMap σ τ}

theorem follows_checkProduct : Follows f checkProduct checkProduct := by
  unfold checkProduct
  refine Follows.bind (follows_parametric.getVersion.tryCatch fun e => ?_) fun v => follows_lift _
  cases e <;> exact follows_throw _

theorem follows_identify (mode : ReadMode) (uidKey : Key) :
    Follows f (identify mode uidKey) (identify mode uidKey) := by
  unfold identify
  split
  · exact (follows_authenticate _ _ _).bind fun _ => follows_parametric.readUid
  · exact .get_bind fun c => follows_pure c.uid

theorem follows_read (mode : ReadMode) (uidKey : Key) (dataKey : Option Key) :
    Follows f (read mode uidKey dataKey) (read mode uidKey dataKey) := by
  unfold read
  cases mode with
  | fast => exact .get_bind fun c => follows_pure _
  | full auth cmac =>
    refine (follows_identify _ uidKey).bind fun uid => ?_
    refine (follows_parametric.readRange payloadStart payloadPages).bind fun area => ?_
    exact (follows_lift _).bind fun stored => (follows_lift _).bind fun payload => follows_pure _

theorem follows_encodeArea (dataKey : Option Key) (uid payload : Bytes) :
    Follows f (encodeArea dataKey uid payload) (encodeArea dataKey uid payload) := by
  unfold encodeArea
  cases dataKey with
  | none => exact follows_lift _
  | some key => exact (follows_draw (f.encodeSealed_map key uid payload)).bind fun area => follows_lift area

theorem follows_write (payload : Bytes) (uidKey : Key) (dataKey : Option Key) :
    Follows f (write payload uidKey dataKey) (write payload uidKey dataKey) := by
  unfold write
  refine (follows_authenticate _ _ _).bind fun _ => follows_parametric.readUid.bind fun uid => ?_
  refine (follows_encodeArea dataKey uid payload).bind fun area => ?_
  exact (follows_parametric.writeRangeCommitted _ area _).bind fun _ => follows_pure _

/-- What a test does when both keys are proved. -/
def probeTag (dataKey : Key) : ChannelM σ Finding := do
  let uid ← readUid
  let record := probeRecord dataKey uid (← draw (drawBytes probeSize))
  writeRange scratchStart record
  let readBack ← readPages scratchStart
  if readBack.toBytes = record then return ⟨uid, none⟩ else throw .wrongReadBack

theorem test_eq (uidKey dataKey : Key) : (test uidKey dataKey : ChannelM σ Finding) = (do
    authenticate dataSlot dataKey true
    authenticate uidSlot uidKey true
    probeTag dataKey) := rfl

theorem follows_probeTag (dataKey : Key) : Follows f (probeTag dataKey) (probeTag dataKey) := by
  unfold probeTag
  refine follows_parametric.readUid.bind fun uid => ?_
  refine (follows_draw (f.drawBytes_map probeSize)).bind fun probe => ?_
  refine (follows_parametric.writeRange _ _).bind fun _ => ?_
  refine (follows_parametric.readPages scratchStart).bind fun readBack => ?_
  split
  · exact follows_pure _
  · exact follows_throw _

theorem follows_test (uidKey dataKey : Key) : Follows f (test uidKey dataKey) (test uidKey dataKey) := by
  rw [test_eq, test_eq]
  refine (follows_authenticate _ _ _).bind fun _ => (follows_authenticate _ _ _).bind fun _ => ?_
  exact follows_probeTag dataKey

/-- **A transaction goes along with every map of links.** -/
theorem follows_execute (request : Request) : Follows f (execute request) (execute request) := by
  unfold execute
  refine follows_checkProduct.bind fun _ => ?_
  cases request with
  | read mode uidKey dataKey => exact follows_read mode uidKey dataKey
  | write payload uidKey dataKey => exact follows_write payload uidKey dataKey
  | test uidKey dataKey => exact follows_test uidKey dataKey

/-- So it ends over an image of a link as over the link, and leaves the image of what is
left there. -/
theorem run_map (f : LinkMap σ τ) (uid : Bytes) (request : Request) (link : σ) :
    run uid request (f.map link) = ((run uid request link).1, f.map (run uid request link).2) := by
  have hfollows := follows_execute (f := f) request (Channel.new uid link)
  have hchannel : f.channel (Channel.new uid link) = Channel.new uid (f.map link) := rfl
  unfold run
  cases hrun : execute request (Channel.new uid link) with
  | ok found c =>
    have hend := hfollows.ok hrun
    rw [hchannel] at hend
    rw [hend]
    rfl
  | error e c =>
    have hend := hfollows.error hrun
    rw [hchannel] at hend
    rw [hend]
    rfl

/-- What every exchange keeps, a transaction keeps. -/
theorem run_keeps (p : LinkProperty σ) (uid : Bytes) (request : Request) {link : σ} (h : p.holds link) :
    p.holds (run uid request link).2 := by
  have hrun := run_map p.inclusion uid request ⟨link, h⟩
  rw [show run uid request link = _ from hrun]
  exact Subtype.property _

end

/-- All that the host does in a transaction. -/
def record (uid : Bytes) (request : Request) (link : σ) : List Entry :=
  (run uid request (⟨link, []⟩ : Logged σ)).2.log

/-- A log changes nothing: the transaction ends with it as it ends without it. -/
theorem run_logged (uid : Bytes) (request : Request) (link : σ) :
    (run uid request (⟨link, []⟩ : Logged σ)).1 = (run uid request link).1 := by
  have hrun := run_map Logged.forget uid request (⟨link, []⟩ : Logged σ)
  exact (congrArg Prod.fst hrun).symm

/-- **A transaction that succeeds has gone through a course.** -/
theorem course_of_ok {request : Request} {link : σ} {found : Finding}
    (h : (run uid request link).1 = .ok found) : ∃ v rest, v.isSupported = true ∧
      record uid request link = versionExchange v :: rest ∧ Course uid request rest (.ok found) := by
  have hleaves := leaves_execute request
    (⟨rfl, rfl⟩ : Messaging.plain.At 0 uid (Channel.new uid (⟨link, []⟩ : Logged σ)))
  rw [← run_logged] at h
  unfold record
  unfold run at h ⊢
  cases hrun : execute request (Channel.new uid (⟨link, []⟩ : Logged σ)) with
  | ok found' c' =>
    rw [hrun] at h
    cases h
    obtain ⟨added, hlog, v, rest, hv, rfl, hcourse⟩ := hleaves.ok hrun
    exact ⟨v, rest, hv, hlog, hcourse⟩
  | error e c' =>
    rw [hrun] at h
    cases h

/-- **Every transaction stops on its way through a course**, or at its end. -/
theorem begun_record (uid : Bytes) (request : Request) (link : σ) :
    Begun uid request (record uid request link) := by
  have hleaves := leaves_execute request
    (⟨rfl, rfl⟩ : Messaging.plain.At 0 uid (Channel.new uid (⟨link, []⟩ : Logged σ)))
  unfold record run
  cases hrun : execute request (Channel.new uid (⟨link, []⟩ : Logged σ)) with
  | ok found c' =>
    obtain ⟨added, hlog, v, rest, hv, rfl, hcourse⟩ := hleaves.ok hrun
    dsimp only
    rw [hlog]
    exact Or.inr ⟨v, rest, hv, rfl, .of_mem ⟨_, hcourse⟩⟩
  | error e c' =>
    obtain ⟨added, hlog, hbegun⟩ := hleaves.error hrun
    dsimp only
    rw [hlog]
    exact hbegun

end Transaction
end Nearfield
