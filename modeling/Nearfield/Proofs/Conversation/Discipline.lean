/-
# The frames of a transaction

Whatever the link answers, the frames of a transaction keep an order. The first
one asks for the version; pages are written only in the order of the request
(`Writes`), and only in a session for the identifier; every frame has its place
after those before it, so commands in a session are numbered without a gap; and
nothing is sent after an exchange that failed.

Key definitions: `Transaction.written?`, `Transaction.Writes`.
Key theorems: `Transaction.writes_course`, `Transaction.frame_discipline`.
-/
import Nearfield.Engine
import Nearfield.Proofs.Conversation.Places

namespace Nearfield
namespace Transaction

open Channel Messaging

/-! ### Writes -/

/-- The page that a frame writes, and its contents. -/
def written? : Bytes → Option (UInt8 × Page)
  | instruction :: page :: data =>
    if instruction = Code.write then (Page.ofBytes? (data.take Page.size)).map fun p => (page, p) else none
  | _ => none

/-- All pages that are written in these exchanges, in order. -/
def writesOf (sent : List Exchanged) : List (UInt8 × Page) := sent.filterMap fun e => written? e.1

theorem writesOf_append (sent sent' : List Exchanged) :
    writesOf (sent ++ sent') = writesOf sent ++ writesOf sent' := List.filterMap_append

/-- A MAC behind the command makes no difference. -/
theorem Expects.written?_append {command data : Bytes} (h : Expects command data) (mac : Bytes) :
    written? (command ++ mac) = written? command := by
  cases h with
  | read page b hb => rfl
  | write page data => rfl

theorem writesOf_talk {m : Messaging} {n : Nat} {turns : List Turn} {conv : List Entry}
    (h : m.Talk n turns conv) (hexpects : Expected turns) :
    writesOf (exchanges conv) = turns.filterMap fun turn => written? turn.command := by
  induction h with
  | nil n => rfl
  | @cons n turn turns answer conv hopens _ ih =>
    obtain ⟨hexpect, hturns⟩ := List.forall_mem_cons.mp hexpects
    have hframe : written? (m.frame n turn.command) = written? turn.command := by
      cases m with
      | plain => rfl
      | secured s verify => exact hexpect.written?_append _
    have hrest := ih hturns
    rw [exchanges_exchanged, writesOf, List.filterMap_cons, List.filterMap_cons, hframe]
    cases written? turn.command with
    | none => exact hrest
    | some write => exact congrArg (write :: ·) hrest

/-- Pages in order from a first one on. -/
def pagesInOrder (start : Nat) (ps : List Page) : List (UInt8 × Page) :=
  ps.mapIdx fun i p => (UInt8.ofNat (start + i), p)

theorem writes_readTurns (page : UInt8) (bs : List Block) :
    ((readTurns page bs).filterMap fun turn => written? turn.command) = [] := by
  induction bs generalizing page with
  | nil => rfl
  | cons b bs ih => exact ih (page + 4)

theorem writes_writeTurns (start : Nat) (ps : List Page) :
    ((writeTurns (UInt8.ofNat start) ps).filterMap fun turn => written? turn.command)
      = pagesInOrder start ps := by
  induction ps generalizing start with
  | nil => rfl
  | cons p ps ih =>
    have hnext : UInt8.ofNat start + 1 = UInt8.ofNat (start + 1) := (UInt8.ofNat_add start 1).symm
    have hrest := ih (start + 1)
    unfold pagesInOrder at hrest ⊢
    simp only [Nat.add_assoc, Nat.add_comm 1] at hrest
    rw [List.mapIdx_cons, writeTurns, hnext, List.filterMap_cons, hrest]
    rfl

theorem writes_commitTurns (invalid header : Page) (body : List Page) :
    ((commitTurns payloadStart invalid header body).filterMap fun turn => written? turn.command)
      = (0x04, invalid) :: pagesInOrder 0x05 body ++ [(0x04, header)] := by
  have hbody : ((writeTurns (payloadStart + 1) body).filterMap fun turn => written? turn.command)
      = pagesInOrder 0x05 body := writes_writeTurns 0x05 body
  have hmark : written? (writeTurn payloadStart invalid).command = some (0x04, invalid) := rfl
  have hlast : ([writeTurn payloadStart header].filterMap fun turn => written? turn.command)
      = [(0x04, header)] := rfl
  rw [commitTurns, List.filterMap_append, List.filterMap_cons, hmark, hbody, hlast]

theorem writes_testTurns (record : Bytes) (readBack : Block) :
    ((testTurns record readBack).filterMap fun turn => written? turn.command)
      = pagesInOrder 0x24 (splitPages record) := by
  have hrecord : ((writeTurns scratchStart (splitPages record)).filterMap fun turn => written? turn.command)
      = pagesInOrder 0x24 (splitPages record) := writes_writeTurns 0x24 (splitPages record)
  have hlast : ([readTurn scratchStart readBack].filterMap fun turn => written? turn.command) = [] := rfl
  rw [testTurns, List.filterMap_append, hrecord, hlast, List.append_nil]

/-- The pages that a request may write, in order. A write marks the area as empty
first, and writes its first page last; the payload must fit. A test fills the
scratch area. -/
def Writes : Request → List (UInt8 × Page) → Prop
  | .read .., pages => pages = []
  | .write payload _ dataKey, pages =>
    (PayloadArea.capacity dataKey < payload.length ∧ pages = []) ∨
      ∃ uid area header body, PayloadArea.Encodes dataKey uid payload area ∧
        splitPages area = header :: body ∧ body.length ≤ 31 ∧
        pages = (0x04, PayloadArea.emptyHeader) :: pagesInOrder 0x05 body ++ [(0x04, header)]
  | .test .., pages => ∃ ps : List Page, ps.length = 4 ∧ pages = pagesInOrder 0x24 ps

theorem writesOf_inside {m : Messaging} {b : Block} {drawn : Bytes} {turns : List Turn}
    {conv : List Entry} (h : Inside m b drawn turns conv) (hexpects : Expected turns) :
    writesOf (exchanges conv) = turns.filterMap fun turn => written? turn.command := by
  obtain ⟨conv', hconv, htalk⟩ := h.talk
  rw [hconv, writesOf_talk htalk (h.expects hexpects)]
  rfl

theorem writesOf_handshake (slot : UInt8) (key rndA rndB : Block) :
    writesOf (exchanges (handshake slot key rndA rndB)) = [] := by
  rw [exchanges_handshake]
  rfl

/-- **A course writes what its request may write**, in that order. -/
theorem writes_course {uid : Bytes} {request : Request} {conv : List Entry}
    {result : Except TagError Finding} (h : Course uid request conv result) :
    Writes request (writesOf (exchanges conv)) := by
  cases h with
  | fast => rfl
  | @clear _ _ bs conv hlen htalk =>
    show writesOf _ = []
    have hexpects : Expected (readTurns payloadStart bs) :=
      expected_readTurns payloadStart bs (by decide) (by rw [hlen]; decide)
    rw [writesOf_talk htalk hexpects, writes_readTurns]
  | @secured _ _ _ _ _ _ bs conv hneeds hlen hinside =>
    show writesOf _ = []
    have hexpects : Expected (readTurns payloadStart bs) :=
      expected_readTurns payloadStart bs (by decide) (by rw [hlen]; decide)
    rw [exchanges_append, writesOf_append, writesOf_handshake, writesOf_inside hinside hexpects,
      writes_readTurns]
    rfl
  | @write _ area _ _ _ _ _ b header body conv hencodes hsplit hinside =>
    obtain ⟨header', body', hsplit', hlen⟩ := splitPages_encoded hencodes
    cases hsplit.symm.trans hsplit'
    refine Or.inr ⟨_, area, header, body, hencodes, hsplit, Nat.le_of_lt_succ hlen, ?_⟩
    rw [exchanges_append, writesOf_append, writesOf_handshake, writesOf_inside hinside (expected_commitTurns _ _ _ _),
      writes_commitTurns, List.nil_append]
  | oversized hlen hinside =>
    refine Or.inl ⟨hlen, ?_⟩
    rw [exchanges_append, writesOf_append, writesOf_handshake,
      writesOf_inside hinside expected_nil]
    rfl
  | @test _ _ _ dataKey _ _ b readBack probe conv hlen hinside =>
    refine ⟨splitPages (probeRecord dataKey (uidIn b).toBytes probe),
      length_splitPages_probeRecord dataKey _ hlen, ?_⟩
    rw [exchanges_append, exchanges_append, writesOf_append, writesOf_append, writesOf_handshake,
      writesOf_handshake, writesOf_inside hinside (expected_testTurns _ _), writes_testTurns]
    rfl

/-! ### The frames of a transaction -/

/-- A frame that writes a page. -/
def IsWrite (frame : Bytes) : Prop := frame.head? = some Code.write

/-- Pages are written in a session for the identifier only. -/
theorem Placed.inSession_of_isWrite {request : Request} {earlier : List Exchanged} {frame : Bytes}
    {accepts : Bytes → Prop} (h : Placed request earlier frame accepts) (hwrite : IsWrite frame) :
    ∃ rndA rndB n page data, InSession request rndA rndB n earlier ∧
      frame = ((session request rndA rndB).after n).protect (Command.write page data) := by
  cases h with
  | version => cases hwrite
  | challenge earlier slot => cases hwrite
  | proof earlier slot key rndA rndB => cases hwrite
  | clear earlier page hclear => cases hwrite
  | secured earlier rndA rndB n command hsession hn hcommand =>
    obtain ⟨data, hexpects⟩ := hcommand
    cases hexpects with
    | read page b hb => cases hwrite
    | write page data => exact ⟨rndA, rndB, n, page, data, hsession, rfl⟩

/-- Any request may write something. -/
theorem exists_writes (request : Request) : ∃ pages, Writes request pages := by
  cases request with
  | read mode uidKey dataKey => exact ⟨[], rfl⟩
  | write payload uidKey dataKey =>
    by_cases hlen : payload.length ≤ PayloadArea.capacity dataKey
    · obtain ⟨area, hencodes⟩ := PayloadArea.exists_encodes [] hlen
      obtain ⟨header, body, hsplit, hbody⟩ := splitPages_encoded hencodes
      exact ⟨_, Or.inr ⟨[], area, header, body, hencodes, hsplit, Nat.le_of_lt_succ hbody, rfl⟩⟩
    · exact ⟨[], Or.inl ⟨Nat.not_le.mp hlen, rfl⟩⟩
  | test uidKey dataKey => exact ⟨_, List.replicate 4 Page.zero, rfl, rfl⟩

theorem writesOf_prefix {sent sent' : List Exchanged} (h : sent.map Prod.fst <+: sent'.map Prod.fst) :
    writesOf sent <+: writesOf sent' := by
  have hframes : ∀ xs : List Exchanged, writesOf xs = (xs.map Prod.fst).filterMap written? := by
    intro xs
    rw [List.filterMap_map]
    rfl
  rw [hframes, hframes]
  exact h.filterMap written?

/-- A payload that does not fit is noticed after one turn. -/
theorem length_course_of_oversized {uid payload : Bytes} {uidKey : Key} {dataKey : Option Key}
    {conv : List Entry} {result : Except TagError Finding}
    (h : Course uid (.write payload uidKey dataKey) conv result)
    (hlen : PayloadArea.capacity dataKey < payload.length) : (exchanges conv).length = 3 := by
  cases h with
  | write hencodes hsplit hinside => exact absurd hencodes.1 (Nat.not_le.mpr hlen)
  | oversized _ hinside =>
    obtain ⟨conv', hconv, htalk⟩ := hinside.talk
    cases htalk with
    | cons hopens hnil =>
      cases hnil
      rw [exchanges_append, exchanges_handshake, hconv]
      rfl

/-! ### What has begun -/

section
variable {uid : Bytes} {request : Request} {log : List Entry}

/-- The first frame asks for the version. -/
theorem Begun.first (h : Begun uid request log) :
    ∃ answer later, exchanges log = (Command.getVersion, answer) :: later ∧
      (later ≠ [] → ∃ v : Version, v.isSupported = true ∧ answer = .ok v.toBytes) := by
  rcases h with ⟨answer, rfl⟩ | ⟨v, rest, hv, rfl, -⟩
  · exact ⟨answer, [], rfl, fun hne => absurd rfl hne⟩
  · exact ⟨.ok v.toBytes, exchanges rest, rfl, fun _ => ⟨v, hv, rfl⟩⟩

/-- Of the pages in order the first ones are written. -/
theorem Begun.writes (h : Begun uid request log) :
    ∃ pages, Writes request pages ∧ writesOf (exchanges log) <+: pages := by
  rcases h with ⟨answer, rfl⟩ | ⟨v, rest, hv, rfl, conv, ⟨result, hcourse⟩, hcut⟩
  · obtain ⟨pages, hpages⟩ := exists_writes request
    exact ⟨pages, hpages, List.nil_prefix⟩
  · have hprefix : writesOf (exchanges rest) <+: writesOf (exchanges conv) :=
      writesOf_prefix hcut.frames_prefix
    exact ⟨_, writes_course hcourse, hprefix⟩

/-- Every frame has its place, and if another one follows its answer was accepted. -/
theorem Begun.placed (h : Begun uid request log) {earlier later : List Exchanged} {frame : Bytes}
    {answer : Except LinkError Bytes} (hsplit : exchanges log = earlier ++ (frame, answer) :: later) :
    ∃ accepts, Placed request earlier frame accepts ∧ (later ≠ [] → ∃ a, answer = .ok a ∧ accepts a) := by
  rcases h with ⟨answer', rfl⟩ | ⟨v, rest, hv, rfl, conv, ⟨result, hcourse⟩, hcut⟩
  · cases earlier with
    | nil =>
      cases hsplit
      exact ⟨_, .version, fun hne => absurd rfl hne⟩
    | cons first earlier =>
      have hnil : earlier ++ (frame, answer) :: later = [] := (List.cons.inj hsplit).2.symm
      exact absurd hnil (List.append_ne_nil_of_right_ne_nil _ (List.cons_ne_nil _ _))
  · cases earlier with
    | nil =>
      cases hsplit
      exact ⟨_, .version, fun _ => ⟨_, rfl, v, hv, rfl⟩⟩
    | cons first earlier =>
      -- the exchange stands in the course that was cut off
      obtain ⟨answer', rest', hconv, hsame⟩ := hcut.at_exchange (List.cons.inj hsplit).2
      have horderly := orderly_course hcourse [first]
      rw [hconv] at horderly
      obtain ⟨accepts, a, hplaced, hanswer, ha⟩ := horderly.at
      exact ⟨accepts, hplaced, fun hlater => ⟨a, (hsame hlater).trans hanswer, ha⟩⟩

/-- A payload that does not fit is noticed after four frames. -/
theorem Begun.length_of_oversized {payload : Bytes} {uidKey : Key} {dataKey : Option Key}
    (h : Begun uid (.write payload uidKey dataKey) log)
    (hlen : PayloadArea.capacity dataKey < payload.length) : (exchanges log).length ≤ 4 := by
  rcases h with ⟨answer, rfl⟩ | ⟨v, rest, hv, rfl, conv, ⟨result, hcourse⟩, hcut⟩
  · exact Nat.le_add_left 1 3
  · have hshort := length_course_of_oversized hcourse hlen
    have hfront : (exchanges rest).length ≤ (exchanges conv).length := by
      have := hcut.frames_prefix.length_le
      rwa [List.length_map, List.length_map] at this
    rw [versionExchange, exchanges_exchanged, List.length_cons]
    omega

end

/-! ### Whole transactions -/

variable {σ : Type} [FrameLink σ]

/-- **The frames of a transaction keep their order**, whatever the link answers.
The first one asks for the version, and nothing else is sent unless the answer
is that of an Ultralight AES. Pages are written in the order of the request, and
in a session for the identifier only. Every frame has its place after the
earlier ones, and none follows an exchange whose answer was not accepted there;
none follows the identifier if the payload does not fit. -/
theorem frame_discipline (uid : Bytes) (request : Request) (link : σ) :
    let sent := exchanges (record uid request link)
    (∃ answer later, sent = (Command.getVersion, answer) :: later ∧
      (later ≠ [] → ∃ v : Version, v.isSupported = true ∧ answer = .ok v.toBytes)) ∧
    (∃ pages, Writes request pages ∧ writesOf sent <+: pages) ∧
    (∀ earlier frame answer later, sent = earlier ++ (frame, answer) :: later →
      (IsWrite frame → ∃ rndA rndB n page data, InSession request rndA rndB n earlier ∧
        frame = ((session request rndA rndB).after n).protect (Command.write page data)) ∧
      ∃ accepts, Placed request earlier frame accepts ∧
        (later ≠ [] → ∃ a, answer = .ok a ∧ accepts a)) ∧
    (∀ payload uidKey dataKey, request = .write payload uidKey dataKey →
      PayloadArea.capacity dataKey < payload.length → sent.length ≤ 4) := by
  intro sent
  have hbegun : Begun uid request (record uid request link) := begun_record uid request link
  refine ⟨hbegun.first, hbegun.writes, ?_, ?_⟩
  · intro earlier frame answer later hsplit
    obtain ⟨accepts, hplaced, haccepted⟩ := hbegun.placed hsplit
    exact ⟨hplaced.inSession_of_isWrite, accepts, hplaced, haccepted⟩
  · intro payload uidKey dataKey hrequest hlen
    subst hrequest
    exact hbegun.length_of_oversized hlen

/-- A write of three bytes to a new tag, at its first page, and a write of too many. -/
theorem frame_discipline_write :
    let t := Tag.new Uid.default
    let contact : Contact ByteStream := ⟨⟨some t, 1, 0⟩, 1, ⟨[], 0⟩⟩
    let request : Request := .write [1, 2, 3] t.key1 none
    (∃ earlier frame answer later,
      exchanges (record t.uid.toBytes request contact) = earlier ++ (frame, answer) :: later ∧
      IsWrite frame ∧ later ≠ [] ∧
      (∃ rndA rndB n page data, InSession request rndA rndB n earlier ∧
        frame = ((session request rndA rndB).after n).protect (Command.write page data)) ∧
      ∃ accepts, Placed request earlier frame accepts ∧ ∃ a, answer = .ok a ∧ accepts a) ∧
    (exchanges (record t.uid.toBytes (.write (List.replicate 200 0) t.key1 none) contact)).length ≤ 4 := by
  intro t contact request
  have hheads : (exchanges (record t.uid.toBytes request contact)).map (fun e => e.1.head?)
      = [some Code.getVersion, some Code.authenticate, some Code.authenticateMore, some Code.read]
        ++ some Code.write :: [some Code.write, some Code.write] := by decide +kernel
  obtain ⟨earlier, rest, hsent, -, hrest⟩ := List.map_eq_append_iff.mp hheads
  obtain ⟨⟨frame, answer⟩, later, rfl, hwrite, hlater⟩ := List.map_eq_cons_iff.mp hrest
  have hmore : later ≠ [] := by
    rintro rfl
    cases hlater
  obtain ⟨hsession, accepts, hplaced, haccepted⟩ :=
    (frame_discipline t.uid.toBytes request contact).2.2.1 earlier frame answer later hsent
  have htooLong : PayloadArea.capacity none < (List.replicate 200 (0 : UInt8)).length := by
    rw [List.length_replicate]
    decide
  exact ⟨⟨earlier, frame, answer, later, hsent, hwrite, hmore, hsession hwrite, accepts, hplaced,
    haccepted hmore⟩, (frame_discipline t.uid.toBytes _ contact).2.2.2 _ _ _ rfl htooLong⟩

end Transaction
end Nearfield
