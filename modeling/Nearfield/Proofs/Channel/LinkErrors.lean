/-
# Failures of the link

A transaction reports a failure of the link only if the link has failed. The host
itself never makes one up: what it finds wrong with an answer, a payload or an
identifier are causes of their own. So a transaction with a tag in a field is
never cancelled, since a field only ever reports that the tag is gone.

Key definition: `Channel.Reports`.
Key theorems: `Channel.Reports.bind`, `Channel.reports_exchange`,
`Transaction.reports_execute`, `Transaction.run_ne_cancelled`.
-/
import Nearfield.Proofs.Channel.TagLink
import Nearfield.Proofs.Channel.Ends
import Nearfield.Transaction

namespace Nearfield

theorem TagError.classify_eq_cancelled (e : TagError) :
    e.classify = .link .cancelled ↔ e = .link .cancelled := by
  cases e <;> simp [classify]

/-! ### Answers and payloads -/

section
variable {e : LinkError}

theorem Answer.nakError_ne_link (code : UInt8) : nakError code ≠ .link e := by
  unfold nakError
  split <;> simp [TagError.accessDenied]

theorem Answer.acknowledge_ne_link (answer : Bytes) : acknowledge answer ≠ .error (.link e) := by
  unfold acknowledge
  split
  · split
    · simp
    · simpa using nakError_ne_link _
  · simp [TagError.noAcknowledge]

theorem Answer.version_ne_link (answer : Bytes) : version answer ≠ .error (.link e) := by
  unfold version
  split <;> simp [TagError.wrongVersionLength]

theorem Answer.pages_ne_link (answer : Bytes) : pages answer ≠ .error (.link e) := by
  unfold pages
  split <;> simp [TagError.wrongReadLength]

theorem Answer.handshakeBlock_ne_link {rejected : TagError} (hrejected : rejected ≠ .link e)
    (mark : UInt8) (answer : Bytes) : handshakeBlock mark rejected answer ≠ .error (.link e) := by
  unfold handshakeBlock
  split
  · split <;> simp [hrejected]
  · split
    · split
      · split <;> simp [TagError.wrongHandshakeLength]
      · simp [TagError.wrongHandshakeMark]
    · simp [TagError.wrongHandshakeMark]

theorem Session.openAnswer_ne_link (s : Session) (verify : Bool) (answer : Bytes) :
    s.openAnswer verify answer ≠ .error (.link e) := by
  unfold openAnswer
  split
  · simp [TagError.answerTooShort]
  · dsimp only
    split <;> simp [TagError.wrongAnswerMac]

theorem Version.ensureSupported_ne_link (v : Version) : v.ensureSupported ≠ .error (.link e) := by
  unfold ensureSupported
  split <;> simp

theorem Channel.pagesFrom_ne_link (start : UInt8) (data : Bytes) :
    pagesFrom start data ≠ .error (.link e) := by
  unfold pagesFrom
  dsimp only
  split <;> simp

namespace PayloadArea

theorem decode_ne_link (area : Bytes) : decode area ≠ .error (.link e) := by
  unfold decode
  split
  · split
    · simp
    · split
      · simp [TagError.wrongPayloadLength]
      · split
        · simp
        · split <;> simp [TagError.unknownFormat]
  · simp [TagError.areaTooShort]

theorem encodePlain_ne_link (data : Bytes) : encodePlain data ≠ .error (.link e) := by
  unfold encodePlain
  split <;> simp

theorem encodeSealed_ne_link {ρ : Type} [RandomSource ρ] (key : Key) (uid data : Bytes) (rng : ρ) :
    (encodeSealed key uid data rng).1 ≠ .error (.link e) := by
  unfold encodeSealed
  split <;> simp

theorem decodeSealed_ne_link (key : Key) (uid body : Bytes) :
    decodeSealed key uid body ≠ .error (.link e) := by
  unfold decodeSealed
  split
  · simp [TagError.wrongSealedLength]
  · dsimp only
    split
    · simp [TagError.wrongPayloadMac]
    · split <;> simp [TagError.wrongPadding]

end PayloadArea

theorem Transaction.payloadOf_ne_link (dataKey : Option Key) (uid : Bytes) (stored : PayloadArea.Stored) :
    payloadOf dataKey uid stored ≠ .error (.link e) := by
  unfold payloadOf
  cases stored with
  | empty => simp
  | plain body => cases dataKey <;> simp [TagError.notSealed]
  | «sealed» body =>
    cases dataKey with
    | none => simp
    | some key =>
      have hopen := PayloadArea.decodeSealed_ne_link (e := e) key uid body
      cases hdecode : PayloadArea.decodeSealed key uid body with
      | ok data => simp [hdecode, bind, Except.bind, pure, Except.pure]
      | error failure =>
        rw [hdecode] at hopen
        simpa [hdecode, bind, Except.bind] using hopen

end

/-! ### Actions on a channel -/

namespace Channel
variable {σ α β : Type} {L : LinkError → Prop}

/-- When the action fails with an error of the link, it is one of these. -/
def Reports (L : LinkError → Prop) (prog : ChannelM σ α) : Prop :=
  ∀ c, Ends prog c (fun _ _ => True) (fun failure _ => ∀ e, failure = .link e → L e)

theorem reports_pure (a : α) : Reports L (pure a : ChannelM σ α) := fun _ => trivial

theorem reports_throw {failure : TagError} (h : ∀ e, failure ≠ .link e) :
    Reports L (throw failure : ChannelM σ α) := fun _ e he => absurd he (h e)

theorem Reports.bind {prog : ChannelM σ β} {next : β → ChannelM σ α} (h : Reports L prog)
    (hnext : ∀ b, Reports L (next b)) : Reports L (prog >>= next) :=
  fun c => (h c).bind (fun _ _ he => he) fun b c' _ => hnext b c'

theorem Reports.tryCatch {prog : ChannelM σ α} {handle : TagError → ChannelM σ α} (h : Reports L prog)
    (hhandle : ∀ failure, (∀ e, failure = .link e → L e) → Reports L (handle failure)) :
    Reports L (tryCatch prog handle) :=
  fun c => ends_tryCatch.mpr ((h c).mono (fun _ _ _ => trivial) fun failure c' he => hhandle failure he c')

theorem reports_get : Reports L (get : ChannelM σ (Channel σ)) := fun _ => trivial

theorem reports_setSession (s : Option Session) : Reports L (setSession s : ChannelM σ Unit) :=
  fun _ => trivial

theorem reports_draw (take : σ → α × σ) : Reports L (draw take) := fun _ => trivial

theorem reports_lift {r : Except TagError α} (h : ∀ e, r ≠ .error (.link e)) :
    Reports L (lift r : ChannelM σ α) := by
  cases r with
  | ok a => exact reports_pure a
  | error failure => exact reports_throw fun e he => h e (congrArg Except.error he)

variable [FrameLink σ]

/-- These are all the errors of the links with this state. -/
def Only (σ : Type) [FrameLink σ] (L : LinkError → Prop) : Prop :=
  ∀ frame (link : σ) e, (FrameLink.exchange frame link).1 = .error e → L e

variable (hlink : Only σ L)
include hlink

theorem reports_exchange (frame : Bytes) : Reports L (exchange frame : ChannelM σ Bytes) := by
  intro c
  have hc := hlink frame c.link
  rw [ends_exchange]
  rcases hex : FrameLink.exchange frame c.link with ⟨failure | answer, link⟩
  · intro e he
    cases he
    exact hc failure (by rw [hex])
  · trivial

theorem reports_authenticate (slot : UInt8) (key : Key) (verify : Bool) :
    Reports L (authenticate slot key verify : ChannelM σ Unit) := by
  unfold authenticate
  refine (reports_setSession none).bind fun _ => (reports_exchange hlink _).bind fun answer => ?_
  refine (reports_lift fun e => ?_).bind fun block => (reports_draw _).bind fun rndA => ?_
  · exact Answer.handshakeBlock_ne_link (by simp [TagError.slotRejected]) _ _
  refine (reports_exchange hlink _).bind fun answer => (reports_lift fun e => ?_).bind fun final => ?_
  · exact Answer.handshakeBlock_ne_link (by simp [TagError.hostRejected]) _ _
  split
  · exact fun _ => trivial
  · exact reports_throw (by simp [TagError.tagRejected])

omit [FrameLink σ] hlink in
theorem reports_receive (s : Session) (answer : Bytes) : Reports L (receive s answer : ChannelM σ Bytes) := by
  unfold receive
  split
  · exact reports_throw (by simp [TagError.counterExhausted])
  · exact (reports_setSession _).bind fun _ => reports_get.bind fun c =>
      reports_lift fun _ => Session.openAnswer_ne_link _ _ answer

theorem reports_transceive (frame : Bytes) : Reports L (transceive frame : ChannelM σ Bytes) := by
  unfold transceive
  refine reports_get.bind fun c => (reports_exchange hlink _).bind fun answer => ?_
  split
  · exact (reports_setSession none).bind fun _ => reports_throw fun e => Answer.nakError_ne_link _
  · split
    · exact reports_pure answer
    · exact reports_receive _ answer

theorem reports_getVersion : Reports L (getVersion : ChannelM σ Version) :=
  (reports_transceive hlink _).bind fun _ => reports_lift fun _ => Answer.version_ne_link _

theorem reports_readPages (page : UInt8) : Reports L (readPages page : ChannelM σ Block) :=
  (reports_transceive hlink _).bind fun _ => reports_lift fun _ => Answer.pages_ne_link _

theorem reports_readGroups : ∀ (n : Nat) (page : UInt8), Reports L (readGroups page n : ChannelM σ Bytes)
  | 0, _ => reports_pure _
  | n + 1, page => (reports_readPages hlink page).bind fun _ =>
    (reports_readGroups n (page + 4)).bind fun _ => reports_pure _

theorem reports_readRange (start pages : UInt8) : Reports L (readRange start pages : ChannelM σ Bytes) := by
  have hgroups : ∀ n, Reports L (readGroups start n >>= fun data =>
      pure (data.take (pages.toNat * Page.size)) : ChannelM σ Bytes) :=
    fun n => (reports_readGroups hlink n start).bind fun _ => reports_pure _
  unfold readRange
  split
  · exact (reports_throw (by simp)).bind fun _ => hgroups _
  · exact hgroups _

theorem reports_readUid : Reports L (readUid : ChannelM σ Bytes) := by
  unfold readUid
  refine (reports_readPages hlink 0).bind fun b => ?_
  dsimp only
  split
  · exact reports_pure _
  · exact reports_throw (by simp [TagError.wrongCheckBytes])

theorem reports_writePage (page : UInt8) (data : Page) : Reports L (writePage page data : ChannelM σ Unit) :=
  (reports_transceive hlink _).bind fun _ => reports_lift fun _ => Answer.acknowledge_ne_link _

theorem reports_writePages : ∀ (ps : List Page) (page : UInt8),
    Reports L (writePages page ps : ChannelM σ Unit)
  | [], _ => reports_pure _
  | p :: ps, page => (reports_writePage hlink page p).bind fun _ => reports_writePages ps (page + 1)

theorem reports_writeRange (start : UInt8) (data : Bytes) :
    Reports L (writeRange start data : ChannelM σ Unit) :=
  (reports_lift fun _ => pagesFrom_ne_link start data).bind fun ps => reports_writePages hlink ps start

theorem reports_writeRangeCommitted (start : UInt8) (data : Bytes) (invalid : Page) :
    Reports L (writeRangeCommitted start data invalid : ChannelM σ Unit) := by
  unfold writeRangeCommitted
  refine (reports_lift fun _ => pagesFrom_ne_link start data).bind fun ps => ?_
  cases ps with
  | nil => exact reports_pure _
  | cons first rest =>
    exact (reports_writePage hlink start invalid).bind fun _ =>
      (reports_writePages hlink rest (start + 1)).bind fun _ => reports_writePage hlink start first

end Channel

/-! ### Transactions -/

namespace Transaction
variable {σ : Type} [FrameLink σ] {L : LinkError → Prop}

open Channel

section
variable (hlink : Only σ L)
include hlink

theorem reports_checkProduct : Reports L (checkProduct : ChannelM σ Unit) := by
  unfold checkProduct
  refine Reports.bind (.tryCatch (reports_getVersion hlink) fun failure hfailure => ?_) fun v =>
    reports_lift fun _ => v.ensureSupported_ne_link
  split
  · exact reports_throw (by simp [TagError.noVersion])
  · exact reports_throw (by simp [TagError.noVersion])
  · exact fun _ => hfailure

theorem reports_identify (mode : ReadMode) (uidKey : Key) :
    Reports L (identify mode uidKey : ChannelM σ Bytes) := by
  unfold identify
  split
  · exact (reports_authenticate hlink _ _ _).bind fun _ => reports_readUid hlink
  · exact reports_get.bind fun _ => reports_pure _

theorem reports_read (mode : ReadMode) (uidKey : Key) (dataKey : Option Key) :
    Reports L (read mode uidKey dataKey : ChannelM σ Finding) := by
  unfold read
  cases mode with
  | fast => exact reports_get.bind fun _ => reports_pure _
  | full auth cmac =>
    refine (reports_identify hlink _ uidKey).bind fun uid => (reports_readRange hlink _ _).bind fun area => ?_
    refine (reports_lift fun _ => PayloadArea.decode_ne_link area).bind fun stored => ?_
    exact (reports_lift fun _ => payloadOf_ne_link dataKey uid stored).bind fun _ => reports_pure _

omit hlink in
theorem reports_encodeArea (dataKey : Option Key) (uid payload : Bytes) :
    Reports L (encodeArea dataKey uid payload : ChannelM σ Bytes) := by
  unfold encodeArea
  cases dataKey with
  | none => exact reports_lift fun _ => PayloadArea.encodePlain_ne_link payload
  | some key =>
    intro c
    dsimp only
    rw [ends_bind, ends_draw]
    exact reports_lift (fun _ => PayloadArea.encodeSealed_ne_link key uid payload c.link) _

theorem reports_write (payload : Bytes) (uidKey : Key) (dataKey : Option Key) :
    Reports L (write payload uidKey dataKey : ChannelM σ Finding) := by
  unfold write
  refine (reports_authenticate hlink _ _ _).bind fun _ => (reports_readUid hlink).bind fun uid => ?_
  refine (reports_encodeArea dataKey uid payload).bind fun area => ?_
  exact (reports_writeRangeCommitted hlink _ area _).bind fun _ => reports_pure _

theorem reports_test (uidKey dataKey : Key) : Reports L (test uidKey dataKey : ChannelM σ Finding) := by
  unfold test
  refine (reports_authenticate hlink _ _ _).bind fun _ => (reports_authenticate hlink _ _ _).bind fun _ => ?_
  refine (reports_readUid hlink).bind fun uid => (reports_draw _).bind fun probe => ?_
  refine (reports_writeRange hlink _ _).bind fun _ => (reports_readPages hlink _).bind fun readBack => ?_
  split
  · exact reports_pure _
  · exact reports_throw (by simp [TagError.wrongReadBack])

/-- **No transaction makes up a failure of the link.** -/
theorem reports_execute (request : Request) : Reports L (execute request : ChannelM σ Finding) := by
  unfold execute
  refine (reports_checkProduct hlink).bind fun _ => ?_
  cases request with
  | read mode uidKey dataKey => exact reports_read hlink mode uidKey dataKey
  | write payload uidKey dataKey => exact reports_write hlink payload uidKey dataKey
  | test uidKey dataKey => exact reports_test hlink uidKey dataKey

end

/-- A run that ends with a tag error ends with the class of it. -/
theorem run_eq_error {uid : Bytes} {request : Request} {link : σ} {failure : ScanError}
    (h : (run uid request link).1 = .error failure) :
    ∃ e c', execute request (Channel.new uid link) = .error e c' ∧ e.classify = failure := by
  unfold run at h
  split at h
  · cases h
  · rename_i e c' hrun
    exact ⟨e, c', hrun, Except.error.inj h⟩

/-- A transaction notices no missing key. -/
theorem run_ne_noKey (uid : Bytes) (request : Request) (link : σ) :
    (run uid request link).1 ≠ .error .noKey := by
  intro h
  obtain ⟨e, -, -, hclass⟩ := run_eq_error h
  exact e.classify_ne_noKey hclass

/-- **A transaction is cancelled only by its link.** -/
theorem run_ne_cancelled (hlink : Only σ (· ≠ .cancelled)) (uid : Bytes) (request : Request) (link : σ) :
    (run uid request link).1 ≠ .error (.link .cancelled) := by
  intro h
  obtain ⟨e, c', hrun, hclass⟩ := run_eq_error h
  have hreport := (reports_execute hlink request (Channel.new uid link)).error hrun
  exact hreport .cancelled (e.classify_eq_cancelled.mp hclass) rfl

end Transaction

/-- A field reports nothing but that the tag is gone. -/
theorem Contact.only_tagRemoved {ρ : Type} [RandomSource ρ] : Channel.Only (Contact ρ) (· = .tagRemoved) :=
  fun frame c _ h => by
    have hexchange : c.exchange frame = (.error _, (c.exchange frame).2) := Prod.ext h rfl
    exact (c.exchange_error hexchange).1

/-- So no transaction with a tag in it is cancelled. -/
theorem Contact.run_ne_cancelled {ρ : Type} [RandomSource ρ] (uid : Bytes) (request : Request) (c : Contact ρ) :
    (Transaction.run uid request c).1 ≠ .error (.link .cancelled) := by
  refine Transaction.run_ne_cancelled (fun frame link e he => ?_) uid request c
  rw [only_tagRemoved frame link e he]
  simp

end Nearfield
