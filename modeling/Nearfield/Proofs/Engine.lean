/-
# An engine over its history

Keys, configuration and scans of an engine, over any sequence of calls and with any
transport. The keys are those that were installed last and as a whole (`installed`);
a scan for which a key is missing is refused before the transport hears of it, and
any other scan is one request with both keys and the transport's own result. A
transport that looks for tags never says that a key is missing, so that a caller
who is told so knows why.

Key definitions: `Keyring.Update.installs?`, `Operation.Keyed`, `Operation.Asks`,
`Tapped`, `Caller`, `Caller.Call`, `Caller.installed`, `Caller.Accounts`.
Key theorems: `Caller.current_after`, `Caller.requests_after`,
`Caller.snapshots_after`, `Caller.step_refused`, `Caller.step_served`,
`Caller.accounts_after`.
-/
import Mathlib.Data.List.Induction
import Nearfield.Cli.Run
import Nearfield.Proofs.Channel.LinkErrors
import Nearfield.Proofs.Host.Basic

namespace Nearfield

/-! ### Updates -/

/-- The pair that an update installs. An issued pair has the data key in front; it is
installed if both halves can be decoded. -/
def Keyring.Update.installs? : Keyring.Update → Option KeyPair
  | .setKeys keys => some keys
  | .setIssued issued =>
    match Key.ofText issued.key0, Key.ofText issued.key1 with
    | .ok key0, .ok key1 => some ⟨some key1, some key0⟩
    | _, _ => none
  | .clear => some .empty

theorem Keyring.Update.keys_cases (update : Keyring.Update) :
    (∃ keys, update.installs? = some keys ∧ update.keys = .ok keys) ∨
      (∃ e, update.installs? = none ∧ update.keys = .error e) := by
  cases update with
  | setKeys keys => exact Or.inl ⟨keys, rfl, rfl⟩
  | setIssued issued =>
    simp only [installs?, Update.keys, KeyPair.ofIssued, KeyPair.decodeHalf]
    cases Key.ofText issued.key0 with
    | error e => exact Or.inr ⟨_, rfl, rfl⟩
    | ok key0 =>
      cases Key.ofText issued.key1 with
      | error e => exact Or.inr ⟨_, rfl, rfl⟩
      | ok key1 => exact Or.inl ⟨_, rfl, rfl⟩
  | clear => exact Or.inl ⟨.empty, rfl, rfl⟩

/-! ### Requests -/

namespace Operation

/-- The keys that the operation cannot do without are there. -/
def Keyed (keys : KeyPair) : Operation → Prop
  | .test => keys.uidKey.isSome ∧ keys.dataKey.isSome
  | _ => keys.uidKey.isSome

def kind : Operation → String
  | .read | .readWithMode _ => "read"
  | .write _ => "write"
  | .test => "test"

def mode? (config : EngineConfig) : Operation → Option ReadMode
  | .read => some config.readMode
  | .readWithMode mode => some mode
  | _ => none

def payload? : Operation → Option Bytes
  | .write payload => some payload
  | _ => none

/-- The request asks for the operation, with both keys of the pair. -/
structure Asks (operation : Operation) (config : EngineConfig) (keys : KeyPair) (request : Request) : Prop where
  kind_eq : request.kind = operation.kind
  mode_eq : request.mode? = operation.mode? config
  payload_eq : request.payload? = operation.payload?
  keys_eq : request.keys = keys

variable {operation : Operation} {config : EngineConfig} {keys : KeyPair}

theorem asks_of_request {request : Request} (h : operation.request config keys = .ok request) :
    operation.Asks config keys request := by
  have hkeys := keys_of_request h
  obtain ⟨uidKey, dataKey⟩ := keys
  cases operation <;> cases uidKey <;> cases dataKey <;> cases h <;> exact ⟨rfl, rfl, rfl, hkeys⟩

theorem request_of_keyed (h : operation.Keyed keys) : ∃ request, operation.request config keys = .ok request := by
  obtain ⟨uidKey, dataKey⟩ := keys
  cases operation <;> cases uidKey <;> cases dataKey <;> simp_all [Keyed, request]

theorem request_of_not_keyed (h : ¬ operation.Keyed keys) : operation.request config keys = .error .noKey := by
  obtain ⟨uidKey, dataKey⟩ := keys
  cases operation <;> cases uidKey <;> cases dataKey <;> simp_all [Keyed, request]

end Operation

/-! ### Scans -/

namespace Engine
variable {τ : Type} [Transport τ]

theorem keys_scan (s : Engine τ) (operation : Operation) : (s.scan operation).2.keys = s.keys := by
  unfold scan
  split <;> rfl

theorem config_scan (s : Engine τ) (operation : Operation) : (s.scan operation).2.config = s.config := by
  unfold scan
  split <;> rfl

end Engine

/-! ### Callers -/

/-- A transport that writes down what it receives and how it answers, oldest request
first. -/
structure Tapped (τ : Type) where
  transport : τ
  received : List (Request × ScanResult)

instance {τ : Type} [Transport τ] : Transport (Tapped τ) where
  scan request t :=
    let (result, transport) := Transport.scan request t.transport
    (result, ⟨transport, t.received ++ [(request, result)]⟩)
  stopListening t := { t with transport := Transport.stopListening t.transport }

/-- An engine and the pairs that were read from it, the oldest first. -/
structure Caller (τ : Type) where
  engine : Engine (Tapped τ)
  snapshots : List KeyPair

namespace Caller

inductive Call where
  | update (update : Keyring.Update)
  | snapshot
  | configure (config : EngineConfig)
  | cancel
  | scan (operation : Operation)

inductive Reply where
  | done
  | updated (result : Except KeyError Unit)
  | keys (keys : KeyPair)
  | scanned (result : ScanResult)

def Call.installs? : Call → Option KeyPair
  | .update u => u.installs?
  | _ => none

def Call.configures? : Call → Option EngineConfig
  | .configure config => some config
  | _ => none

/-- The pair that was installed last; at first there are no keys. -/
def installed (calls : List Call) : KeyPair := (calls.filterMap Call.installs?).getLastD .empty

/-- The configuration that was set last. -/
def configured (config : EngineConfig) (calls : List Call) : EngineConfig :=
  (calls.filterMap Call.configures?).getLastD config

/-- The request that a call makes, if it makes one. -/
def Call.request? (config : EngineConfig) (keys : KeyPair) : Call → Option Request
  | .scan operation => (operation.request config keys).toOption
  | _ => none

/-- The requests that some calls make, from this configuration and these keys on. -/
def requests (config : EngineConfig) (keys : KeyPair) : List Call → List Request
  | [] => []
  | call :: rest => (call.request? config keys).toList ++
      requests (call.configures?.getD config) (call.installs?.getD keys) rest

theorem installed_snoc (calls : List Call) (call : Call) :
    installed (calls ++ [call]) = call.installs?.getD (installed calls) := by
  unfold installed
  cases h : call.installs? <;> simp [h]

theorem configured_snoc (config : EngineConfig) (calls : List Call) (call : Call) :
    configured config (calls ++ [call]) = call.configures?.getD (configured config calls) := by
  unfold configured
  cases h : call.configures? <;> simp [h]

variable {τ : Type} [Transport τ]

/-- Nothing was called yet. -/
def new (transport : τ) (config : EngineConfig) : Caller τ := ⟨⟨.new, config, ⟨transport, []⟩⟩, []⟩

def keys (c : Caller τ) : KeyPair := c.engine.keys.current

def received (c : Caller τ) : List (Request × ScanResult) := c.engine.transport.received

def step (c : Caller τ) : Call → Reply × Caller τ
  | .update update =>
    let (result, engine) := c.engine.updateKeys update
    (.updated result, { c with engine })
  | .snapshot => (.keys c.keys, { c with snapshots := c.snapshots ++ [c.keys] })
  | .configure config => (.done, { c with engine := { c.engine with config } })
  | .cancel => (.done, { c with engine := c.engine.cancel })
  | .scan operation =>
    let (result, engine) := c.engine.scan operation
    (.scanned result, { c with engine })

/-- The state after some calls. -/
def after (c : Caller τ) (calls : List Call) : Caller τ := calls.foldl (fun c call => (c.step call).2) c

theorem after_snoc (c : Caller τ) (calls : List Call) (call : Call) :
    c.after (calls ++ [call]) = ((c.after calls).step call).2 := List.foldl_append

/-! ### What a call does -/

/-- An update that installs nothing fails and changes nothing. -/
theorem step_update_none (c : Caller τ) {update : Keyring.Update} (h : update.installs? = none) :
    ∃ e, c.step (.update update) = (.updated (.error e), c) := by
  rcases update.keys_cases with ⟨keys, hsome, -⟩ | ⟨e, -, hkeys⟩
  · rw [h] at hsome
    cases hsome
  · refine ⟨e, ?_⟩
    simp only [step, Engine.updateKeys, Keyring.apply, hkeys]

/-- Any other update replaces the whole pair, and nothing else. -/
theorem step_update_some (c : Caller τ) {update : Keyring.Update} {keys : KeyPair}
    (h : update.installs? = some keys) :
    c.step (.update update) = (.updated (.ok ()), { c with engine := { c.engine with keys := ⟨keys⟩ } }) := by
  rcases update.keys_cases with ⟨keys', hsome, hkeys⟩ | ⟨e, hnone, -⟩
  · rw [h] at hsome
    cases hsome
    simp only [step, Engine.updateKeys, Keyring.apply, hkeys]
  · rw [h] at hnone
    cases hnone

/-- A scan without its keys goes nowhere. -/
theorem step_refused (c : Caller τ) {operation : Operation} (h : ¬ operation.Keyed c.keys) :
    c.step (.scan operation) = (.scanned (.error .noKey), c) := by
  have hrequest : operation.request c.engine.config c.engine.keys.current = .error .noKey :=
    Operation.request_of_not_keyed h
  simp only [step, Engine.scan, hrequest]

/-- **A scan with its keys is one request**, and the transport's result is the reply. -/
theorem step_served (c : Caller τ) {operation : Operation} (h : operation.Keyed c.keys) :
    ∃ request : Request, operation.Asks c.engine.config c.keys request ∧
      c.step (.scan operation) =
        (.scanned (Transport.scan request c.engine.transport.transport).1,
          { c with engine := { c.engine with
              transport := ⟨(Transport.scan request c.engine.transport.transport).2,
                c.received ++ [(request, (Transport.scan request c.engine.transport.transport).1)]⟩ } }) := by
  obtain ⟨request, hrequest⟩ : ∃ request : Request,
      operation.request c.engine.config c.engine.keys.current = .ok request := Operation.request_of_keyed h
  refine ⟨request, Operation.asks_of_request hrequest, ?_⟩
  simp only [step, Engine.scan, hrequest]
  rfl

/-- Only updates change the keys. -/
theorem keys_step (c : Caller τ) (call : Call) : (c.step call).2.keys = call.installs?.getD c.keys := by
  cases call with
  | update update =>
    cases h : update.installs? with
    | none =>
      obtain ⟨e, hstep⟩ := c.step_update_none h
      rw [hstep]
      simp [Call.installs?, h]
    | some keys =>
      rw [c.step_update_some h]
      simp [Call.installs?, h, Caller.keys]
  | snapshot => rfl
  | configure config => rfl
  | cancel => rfl
  | scan operation => exact congrArg Keyring.current (c.engine.keys_scan operation)

theorem config_step (c : Caller τ) (call : Call) :
    (c.step call).2.engine.config = call.configures?.getD c.engine.config := by
  cases call with
  | update update => rfl
  | snapshot => rfl
  | configure config => rfl
  | cancel => rfl
  | scan operation => exact c.engine.config_scan operation

/-- Calls that are no scans send nothing. -/
theorem received_step (c : Caller τ) {call : Call} (h : ∀ operation, call ≠ .scan operation) :
    (c.step call).2.received = c.received := by
  cases call with
  | update update => rfl
  | snapshot => rfl
  | configure config => rfl
  | cancel => rfl
  | scan operation => exact absurd rfl (h operation)

/-- A call sends its own request, whatever the transport makes of it. -/
theorem requests_step (c : Caller τ) (call : Call) : (c.step call).2.received.map Prod.fst =
    c.received.map Prod.fst ++ (call.request? c.engine.config c.keys).toList := by
  cases call with
  | scan operation =>
    simp only [step, Engine.scan, Call.request?, Caller.keys]
    cases operation.request c.engine.config c.engine.keys.current with
    | error failure => exact (List.append_nil _).symm
    | ok request =>
      show (c.received ++ [(request, _)]).map Prod.fst = _
      rw [List.map_append]
      rfl
  | update u => exact (List.append_nil _).symm
  | snapshot => exact (List.append_nil _).symm
  | configure config => exact (List.append_nil _).symm
  | cancel => exact (List.append_nil _).symm

theorem snapshots_step (c : Caller τ) (call : Call) : c.snapshots <+: (c.step call).2.snapshots := by
  cases call with
  | snapshot => exact List.prefix_append _ _
  | update update => exact List.prefix_rfl
  | configure config => exact List.prefix_rfl
  | cancel => exact List.prefix_rfl
  | scan operation => exact List.prefix_rfl

/-! ### What a history leaves behind -/

/-- **The keys are those of the last update that succeeded.** -/
theorem current_after (transport : τ) (config : EngineConfig) (calls : List Call) :
    ((new transport config).after calls).keys = installed calls := by
  induction calls using List.reverseRecOn with
  | nil => rfl
  | append_singleton calls call ih => rw [after_snoc, keys_step, ih, installed_snoc]

theorem config_after (transport : τ) (config : EngineConfig) (calls : List Call) :
    ((new transport config).after calls).engine.config = configured config calls := by
  induction calls using List.reverseRecOn with
  | nil => rfl
  | append_singleton calls call ih => rw [after_snoc, config_step, ih, configured_snoc]

/-- **What the transport receives depends on the calls alone**, not on what it answers. -/
theorem requests_after (c : Caller τ) (calls : List Call) : (c.after calls).received.map Prod.fst =
    c.received.map Prod.fst ++ requests c.engine.config c.keys calls := by
  induction calls generalizing c with
  | nil => exact (List.append_nil _).symm
  | cons call calls ih =>
    show ((c.step call).2.after calls).received.map Prod.fst = _
    rw [ih, requests_step, keys_step, config_step, requests, List.append_assoc]

/-- What was read from an engine stays what it is. -/
theorem snapshots_after (c : Caller τ) (calls : List Call) : c.snapshots <+: (c.after calls).snapshots := by
  induction calls generalizing c with
  | nil => exact List.prefix_rfl
  | cons call calls ih => exact (c.snapshots_step call).trans (ih (c.step call).2)

/-! ### Missing keys -/

/-- The transport never says that a key is missing. -/
def NeverNoKey (τ : Type) [Transport τ] : Prop :=
  ∀ (request : Request) (transport : τ), (Transport.scan request transport).1 ≠ .error .noKey

theorem neverNoKey_station (ρ : Type) [RandomSource ρ] : NeverNoKey (Station ρ) := by
  intro request s
  simp only [Transport.scan]
  split
  · rename_i uid link hcontact
    exact Transaction.run_ne_noKey uid request link
  · simp

end Caller

namespace ScanQueue
variable {φ σ : Type} [FrameLink σ] [TagSource φ σ]

theorem serve_ne_noKey (field : φ) (ps : List Pending) :
    ∀ f ∈ (serve field ps).1, f.result ≠ .error .noKey := by
  induction ps generalizing field with
  | nil => exact fun f hf => absurd hf List.not_mem_nil
  | cons p rest ih =>
    simp only [serve]
    cases (TagSource.activate p.since field : Activation σ) with
    | found uid link => exact List.forall_mem_cons.mpr ⟨Transaction.run_ne_noKey uid p.request link, ih _⟩
    | cancelled => exact List.forall_mem_cons.mpr ⟨by simp, ih _⟩
    | waiting since => exact fun f hf => absurd hf List.not_mem_nil

theorem start_ne_noKey (t : ScanQueue φ) (id : Nat) (request : Request) :
    ∀ f ∈ (t.start id request).1, f.result ≠ .error .noKey := by
  unfold start
  split
  · exact serve_ne_noKey _ _
  · exact fun f hf => absurd hf List.not_mem_nil

end ScanQueue

/-! ### All together -/

namespace Caller
variable {τ : Type} [Transport τ]

/-- What a caller finds after some calls, whatever it calls next. -/
structure Accounts (config : EngineConfig) (calls : List Call) (c : Caller τ) : Prop where
  keys_eq : c.keys = installed calls
  config_eq : c.engine.config = configured config calls
  requests_eq : c.received.map Prod.fst = requests config .empty calls
  /-- An update installs the whole pair and nothing else. -/
  updated (update : Keyring.Update) (keys : KeyPair) (h : update.installs? = some keys) :
    c.step (.update update) = (.updated (.ok ()), { c with engine := { c.engine with keys := ⟨keys⟩ } })
  /-- Or it fails and changes nothing at all. -/
  failed (update : Keyring.Update) (h : update.installs? = none) :
    ∃ e, c.step (.update update) = (.updated (.error e), c)
  snapshot : (c.step .snapshot).1 = .keys (installed calls)
  /-- A snapshot keeps its value. -/
  kept (later : List Call) : c.snapshots ++ [installed calls] <+: ((c.step .snapshot).2.after later).snapshots
  /-- A scan without its keys is refused; the transport is as it was. -/
  refused (operation : Operation) (h : ¬ operation.Keyed (installed calls)) :
    c.step (.scan operation) = (.scanned (.error .noKey), c)
  /-- Any other scan is one request with both keys. Its result comes back as it is. -/
  served (operation : Operation) (h : operation.Keyed (installed calls)) :
    ∃ request : Request, operation.Asks (configured config calls) (installed calls) request ∧
      (c.step (.scan operation)).1 = .scanned (Transport.scan request c.engine.transport.transport).1 ∧
      (c.step (.scan operation)).2.received =
        c.received ++ [(request, (Transport.scan request c.engine.transport.transport).1)] ∧
      (c.step (.scan operation)).2.keys = installed calls
  quiet (call : Call) (h : ∀ operation, call ≠ .scan operation) : (c.step call).2.received = c.received
  /-- With a transport that never says so itself, a missing key is the only cause. -/
  noKey_iff (hnever : NeverNoKey τ) (operation : Operation) :
    (c.step (.scan operation)).1 = .scanned (.error .noKey) ↔ ¬ operation.Keyed (installed calls)

/-- **Whatever was called before**, an engine accounts for its keys and its scans. The
transports of a field never say that a key is missing. -/
theorem accounts_after (transport : τ) (config : EngineConfig) (calls : List Call) :
    Accounts config calls ((new transport config).after calls) ∧
      (∀ (ρ : Type) [RandomSource ρ], NeverNoKey (Station ρ)) ∧
      ∀ (φ σ : Type) [FrameLink σ] [TagSource φ σ] (q : ScanQueue φ),
        (∀ id request, ∀ f ∈ (q.start id request).1, f.result ≠ .error .noKey) ∧
          ∀ f ∈ q.poll.1, f.result ≠ .error .noKey := by
  refine ⟨?_, neverNoKey_station, fun φ σ _ _ q => ⟨q.start_ne_noKey, ScanQueue.serve_ne_noKey _ _⟩⟩
  have hkeys := current_after transport config calls
  have hconfig := config_after transport config calls
  have hrequests := (new transport config).requests_after calls
  generalize (new transport config).after calls = c at hkeys hconfig hrequests
  refine
    { keys_eq := hkeys
      config_eq := hconfig
      requests_eq := hrequests
      updated := fun update keys h => c.step_update_some h
      failed := fun update h => c.step_update_none h
      snapshot := congrArg Reply.keys hkeys
      kept := fun later => ?_
      refused := fun operation h => c.step_refused (hkeys ▸ h)
      served := fun operation h => ?_
      quiet := fun call h => c.received_step h
      noKey_iff := fun hnever operation => ?_ }
  · rw [← hkeys]
    exact snapshots_after (c.step .snapshot).2 later
  · rw [← hkeys] at h ⊢
    rw [← hconfig]
    obtain ⟨request, hasks, hstep⟩ := c.step_served h
    exact ⟨request, hasks, by rw [hstep], by rw [hstep]; rfl, by rw [hstep]; rfl⟩
  · rw [← hkeys]
    by_cases h : operation.Keyed c.keys
    · obtain ⟨request, -, hstep⟩ := c.step_served h
      rw [hstep]
      simpa [h] using hnever request c.engine.transport.transport
    · rw [c.step_refused h]
      simp [h]

end Caller
end Nearfield
