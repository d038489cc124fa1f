/-
# The scan engine

The engine turns an operation into a request with the keys that are current,
or refuses it, without any contact, when a key that it needs is missing. The
request goes to a transport and the transport's result comes back unchanged.

Key definitions: `EngineConfig`, `Operation`, `Operation.request`,
`Transport`, `Engine`, `Engine.scan`.
-/
import Nearfield.Keyring
import Nearfield.Scan

namespace Nearfield

structure EngineConfig where
  /-- The mode of a read that names none. -/
  readMode : ReadMode
  deriving DecidableEq, Repr

/-- Reads are as strict as possible unless configured otherwise. -/
def EngineConfig.default : EngineConfig := ⟨.secure⟩

/-- What a caller asks for. -/
inductive Operation where
  /-- A read in the configured mode. -/
  | read
  | readWithMode (mode : ReadMode)
  | write (payload : Bytes)
  | test
  deriving DecidableEq, Repr

/-- The request for an operation under these keys. Every operation needs the
key that retrieves the identifier, a test also the data key. -/
def Operation.request (config : EngineConfig) (keys : KeyPair) :
    Operation → Except ScanError Request
  | .read =>
    match keys.uidKey with
    | some key => .ok (.read config.readMode key keys.dataKey)
    | none => .error .noKey
  | .readWithMode mode =>
    match keys.uidKey with
    | some key => .ok (.read mode key keys.dataKey)
    | none => .error .noKey
  | .write payload =>
    match keys.uidKey with
    | some key => .ok (.write payload key keys.dataKey)
    | none => .error .noKey
  | .test =>
    match keys.uidKey, keys.dataKey with
    | some uidKey, some dataKey => .ok (.test uidKey dataKey)
    | _, _ => .error .noKey

/-- The request carries both keys of the pair. -/
theorem Operation.keys_of_request {config : EngineConfig} {keys : KeyPair} {operation : Operation}
    {request : Request} (h : operation.request config keys = .ok request) : request.keys = keys := by
  obtain ⟨uidKey, dataKey⟩ := keys
  cases operation <;> cases uidKey <;> cases dataKey <;> cases h <;> rfl

/-- What the engine needs of a transport. -/
class Transport (τ : Type) where
  scan : Request → τ → ScanResult × τ
  stopListening : τ → τ

structure Engine (τ : Type) where
  keys : Keyring
  config : EngineConfig
  transport : τ

namespace Engine

variable {τ : Type} [Transport τ]

/-- Performs an operation. -/
def scan (s : Engine τ) (operation : Operation) : ScanResult × Engine τ :=
  match operation.request s.config s.keys.current with
  | .error failure => (.error failure, s)
  | .ok request =>
    let (result, transport) := Transport.scan request s.transport
    (result, { s with transport })

/-- Abandons a scan that waits for a tag; the keys stay. -/
def cancel (s : Engine τ) : Engine τ := { s with transport := Transport.stopListening s.transport }

def updateKeys (s : Engine τ) (update : Keyring.Update) : Except KeyError Unit × Engine τ :=
  let (result, keys) := s.keys.apply update
  (result, { s with keys })

end Engine
end Nearfield
