/-
# Settings

What a run is configured with: the host's keys, the engine and the tag that is
presented. Settings are read from documents and written to them; what a
document leaves out has its default, and the layers of a configuration are laid
over the document of the defaults.

The presented tag holds, in each key slot, the key configured for the tag, or
else the host's key, or else zeros.

Key definitions: `Settings`, `TagSettings`, `Settings.ofDocument?`,
`Settings.toDocument`, `TagSettings.build`, `SetupError`.
-/
import Nearfield.Config.Document
import Nearfield.Engine
import Nearfield.Tag

namespace Nearfield
namespace Config

/-- The tag that is presented to the field. -/
structure TagSettings where
  model : Product
  /-- The identifier in hexadecimal digits. -/
  uid : String
  randomId : Bool
  /-- The text of key 0, if it is not the host's. -/
  key0 : Option String
  /-- The text of key 1, if it is not the host's. -/
  key1 : Option String
  deriving DecidableEq, Repr

def TagSettings.default : TagSettings :=
  { model := .ultralightAes, uid := Hex.encodeUpper Uid.default.toBytes, randomId := false,
    key0 := none, key1 := none }

structure Settings where
  /-- The host's keys; without them scans are refused. -/
  keys : Option IssuedKeys
  engine : EngineConfig
  tag : TagSettings
  deriving DecidableEq, Repr

def Settings.default : Settings := ⟨none, .default, .default⟩

/-! ### Reading -/

/-- A required field. -/
def required {α : Type} (read : Document → Option α) (field : Option Document) : Option α :=
  field.bind read

/-- A field with a default. -/
def orElse {α : Type} (default : α) (read : Document → Option α) : Option Document → Option α
  | some d => read d
  | none => some default

/-- Key 0, then key 1; both are required. -/
def issuedOfDocument? (exact : Bool) (d : Document) : Option IssuedKeys := do
  let [key0, key1] ← d.fields? exact ["key0", "key1"] | none
  return ⟨← required Document.text? key0, ← required Document.text? key1⟩

/-- The kinds of read modes. -/
inductive ModeKind where
  | fast
  | full

/-- A kind is given by its name, or by its index. -/
def ModeKind.ofDocument? : Document → Option ModeKind
  | .text "fast" | .number (some 0) => some .fast
  | .text "full" | .number (some 1) => some .full
  | _ => none

/-- The kind of a mode decides which other members it has. A mode is read as a
whole, so no part of it may be unreadable; a list must have the exact length. -/
def modeOfDocument? (d : Document) : Option ReadMode := do
  guard d.isReadable
  match d with
  | .group members =>
    match ← required ModeKind.ofDocument? (← Document.member? members "kind") with
    | .fast => return .fast
    | .full =>
      let auth ← required Document.flag? (← Document.member? members "auth")
      let cmac ← required Document.flag? (← Document.member? members "cmac")
      return .full auth cmac
  | .list (kind :: rest) =>
    match ← ModeKind.ofDocument? kind, rest with
    | .fast, [] => return .fast
    | .full, [.flag auth, .flag cmac] => return .full auth cmac
    | _, _ => none
  | _ => none

def engineOfDocument? (exact : Bool) (d : Document) : Option EngineConfig := do
  let [mode] ← d.fields? exact ["read_mode"] | none
  return ⟨← orElse EngineConfig.default.readMode modeOfDocument? mode⟩

/-- The name of a product in a document. -/
def modelName : Product → String
  | .ultralightAes => "ultralight_aes"
  | .ultralightEv1 => "ultralight_ev1"
  | .ntag215 => "ntag215"

/-- A product is given by its name, or by a group of its name and nothing. -/
def modelOfDocument? : Document → Option Product
  | .text name => Product.ofName? modelName name
  | .group [(name, .absent)] => Product.ofName? modelName name
  | _ => none

def tagOfDocument? (exact : Bool) (d : Document) : Option TagSettings := do
  let [model, uid, randomId, key0, key1] ←
    d.fields? exact ["model", "uid", "random_id", "key0", "key1"] | none
  return {
    model := ← orElse TagSettings.default.model modelOfDocument? model
    uid := ← orElse TagSettings.default.uid Document.text? uid
    randomId := ← orElse TagSettings.default.randomId Document.flag? randomId
    key0 := ← orElse none Document.optionalText? key0
    key1 := ← orElse none Document.optionalText? key1 }

/-- Reads all settings. Lists in them may go on after the last field. -/
def Settings.ofDocument? (d : Document) : Option Settings := do
  let [keys, engine, tag] ← d.fields? false ["keys", "scanner", "tag"] | none
  return {
    keys := ← orElse none (fun k => some <$> issuedOfDocument? false k) keys
    engine := ← orElse .default (engineOfDocument? false) engine
    tag := ← orElse .default (tagOfDocument? false) tag }

/-! ### Writing -/

def modeToDocument : ReadMode → Document
  | .fast => .group [("kind", .text "fast")]
  | .full auth cmac => .group [("kind", .text "full"), ("auth", .flag auth), ("cmac", .flag cmac)]

def optionalMember (name : String) : Option String → List (String × Document)
  | some text => [(name, .text text)]
  | none => []

def issuedToDocument (issued : IssuedKeys) : Document :=
  .group [("key0", .text issued.key0), ("key1", .text issued.key1)]

def tagToDocument (tag : TagSettings) : Document :=
  .group ([("model", .text (modelName tag.model)), ("uid", .text tag.uid),
    ("random_id", .flag tag.randomId)] ++ optionalMember "key0" tag.key0
    ++ optionalMember "key1" tag.key1)

/-- The document of the settings; what is not set is left out. -/
def Settings.toDocument (s : Settings) : Document :=
  let keys :=
    match s.keys with
    | some issued => [("keys", issuedToDocument issued)]
    | none => []
  .group (keys ++ [("scanner", .group [("read_mode", modeToDocument s.engine.readMode)]),
    ("tag", tagToDocument s.tag)])

/-! ### The presented tag -/

/-- Why no tag can be presented. -/
inductive SetupError where
  | uid (text : String)
  | tagKey (slot : UInt8) (error : KeyError)
  deriving DecidableEq, Repr

/-- The messages from the outermost error down to the last cause. -/
def SetupError.causes : SetupError → List String
  | .uid text => ["tag UID must be 7 hex encoded bytes, got " ++ Text.quoted text]
  | .tagKey slot error => ("invalid tag key" ++ toString slot.toNat) :: error.causes

namespace TagSettings

/-- Reads the identifier. -/
def uid? (s : TagSettings) : Option Uid := do
  let bytes ← (Hex.decode (Text.trim s.uid)).toOption
  Uid.ofBytes? bytes

/-- The key for a slot: the tag's own, or else the host's, or else zeros. -/
def slotKey (slot : UInt8) (own host : Option String) : Except SetupError Key :=
  match own <|> host with
  | some text => (Key.ofText text).mapError (.tagKey slot)
  | none => .ok Block.zero

/-- Builds the tag for a host with these keys. -/
def build (s : TagSettings) (host : Option IssuedKeys) : Except SetupError Tag := do
  let some uid := s.uid? | throw (.uid s.uid)
  let key0 ← slotKey dataSlot s.key0 (host.map (·.key0))
  let key1 ← slotKey uidSlot s.key1 (host.map (·.key1))
  return { Tag.new uid with model := s.model, randomId := s.randomId, key0, key1 }

end TagSettings
end Config
end Nearfield
