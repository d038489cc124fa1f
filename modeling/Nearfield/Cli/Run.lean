/-
# Runs of the command line

A run configures a host and a tag, presents the tag to the field and performs
the operations of its command one after the other, up to the first failure.
What it prints and the exit code are its outcome. Directives of the log filter
that are ignored are reported before anything else.

Key definitions: `Options.apply`, `Command.operations`, `RunError`, `perform`,
`Outcome`, `run`.
-/
import Nearfield.Cli.Help
import Nearfield.Cli.Report
import Nearfield.Config.Layers
import Nearfield.Log.Filter
import Nearfield.ScanQueue

namespace Nearfield
namespace Cli

open Config

/-! ### Failures -/

/-- Why a run fails. -/
inductive RunError where
  /-- The configuration, with its file at this path, cannot be loaded. -/
  | configuration (path : String)
  | hostKeys (error : KeyError)
  | setup (error : SetupError)
  | payload (fault : Hex.Fault)
  | scan (operation : String) (failure : ScanError)
  deriving DecidableEq, Repr

/-- The messages of a failed scan; an error of the link is a cause of its own. -/
def scanCauses (failure : ScanError) : List String :=
  match failure with
  | .link error => [failure.message, error.message]
  | _ => [failure.message]

/-- The messages from the outermost error down to the last cause. -/
def RunError.causes : RunError → List String
  | .configuration path => ["failed to load configuration from " ++ path]
  | .hostKeys error => "invalid tag keys" :: error.causes
  | .setup error => error.causes
  | .payload fault =>
    ["payload is not valid hex, pass --text for text payloads", fault.message]
  | .scan operation failure => (operation ++ " failed") :: scanCauses failure

/-- Causes with their numbers, one on a line. -/
def numbered (n : Nat) : List String → String
  | [] => ""
  | cause :: rest => "    " ++ toString n ++ ": " ++ cause ++ "\n" ++ numbered (n + 1) rest

/-- The error as it is printed: a single cause has no number. -/
def RunError.report (e : RunError) : String :=
  match e.causes with
  | [] => ""
  | [message] => "Error: " ++ message ++ "\n"
  | [message, cause] => "Error: " ++ message ++ "\n\nCaused by:\n    " ++ cause ++ "\n"
  | message :: causes => "Error: " ++ message ++ "\n\nCaused by:\n" ++ numbered 0 causes

/-! ### Options over settings -/

/-- The host's keys that the options give. -/
def Options.keys? (o : Options) : Option IssuedKeys := do return ⟨← o.key0, ← o.key1⟩

/-- The settings with the options laid over them. -/
def Options.apply (o : Options) (s : Settings) : Settings where
  keys := o.keys? <|> s.keys
  engine := s.engine
  tag :=
    { model := o.model.getD s.tag.model
      uid := o.uid.getD s.tag.uid
      randomId := s.tag.randomId || o.randomId
      key0 := o.tagKey0 <|> s.tag.key0
      key1 := o.tagKey1 <|> s.tag.key1 }

/-- The path of the configuration file. -/
def Options.configPath (o : Options) : String := o.config.getD "chipscan.toml"

/-! ### Operations -/

/-- The digits without any marks of hexadecimal in front. -/
def dropHexMarks : List Char → List Char
  | '0' :: 'x' :: rest => dropHexMarks rest
  | digits => digits

/-- The bytes of a payload. -/
def payload (data : String) (isText : Bool) : Except RunError Bytes :=
  if isText then .ok (Text.utf8 data)
  else (Hex.decode (String.ofList (dropHexMarks data.toList))).mapError .payload

/-- The name of an operation in messages. -/
def operationName : Operation → String
  | .read | .readWithMode _ => "Read"
  | .write _ => "Write"
  | .test => "Test"

/-- The operations of a command, in order. -/
def Command.operations : Command → Except RunError (List Operation)
  | .read none => .ok [.read]
  | .read (some mode) => .ok [.readWithMode mode]
  | .write data isText => return [.write (← payload data isText)]
  | .test => .ok [.test]
  | .roundtrip data isText => return [.write (← payload data isText), .read]

/-- A station at which nobody waits: without a tag a scan is cancelled. -/
instance {ρ : Type} [RandomSource ρ] : Transport (Station ρ) where
  scan request s :=
    match s.contact? with
    | some (uid, link) =>
      let (result, link) := Transaction.run uid request link
      (result, TagSource.release link)
    | none => (.error (.link .cancelled), s)
  stopListening s := TagSource.stopListening s

/-- What is printed about a scanned tag. -/
def report (color : Bool) (operation : Operation) (tag : Finding) : String :=
  Report.success color (operationName operation ++ " succeeded") ++ "\n"
    ++ Report.tagSummary color tag ++ "\n"

/-- Performs operations up to the first failure. Gives what was scanned before
it, and the failure. -/
def perform {τ : Type} [Transport τ] (engine : Engine τ) :
    List Operation → List (Operation × Finding) × Option (Operation × ScanError)
  | [] => ([], none)
  | operation :: rest =>
    match engine.scan operation with
    | (.ok tag, engine) =>
      let (scanned, failure) := perform engine rest
      ((operation, tag) :: scanned, failure)
    | (.error failure, _) => ([], some (operation, failure))

/-! ### The run -/

/-- The exit code and what is printed. -/
structure Outcome where
  code : UInt8
  stdout : String
  stderr : String
  deriving DecidableEq, Repr

namespace Outcome

def failed (stdout warnings : String) (e : RunError) : Outcome := ⟨1, stdout, warnings ++ e.report⟩

end Outcome

/-- The keyring with the host's keys. -/
def hostKeys (s : Settings) : Except RunError Keyring :=
  match s.keys with
  | none => .ok .new
  | some issued =>
    match Keyring.new.apply (.setIssued issued) with
    | (.ok (), ring) => .ok ring
    | (.error e, _) => .error (.hostKeys e)

/-- An engine with these settings, and the tag in front of it. -/
def prepare {ρ : Type} (s : Settings) (rng : ρ) : Except RunError (Engine (Station ρ)) := do
  let keys ← hostKeys s
  let tag ← (s.tag.build s.keys).mapError .setup
  return ⟨keys, s.engine, ⟨Field.empty.present tag, rng⟩⟩

/-- Prints a warning if the host has no keys. -/
def warnings (color : Bool) (s : Settings) : String :=
  if s.keys.isNone then
    Report.warning color "No tag keys configured, scans will be refused" ++ "\n"
  else ""

/-- Runs a command with these settings. -/
def execute {ρ : Type} [RandomSource ρ] (color : Bool) (s : Settings) (command : Command)
    (rng : ρ) : Outcome :=
  let warnings := warnings color s
  match prepare s rng, command.operations with
  | .error e, _ | .ok _, .error e => .failed "" warnings e
  | .ok engine, .ok operations =>
    let (scanned, failure) := perform engine operations
    let stdout := String.join (scanned.map fun s => report color s.1 s.2)
    match failure with
    | none => ⟨0, stdout, warnings⟩
    | some (operation, failure) => .failed stdout warnings (.scan (operationName operation) failure)

/-- What is printed about the filter of log lines in the environment. With
verbose output the filter is not looked at. -/
def filterComplaints (o : Options) (environment : List (String × String)) : String :=
  if o.verbose then "" else Log.Filter.complaints ((environment.lookup "RUST_LOG").getD "")

/-- Runs an invocation. `file` is the text of the configuration file, if there
is one; `terminal` says whether a terminal shows the output. -/
def run {ρ : Type} [RandomSource ρ] (terminal : Bool) (i : Invocation) (file : Option String)
    (environment : List (String × String)) (rng : ρ) : Outcome :=
  let outcome : Outcome :=
    match Settings.load? file environment with
    | none => .failed "" "" (.configuration i.options.configPath)
    | some s => execute (Report.colorsOn terminal environment) (i.options.apply s) i.command rng
  { outcome with stderr := filterComplaints i.options environment ++ outcome.stderr }

/-! ### Without a run -/

/-- What is printed when there is nothing to run. -/
def Stop.outcome : Stop → Outcome
  | .usage => ⟨2, "", Help.program⟩
  | .help topic full => ⟨0, Help.text topic full, ""⟩
  | .version => ⟨0, "chipscan-cli 0.1.0\n", ""⟩

end Cli
end Nearfield
