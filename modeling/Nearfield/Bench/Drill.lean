/-
# Drills

A drill is a sequence of steps on one rig: scans that are queued for its
field, arrivals and departures of tags, direct access to the tag in the
field, and commands on one channel of its own. Each step has a result and
leaves the entries that its links wrote in the journal.

Key definitions: `Step`, `Result`, `Drill`, `Drill.step`.
-/
import Nearfield.Bench.Rig
import Nearfield.Engine
import Nearfield.ScanQueue

namespace Nearfield
namespace Bench

/-- A command on the channel. -/
inductive ChannelStep where
  | authenticate (slot : UInt8) (key : Key) (verify : Bool)
  | transceive (frame : Bytes)
  | getVersion
  | readPages (page : UInt8)
  | readRange (start pages : UInt8)
  | readUid
  | writePage (page : UInt8) (data : Page)
  | writeRange (start : UInt8) (data : Bytes)
  | writeRangeCommitted (start : UInt8) (data : Bytes) (invalid : Page)

/-- What a command on the channel returns. -/
inductive ChannelValue where
  | done
  | data (bytes : Bytes)
  | version (version : Version)

inductive Step where
  | scan (operation : Operation)
  | poll
  | drop (id : Nat)
  | cancel
  | updateKeys (update : Keyring.Update)
  /-- Brings a tag in; these pages of the tag before are copied to it first. -/
  | present (tag : Tag) (copied : Option (UInt8 × UInt8))
  | remove
  | isPresent
  | disturb (disturbances : List Disturbance)
  | script (uid : Bytes) (answers : List (Except LinkError Bytes))
  | inspect
  | tagFrame (frame : Bytes)
  | tagActivate
  | page (page : UInt8)
  | pages (start count : UInt8)
  | setPages (start : UInt8) (data : Bytes)
  /-- Puts a new channel on the next link. -/
  | activate
  | channel (command : ChannelStep)
  /-- The same step many times over; the last time counts. -/
  | again (count : Nat) (step : Step)

inductive Result where
  | done
  | nothing
  /-- A scan was started; `none` if it is pending. -/
  | scanned (id : Nat) (result : Option ScanResult)
  | polled (done : List Finished) (pending : List Nat)
  | dropped (count : Nat)
  | keys (result : Except KeyError Unit) (keys : KeyPair)
  | presence (present : Bool)
  | tag (tag : Tag)
  | answer (bytes : Option Bytes)
  | uid (bytes : Option Bytes)
  | page (bytes : Option Bytes)
  | pages (bytes : Option Bytes)
  | written (done : Bool)
  | activated (uid : Bytes)
  | notActivated
  | activationFailed (error : LinkError)
  | channel (result : Except TagError ChannelValue) (slot : Option UInt8) (sent : Nat)

structure Drill where
  queue : ScanQueue Rig
  keys : Keyring
  config : EngineConfig
  /-- The number of the next scan. -/
  nextId : Nat
  channel : Option (Channel RigLink)

namespace ChannelStep

variable {σ : Type} [FrameLink σ]

/-- Runs the command. -/
def run : ChannelStep → ChannelM σ ChannelValue
  | .authenticate slot key verify => do
    Channel.authenticate slot key verify
    return .done
  | .transceive frame => return .data (← Channel.transceive frame)
  | .getVersion => return .version (← Channel.getVersion)
  | .readPages page => return .data (← Channel.readPages page).toBytes
  | .readRange start pages => return .data (← Channel.readRange start pages)
  | .readUid => return .data (← Channel.readUid)
  | .writePage page data => do
    Channel.writePage page data
    return .done
  | .writeRange start data => do
    Channel.writeRange start data
    return .done
  | .writeRangeCommitted start data invalid => do
    Channel.writeRangeCommitted start data invalid
    return .done

end ChannelStep

namespace Drill

def new (field : Field) (rng : ByteStream) (keys : KeyPair) (config : EngineConfig) : Drill :=
  ⟨⟨Rig.new field rng, []⟩, ⟨keys⟩, config, 0, none⟩

def rig (d : Drill) : Rig := d.queue.field

def setRig (d : Drill) (rig : Rig) : Drill := { d with queue := { d.queue with field := rig } }

def updateField (d : Drill) (f : Field → Field) : Drill :=
  d.setRig { d.rig with field := f d.rig.field }

/-- Starts a scan with the keys that are current. -/
def scan (d : Drill) (operation : Operation) : Result × Drill :=
  let id := d.nextId
  let d := { d with nextId := id + 1 }
  match operation.request d.config d.keys.current with
  | .error failure => (.scanned id (some (.error failure)), d)
  | .ok request =>
    let (done, queue) := d.queue.start id request
    (.scanned id (done.head?.map (·.result)), { d with queue })

/-- Runs an action on the tag in the field, which may draw random bytes. -/
def withTag (d : Drill) (act : Tag → ByteStream → Bytes × Tag × ByteStream) : Option Bytes × Drill :=
  match d.rig.field.tag with
  | none => (none, d)
  | some t =>
    let (answer, t, rng) := act t d.rig.rng
    (some answer, d.setRig { d.rig with field := { d.rig.field with tag := some t }, rng })

/-- The new tag with pages of the tag that it follows. -/
def copyPages (field : Field) (t : Tag) : Option (UInt8 × UInt8) → Tag
  | none => t
  | some (start, count) =>
    match field.tag with
    | none => t
    | some old => { t with memory := t.memory.setPages start (old.memory.pages start count) }

/-- Puts a new channel on the next link. With no tag in the field the old
channel stays. -/
def activate (d : Drill) : Result × Drill :=
  match (TagSource.activate none d.rig : Activation RigContact) with
  | .found uid c => (.activated uid, { d.setRig c.rig with channel := some (Channel.new uid c.link) })
  | .cancelled => (.activationFailed .cancelled, d)
  | .waiting _ => (.notActivated, d)

/-- Runs a command on the channel. -/
def command (d : Drill) (step : ChannelStep) : Result × Drill :=
  match d.channel with
  | none => (.nothing, d)
  | some c =>
    let contact : Channel RigContact := ⟨⟨d.rig, c.link⟩, c.uid, c.session, c.verify⟩
    let (result, c) : Except TagError ChannelValue × Channel RigContact :=
      match step.run contact with
      | .ok value c => (.ok value, c)
      | .error e c => (.error e, c)
    (.channel result (c.session.map (·.slot)) c.link.link.sent,
     { d.setRig c.link.rig with channel := some ⟨c.link.link, c.uid, c.session, c.verify⟩ })

/-- Performs a step. -/
def perform (d : Drill) : Step → Result × Drill
  | .scan operation => d.scan operation
  | .poll =>
    let (done, queue) := d.queue.poll
    (.polled done (queue.pending.map (·.id)), { d with queue })
  | .drop id =>
    let queue := d.queue.drop id
    (.dropped (d.queue.pending.length - queue.pending.length), { d with queue })
  | .cancel => (.done, { d with queue := d.queue.cancel })
  | .updateKeys update =>
    let (result, keys) := d.keys.apply update
    (.keys result keys.current, { d with keys })
  | .present tag copied =>
    (.presence true, d.updateField fun f => f.present (copyPages f tag copied))
  | .remove =>
    let d := d.updateField Field.remove
    (.presence d.rig.field.isPresent, d)
  | .isPresent => (.presence d.rig.field.isPresent, d)
  | .disturb disturbances => (.done, d.setRig { d.rig with disturbances })
  | .script uid answers => (.done, d.setRig { d.rig with script := some (uid, answers) })
  | .inspect =>
    match d.rig.field.tag with
    | some t => (.tag t, d)
    | none => (.nothing, d)
  | .tagFrame frame =>
    let (answer, d) := d.withTag fun t rng => t.process frame rng
    (.answer answer, d)
  | .tagActivate =>
    let (answer, d) := d.withTag fun t rng => t.activate rng
    (.uid answer, d)
  | .page page => (.page ((d.rig.field.tag.bind (·.memory.page? page)).map (·.toBytes)), d)
  | .pages start count =>
    (.pages (d.rig.field.tag.map fun t => (t.memory.pages start count).flatMap (·.toBytes)), d)
  | .setPages start data =>
    (.written d.rig.field.isPresent, d.updateField fun f =>
      f.updateTag fun t => { t with memory := t.memory.setPages start (splitPages data) })
  | .activate => d.activate
  | .channel step => d.command step
  | .again count step => repeated step (.nothing, d) count
where
  /-- Performs a step `n` times, with a fresh journal each time. -/
  repeated (step : Step) (last : Result × Drill) : Nat → Result × Drill
    | 0 => last
    | n + 1 => repeated step (perform (last.2.setRig { last.2.rig with journal := [] }) step) n

/-- Performs a step and returns its result with what was written down, oldest
entry first. -/
def step (d : Drill) (s : Step) : Result × List Entry × Drill :=
  let (result, d) := (d.setRig { d.rig with journal := [] }).perform s
  (result, d.rig.journal.reverse, d)

/-- Performs all steps. -/
def run (d : Drill) : List Step → List (Result × List Entry)
  | [] => []
  | s :: rest =>
    let (result, entries, d) := d.step s
    (result, entries) :: run d rest

end Drill
end Bench
end Nearfield
