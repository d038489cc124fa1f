/-
# The command line

Options come first, then a command, then what belongs to the command. An option
has a long name and perhaps a letter; letters can be written together, and the
last of them may have its value attached. A value follows its option as the
next argument, or behind an equals sign; one that looks like an option is not
taken. Two dashes end the options. Arguments are looked at in their order, so
the first fault, or the first question for help or the version, decides; but a
value that stands alone right in front of the command is looked at after it.

Key definitions: `Options`, `Command`, `Topic`, `Stop`, `Invocation`,
`Invocation.ofArguments`.
-/
import Nearfield.Config.Settings

namespace Nearfield
namespace Cli

/-- What can be switched or set. -/
inductive Switch where
  | verbose
  | config
  | key0
  | key1
  | model
  | uid
  | randomId
  | tagKey0
  | tagKey1
  | mode
  | text
  /-- Asks for help in short. -/
  | summary
  /-- Asks for help in full. -/
  | help
  | version
  deriving DecidableEq, Repr

namespace Switch

def long? : Switch → Option String
  | .verbose => some "verbose"
  | .config => some "config"
  | .key0 => some "key0"
  | .key1 => some "key1"
  | .model => some "model"
  | .uid => some "uid"
  | .randomId => some "random-id"
  | .tagKey0 => some "tag-key0"
  | .tagKey1 => some "tag-key1"
  | .mode => some "mode"
  | .text => some "text"
  | .summary => none
  | .help => some "help"
  | .version => some "version"

def letter? : Switch → Option Char
  | .verbose => some 'v'
  | .config => some 'c'
  | .mode => some 'm'
  | .summary => some 'h'
  | .version => some 'V'
  | _ => none

/-- Whether it has a value. -/
def isValued : Switch → Bool
  | .config | .key0 | .key1 | .model | .uid | .tagKey0 | .tagKey1 | .mode => true
  | _ => false

/-- Whether it is answered at once, whatever stands behind it. -/
def isQuestion : Switch → Bool
  | .summary | .help | .version => true
  | _ => false

/-- The switches in front of the command. -/
def leading : List Switch :=
  [.verbose, .config, .key0, .key1, .model, .uid, .randomId, .tagKey0, .tagKey1,
    .summary, .help, .version]

end Switch

/-! ### Arguments, one by one -/

/-- What an argument is. -/
inductive Piece where
  | operand
  /-- Ends the options. -/
  | terminator
  /-- Switches, the last of them perhaps with a value. -/
  | complete (flags : List Switch) (value : Option (Switch × String))
  /-- Switches, the last of which has its value in the next argument. -/
  | awaiting (flags : List Switch) (last : Switch)
  | refused

/-- Switches by their letters, one after the other. The rest behind a valued
one is its value, less an equals sign in front; the rest behind a question does
not count. -/
def cluster (known : List Switch) (flags : List Switch) : List Char → Piece
  | [] => .complete flags none
  | c :: rest =>
    match known.find? fun s => s.letter? = some c with
    | none => .refused
    | some s =>
      if s.isValued then
        match rest with
        | [] => .awaiting flags s
        | '=' :: value => .complete flags (some (s, String.ofList value))
        | value => .complete flags (some (s, String.ofList value))
      else if s.isQuestion then .complete (flags ++ [s]) none
      else cluster known (flags ++ [s]) rest

/-- A switch by its long name, with what follows the first equals sign. -/
def longSwitch (known : List Switch) (cs : List Char) : Piece :=
  let name := String.ofList (cs.takeWhile (· ≠ '='))
  match known.find? fun s => s.long? = some name, cs.dropWhile (· ≠ '=') with
  | none, _ => .refused
  | some s, [] => if s.isValued then .awaiting [] s else .complete [s] none
  | some s, _ :: value =>
    if s.isValued then .complete [] (some (s, String.ofList value)) else .refused

def piece (known : List Switch) (argument : String) : Piece :=
  match argument.toList with
  | ['-', '-'] => .terminator
  | '-' :: '-' :: cs => longSwitch known cs
  | '-' :: c :: cs => cluster known [] (c :: cs)
  | _ => .operand

/-- An argument as it counts. -/
inductive Given where
  | flag (s : Switch)
  | value (s : Switch) (text : String)
  | operands (texts : List String)
  | refused

/-- A value in an argument of its own, in front of what follows it. It is looked
at when the next switch is met, so operands that are last go first. -/
def settle (value : Given) : List Given → List Given
  | [.operands texts] => [.operands texts, value]
  | rest => value :: rest

/-- All arguments as they count. In front of a command the first operand takes
everything behind it along, and options cannot be ended. -/
def givens (known : List Switch) (leading : Bool) : List String → List Given
  | [] => []
  | argument :: rest =>
    match piece known argument with
    | .operand =>
      if leading then [.operands (argument :: rest)]
      else .operands [argument] :: givens known leading rest
    | .terminator => if leading then [.refused] else [.operands rest]
    | .complete flags value =>
      flags.map .flag ++ value.toList.map (fun v => .value v.1 v.2) ++ givens known leading rest
    | .awaiting flags s =>
      flags.map .flag ++
        match rest with
        | [] => [.refused]
        | text :: rest =>
          match piece [] text with
          | .operand => settle (.value s text) (givens known leading rest)
          | _ => [.refused]
    | .refused => [.refused]

/-- What help is about. -/
inductive Topic where
  | program
  | read
  | write
  | test
  | roundtrip
  | help
  deriving DecidableEq, Repr

/-- Why there is nothing to run. -/
inductive Stop where
  | usage
  /-- Help was asked for, in full or in short. -/
  | help (topic : Topic) (full : Bool)
  | version
  deriving DecidableEq, Repr

/-- Goes through the arguments in order. Each switch may be given once. Help is
about the topic. -/
def collect {α : Type} (topic : Topic) (set : α → Switch → Option String → Option α)
    (place : α → List String → Except Stop α) :
    List Switch → α → List Given → Except Stop α
  | _, a, [] => .ok a
  | seen, a, g :: rest =>
    let once (s : Switch) (value : Option String) : Except Stop α :=
      if s ∈ seen then .error .usage
      else
        match set a s value with
        | some a => collect topic set place (s :: seen) a rest
        | none => .error .usage
    match g with
    | .flag .summary => .error (.help topic false)
    | .flag .help => .error (.help topic true)
    | .flag .version => .error .version
    | .flag s => once s none
    | .value s text => once s (some text)
    | .operands texts =>
      match place a texts with
      | .ok a => collect topic set place seen a rest
      | .error stop => .error stop
    | .refused => .error .usage

/-! ### Options -/

/-- The options in front of the command. -/
structure Options where
  verbose : Bool
  config : Option String
  key0 : Option String
  key1 : Option String
  model : Option Product
  uid : Option String
  randomId : Bool
  tagKey0 : Option String
  tagKey1 : Option String
  deriving DecidableEq, Repr

def Options.none : Options := ⟨false, .none, .none, .none, .none, .none, false, .none, .none⟩

/-- The name of a product on the command line. -/
def modelName : Product → String
  | .ultralightAes => "ultralight-aes"
  | .ultralightEv1 => "ultralight-ev1"
  | .ntag215 => "ntag215"

/-- Sets one option. A path may not be empty. -/
def Options.set (o : Options) : Switch → Option String → Option Options
  | .verbose, _ => some { o with verbose := true }
  | .randomId, _ => some { o with randomId := true }
  | .config, some path => if path = "" then .none else some { o with config := path }
  | .key0, some text => some { o with key0 := text }
  | .key1, some text => some { o with key1 := text }
  | .model, some name => (Product.ofName? modelName name).map fun m => { o with model := m }
  | .uid, some text => some { o with uid := text }
  | .tagKey0, some text => some { o with tagKey0 := text }
  | .tagKey1, some text => some { o with tagKey1 := text }
  | _, _ => .none

/-- The host's keys come in a pair. -/
def Options.isConsistent (o : Options) : Bool := o.key0.isSome == o.key1.isSome

/-! ### Commands -/

inductive Command where
  /-- Reads in this mode, or in the configured one. -/
  | read (mode : Option ReadMode)
  /-- Writes a payload, given as text or in hexadecimal digits. -/
  | write (data : String) (isText : Bool)
  | test
  /-- Writes a payload and reads it back. -/
  | roundtrip (data : String) (isText : Bool)
  deriving DecidableEq, Repr

def modeOfName? : String → Option ReadMode
  | "fast" => some .fast
  | "full" => some .secure
  | "full-noauth" => some (.full false false)
  | "full-nocmac" => some (.full true false)
  | _ => none

/-- What a command was given. -/
structure CommandArguments where
  mode : Option ReadMode
  isText : Bool
  operands : List String

def CommandArguments.set (a : CommandArguments) :
    Switch → Option String → Option CommandArguments
  | .mode, some name => (modeOfName? name).map fun m => { a with mode := some m }
  | .text, _ => some { a with isText := true }
  | _, _ => none

/-- Adds operands, up to a number. -/
def CommandArguments.place (most : Nat) (a : CommandArguments) (texts : List String) :
    Except Stop CommandArguments :=
  if a.operands.length + texts.length ≤ most then .ok { a with operands := a.operands ++ texts }
  else .error .usage

/-- Reads what stands behind a command that has these switches and exactly so
many operands. -/
def commandArguments (topic : Topic) (known : List Switch) (operands : Nat)
    (arguments : List String) : Except Stop CommandArguments := do
  let a ← collect topic CommandArguments.set (CommandArguments.place operands) []
    ⟨none, false, []⟩ (givens (.summary :: .help :: known) false arguments)
  if a.operands.length = operands then return a else throw .usage

/-- The command of this name. -/
def Topic.ofName? : String → Option Topic
  | "read" => some .read
  | "write" => some .write
  | "test" => some .test
  | "roundtrip" => some .roundtrip
  | "help" => some .help
  | _ => none

/-- Help on the command that is named, or on the program. -/
def helpOn : List String → Stop
  | [] => .help .program true
  | [name] =>
    match Topic.ofName? name with
    | some topic => .help topic true
    | none => .usage
  | _ => .usage

def Command.ofArguments (name : String) (arguments : List String) : Except Stop Command := do
  match Topic.ofName? name with
  | some .read => return .read (← commandArguments .read [.mode] 0 arguments).mode
  | some .write =>
    let a ← commandArguments .write [.text] 1 arguments
    return .write (a.operands.headD "") a.isText
  | some .test =>
    discard (commandArguments .test [] 0 arguments)
    return .test
  | some .roundtrip =>
    let a ← commandArguments .roundtrip [.text] 1 arguments
    return .roundtrip (a.operands.headD "") a.isText
  | some .help => throw (helpOn arguments)
  | some .program | none => throw .usage

/-! ### The whole line -/

structure Invocation where
  options : Options
  command : Command
  deriving DecidableEq, Repr

/-- What has been read of the line: the options, and the command behind them. -/
structure Line where
  options : Options
  command : Option Command

def Line.set (l : Line) (s : Switch) (value : Option String) : Option Line :=
  (l.options.set s value).map fun o => { l with options := o }

/-- Reads the command, with everything behind it. -/
def Line.place (l : Line) : List String → Except Stop Line
  | [] => .error .usage
  | name :: arguments => return { l with command := ← Command.ofArguments name arguments }

/-- Reads the arguments behind the program's name. -/
def Invocation.ofArguments (arguments : List String) : Except Stop Invocation := do
  let line ← collect .program Line.set Line.place [] ⟨.none, none⟩
    (givens Switch.leading true arguments)
  match line.command with
  | some command =>
    if line.options.isConsistent then return ⟨line.options, command⟩ else throw .usage
  | none => throw .usage

end Cli
end Nearfield
