/-
# Filters of log lines

Which log lines are written is said by directives with commas between them: a
level, or a target with a level of its own behind an equals sign. A span in
brackets may stand behind the target, with one of its fields in braces. A
directive that cannot be read is ignored, with a line that tells why.

Not covered: the log lines themselves.

Key definitions: `Filter.Fault`, `Filter.check`, `Filter.complaints`.
-/
import Nearfield.Log.Pattern.Support
import Nearfield.Text.Blank
import Nearfield.Text.Utf8

namespace Nearfield
namespace Log
namespace Filter

open Text

/-- Why a directive is ignored. -/
inductive Fault where
  | form
  | level
  | field (fault : Pattern.Fault)
  deriving DecidableEq, Repr

def Fault.message : Fault → String
  | .form => "invalid filter directive"
  | .level =>
    "error parsing level filter: expected one of \"off\", \"error\", \"warn\", \"info\", "
      ++ "\"debug\", \"trace\", or a number 0-5"
  | .field fault => "invalid field filter: " ++ fault.message

/-! ### Levels and fields -/

/-- Levels have names, in any case, and numbers; no text is a level too. -/
def isLevel (cs : List Char) : Bool :=
  let number : Reader Unit := do
    discard (Reader.optional (Reader.char '+'))
    guard (Decimal.value (← Reader.takeSome Decimal.isDigit) ≤ 5)
  let text := String.ofList (cs.map Char.toLower)
  ["", "off", "error", "warn", "info", "debug", "trace"].contains text
    || (number.all? text).isSome

/-- Whether a value is a number; those that are not finite have words, in any
case. -/
def isNumber (value : String) : Bool :=
  let word : Reader Unit := do
    discard Decimal.sign
    let cs ← Reader.takeWhile fun _ => true
    guard (["inf", "infinity", "nan"].contains (String.ofList (cs.map Char.toLower)))
  (word.all? value).isSome || (Decimal.floating.all? value).isSome

/-- A field has a name, and perhaps a value: a number or a pattern. What follows
a second equals sign does not count. -/
def checkField (cs : List Char) : Except Fault Unit :=
  if cs.isEmpty then .error .form
  else
    match cs.dropWhile (· ≠ '=') with
    | [] => .ok ()
    | _ :: rest =>
      let value := String.ofList (rest.takeWhile (· ≠ '='))
      if isNumber value then .ok () else (Pattern.check value).mapError .field

/-! ### Directives -/

/-- Where in a directive a character stands. Fields and levels remember the byte
they begin at. -/
inductive State where
  | start
  /-- In a level or a target. -/
  | name
  | span
  | field (start : Nat)
  /-- Behind the fields of a span. -/
  | fields
  /-- Behind a span. -/
  | target
  | level (start : Nat)
  deriving DecidableEq, Repr

/-- The part of a directive between two bytes. -/
def window (cs : List Char) (start stop : Nat) : List Char :=
  takeBytes (stop - start) (dropBytes start cs)

/-- The state behind a character at a byte. -/
def step (directive : List Char) (position : Nat) (c : Char) : State → Except Fault State
  | .start =>
    if c = '[' then .ok .span
    else if ['-', ':', '_'].contains c || isAlphanumeric c then .ok .name
    else .error .form
  | .name =>
    if c = '=' then .ok (.level (position + 1))
    else if c = '[' then .ok .span
    else .ok .name
  | .span =>
    if c = ']' then .ok .target
    else if c = '\x7b' then .ok (.field (position + 1))
    else .ok .span
  | .field start =>
    if c = '\x7d' then do
      checkField (window directive start position)
      return .fields
    else .ok (.field start)
  | .fields => if c = ']' then .ok .target else .error .form
  | .target => if c = '=' then .ok (.level (position + 1)) else .error .form
  | .level start => .ok (.level start)

/-- Whether a directive may end in a state. -/
def finish (directive : List Char) : State → Except Fault Unit
  | .name | .target => .ok ()
  | .level start => if isLevel (dropBytes start directive) then .ok () else .error .level
  | _ => .error .form

/-- Goes over characters from a byte on. -/
def walk (directive : List Char) : Nat → State → List Char → Except Fault Unit
  | _, s, [] => finish directive s
  | position, s, c :: rest => do
    walk directive (position + c.utf8Size) (← step directive position c s) rest

/-- Whether a directive can be read. Blanks around it are passed over, but
fields and levels are taken out as if there were none in front. -/
def check (directive : String) : Except Fault Unit :=
  walk directive.toList 0 .start (trimChars directive.toList)

/-- The lines that tell which directives are ignored. -/
def complaints (filter : String) : String :=
  String.join ((filter.splitOn ",").map fun directive =>
    match check directive with
    | .ok () => ""
    | .error fault =>
      if directive = "" then ""
      else "ignoring `" ++ directive ++ "`: " ++ fault.message ++ "\n")

end Filter
end Log
end Nearfield
