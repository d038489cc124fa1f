/-
# What a run prints

Messages with a sign in front, and summaries of scanned tags. With colours on,
parts of the text are wrapped in terminal codes; a text that resets the
terminal by itself gets its codes again behind the reset.

Key definitions: `Report.colorsOn`, `Report.paint`, `Report.success`, `Report.warning`,
`Report.tagSummary`.
-/
import Nearfield.Scan
import Nearfield.Text.Shown

namespace Nearfield
namespace Cli
namespace Report

/-- Terminal codes. -/
inductive Style where
  | bold
  | dimmed
  | underlined
  | green
  | yellow
  deriving DecidableEq, Repr

def Style.code : Style → String
  | .bold => "1"
  | .dimmed => "2"
  | .underlined => "4"
  | .green => "32"
  | .yellow => "33"

/-- Whether colours are on: by default on a terminal only. The environment can
force them, or else forbid them; the value `0` counts as not asking. -/
def colorsOn (terminal : Bool) (environment : List (String × String)) : Bool :=
  let asks (name : String) : Option Bool := (environment.lookup name).map (· ≠ "0")
  if asks "CLICOLOR_FORCE" = some true then true
  else if (asks "NO_COLOR").isSome then false
  else terminal && asks "CLICOLOR" ≠ some false

/-- Ends all styles. -/
def reset : String := "\x1b[0m"

/-- Begins styles. -/
def start (styles : List Style) : String :=
  "\x1b[" ++ ";".intercalate (styles.map Style.code) ++ "m"

/-- The text in these styles, if colours are on. -/
def paint (color : Bool) (styles : List Style) (text : String) : String :=
  if color then start styles ++ text.replace reset (reset ++ start styles) ++ reset else text

def success (color : Bool) (message : String) : String :=
  "✅ " ++ paint color [.bold, .green] message

def warning (color : Bool) (message : String) : String :=
  "⚠️  " ++ paint color [.bold, .yellow] message

/-- A title and lines of names with values. -/
def keyValueBox (color : Bool) (title : String) (items : List (String × String)) : String :=
  paint color [.bold, .underlined] title
    ++ String.join (items.map fun i => "\n  " ++ paint color [.bold] i.1 ++ ": " ++ i.2)

def protection (color : Bool) : Protection → String
  | .verified => paint color [.green] "verified"
  | .unprotected => paint color [.yellow] "unprotected"

/-- What was found in a tag's payload area. -/
def payloadItems (color : Bool) : Option Payload → List (String × String)
  | some payload =>
    [("Payload", Text.shown payload.data), ("Protection", protection color payload.protection)]
  | none => [("Payload", paint color [.dimmed] "none")]

def tagSummary (color : Bool) (tag : Finding) : String :=
  keyValueBox color "Tag" (("UID", Hex.encodeUpper tag.uid) :: payloadItems color tag.payload)

end Report
end Cli
end Nearfield
