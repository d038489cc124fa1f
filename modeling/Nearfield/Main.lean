/-
# The program

Reads the arguments, the configuration file and the environment, performs the
run and prints its outcome.
-/
import Nearfield.Cli.Run

namespace Nearfield
namespace Cli

/-- The text of a file, if it can be read. -/
def readFile? (path : String) : IO (Option String) := do
  try
    return some (← IO.FS.readFile path)
  catch _ => return none

/-- The text of the file at a path, here or in the nearest of so many
directories above. -/
def readNearest? (path : String) : Nat → IO (Option String)
  | 0 => readFile? path
  | above + 1 => do
    match ← readFile? path with
    | some text => return some text
    | none => readNearest? ("../" ++ path) above

/-- The text of the configuration file. An absolute path is looked up as it
is. -/
def readConfiguration? (path : String) : IO (Option String) :=
  if path.startsWith "/" then readFile? path else readNearest? path 64

/-- A name and a value, around the first equals sign. -/
def splitVariable (entry : String) : String × String :=
  let cs := entry.toList
  (String.ofList (cs.takeWhile (· ≠ '=')), String.ofList ((cs.dropWhile (· ≠ '=')).drop 1))

/-- The environment of this program, as the system keeps it. -/
def environment : IO (List (String × String)) := do
  let entries := ((← readFile? "/proc/self/environ").getD "").splitOn "\x00"
  return (entries.filter (· ≠ "")).map splitVariable

/-- Bytes from the system, enough for any run. -/
def randomSource : IO ByteStream := do
  return ⟨(← IO.getRandomBytes 4096).toList, 0⟩

def outcome (arguments : List String) (terminal : Bool) : IO Outcome := do
  match Invocation.ofArguments arguments with
  | .error stop => return stop.outcome
  | .ok invocation =>
    let environment ← environment
    let file ← readConfiguration? invocation.options.configPath
    return run terminal invocation file environment (← randomSource)

end Cli
end Nearfield

def main (arguments : List String) : IO UInt32 := do
  let stdout ← IO.getStdout
  let outcome ← Nearfield.Cli.outcome arguments (← stdout.isTty)
  stdout.putStr outcome.stdout
  stdout.flush
  (← IO.getStderr).putStr outcome.stderr
  return outcome.code.toUInt32
