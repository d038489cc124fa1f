/-
# Environment variables

Variables whose names begin with the mark of the program are settings. The rest
of the name, in lower case, is the path to the value: two underscores or a dot
stand between the steps, and a name with an empty step is no setting. Case and
blanks around do not count, so two variables can mean the same setting; the
later name wins.

Key definitions: `Variables.path?`, `Variables.document`.
-/
import Nearfield.Config.Inline

namespace Nearfield
namespace Config
namespace Variables

open Text

/-- What the names begin with, in lower case. -/
def mark : List Char := ['c', 'h', 'i', 'p', 's', 'c', 'a', 'n', '_']

/-- The characters with pairs of underscores replaced by dots, from the
front. -/
def dotted : List Char → List Char
  | '_' :: '_' :: rest => '.' :: dotted rest
  | c :: rest => c :: dotted rest
  | [] => []

/-- The characters between dots. -/
def steps : List Char → List (List Char)
  | [] => [[]]
  | '.' :: rest => [] :: steps rest
  | c :: rest =>
    match steps rest with
    | first :: more => (c :: first) :: more
    | [] => [[c]]

/-- The path that a name stands for, if it is a setting. -/
def path? (name : String) : Option (List String) := do
  let lower := (trim name).toList.map Char.toLower
  guard (mark.isPrefixOf lower)
  let rest := trim (String.ofList (lower.drop mark.length))
  let path := (steps (dotted rest.toList)).map String.ofList
  guard (path.all (· ≠ ""))
  return path

/-- The value at the end of a path. -/
def nest : List String → Document → Document
  | [], value => value
  | step :: rest, value => .group [(step, nest rest value)]

/-- What one variable says: nothing, if it is no setting. -/
def layer (name value : String) : Document :=
  match path? name with
  | some path => nest path (Inline.read value)
  | none => .empty

/-- What all variables say, in the order of their names. -/
def document (environment : List (String × String)) : Document :=
  let sorted := environment.mergeSort fun a b => decide (a.1 ≤ b.1)
  sorted.foldl (fun d v => d.merge (layer v.1 v.2)) .empty

end Variables
end Config
end Nearfield
