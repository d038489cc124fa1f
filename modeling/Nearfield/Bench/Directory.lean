/-
# Files by their paths

A directory given as names with texts. A path names a file of the directory if
it leads to the file's name: steps that stay where they are do not count, and a
step upwards takes back the one before, if that led to a directory. No file is
known outside.

Key definition: `Directory.text?`.
-/

namespace Nearfield
namespace Bench

/-- The names of files with their texts. -/
abbrev Directory := List (String × String)

namespace Directory

/-- The steps of a path that lead somewhere. An absolute path begins with an
empty step, which counts. -/
def steps (path : String) : List String :=
  match path.splitOn "/" with
  | first :: rest => (if first = "." then [] else [first]) ++ rest.filter fun s => s ≠ "" ∧ s ≠ "."
  | [] => []

/-- Whether the path can only be that of a directory. -/
def endsOpen (path : String) : Bool :=
  match (path.splitOn "/").getLast? with
  | some last => last = "" || last = "."
  | none => true

/-- Whether these steps lead to a directory inside: there is a file below. -/
def isInner (d : Directory) (here : List String) : Bool :=
  !here.isEmpty && List.any d fun file =>
    here.isPrefixOf (steps file.1) && here.length < (steps file.1).length

/-- Where steps lead from here, with the steps upwards taken. -/
def follow? (d : Directory) (here : List String) : List String → Option (List String)
  | [] => some here
  | ".." :: rest => if d.isInner here then follow? d here.dropLast rest else none
  | step :: rest => follow? d (here ++ [step]) rest

/-- The text of the file at a path. -/
def text? (d : Directory) (path : String) : Option String := do
  guard !(endsOpen path)
  let place ← d.follow? [] (steps path)
  let file ← List.find? (fun file => steps file.1 = place) d
  return file.2

end Directory
end Bench
end Nearfield
