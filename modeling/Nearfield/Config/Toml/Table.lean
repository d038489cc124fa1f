/-
# Tables under construction

The statements of a TOML document build its tables step by step. Each table
remembers what made it, because nothing may be defined twice: a header defines
a table once, though tables that were only passed through on the way to another
header may still get their own; dotted keys extend tables that dotted keys
made; values, inline tables among them, are never extended.

Key definitions: `Node`, `Origin`, `Entries.define`, `Entries.append`,
`Entries.assign`.
-/
import Nearfield.Config.Document

namespace Nearfield
namespace Config
namespace Toml

/-- What made a table. -/
inductive Origin where
  /-- Its own header. -/
  | header
  /-- The header of a table inside. -/
  | passing
  /-- A dotted key. -/
  | dotted
  deriving DecidableEq

inductive Node where
  | value (d : Document)
  | table (origin : Origin) (entries : List (String × Node))
  /-- An array of tables, newest first. -/
  | tables (items : List (List (String × Node)))

/-- The names of a table with what they stand for. -/
abbrev Entries := List (String × Node)

/-- Names to follow. -/
abbrev Path := List String

mutual

/-- The finished value of a node. -/
def Node.toDocument : Node → Document
  | .value d => d
  | .table _ entries => .group (Entries.toMembers entries)
  | .tables items => .list (documents items).reverse

def Entries.toMembers : List (String × Node) → List (String × Document)
  | [] => []
  | (name, node) :: rest => (name, node.toDocument) :: Entries.toMembers rest

def documents : List (List (String × Node)) → List Document
  | [] => []
  | entries :: rest => .group (Entries.toMembers entries) :: documents rest

end

namespace Entries

/-- Changes what a name stands for, or adds the name. -/
def update (name : String) (change : Option Node → Option Node) : Entries → Option Entries
  | [] => (change none).map fun node => [(name, node)]
  | (n, node) :: rest =>
    if n = name then (change (some node)).map fun node => (n, node) :: rest
    else (update name change rest).map ((n, node) :: ·)

/-- Changes the table at the end of a path, given what made that table. New
tables on the way are made by `maker`. Dotted keys do not enter a table with a
header of its own; an array of tables is entered at its newest table. -/
def within (maker : Origin) (change : Origin → Entries → Option Entries) (origin : Origin) :
    Path → Entries → Option Entries
  | [], entries => change origin entries
  | name :: path, entries =>
    entries.update name fun
      | none => (within maker change maker path []).map (.table maker)
      | some (.value _) => none
      | some (.tables []) => none
      | some (.tables (newest :: older)) =>
        (within maker change .header path newest).map fun newest => .tables (newest :: older)
      | some (.table made inner) =>
        if maker = .dotted ∧ made = .header then none
        else (within maker change made path inner).map (.table made)

/-- A header defines the table at a path. -/
def define (path : Path) (name : String) (root : Entries) : Option Entries :=
  within .passing (fun _ entries => entries.update name fun
    | none => some (.table .header [])
    | some (.table .passing inner) => some (.table .header inner)
    | _ => none) .header path root

/-- A header adds a table to the array at a path. -/
def append (path : Path) (name : String) (root : Entries) : Option Entries :=
  within .passing (fun _ entries => entries.update name fun
    | none => some (.tables [[]])
    | some (.tables items) => some (.tables ([] :: items))
    | _ => none) .header path root

/-- A key gets a value, in the table of the header before it. The table that
dotted keys lead to must be made by dotted keys. -/
def assign (header : Path) (dots : Path) (name : String) (d : Document) (root : Entries) :
    Option Entries :=
  within .passing (fun _ table =>
    within .dotted (fun made entries =>
      if ¬dots.isEmpty ∧ made ≠ .dotted then none
      else entries.update name fun
        | none => some (.value d)
        | some _ => none) .header dots table) .header header root

end Entries
end Toml
end Config
end Nearfield
