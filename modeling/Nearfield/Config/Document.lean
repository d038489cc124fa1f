/-
# Documents

The common form of configuration values, whatever notation they were written
in. Records are read from groups, field by field: unknown members are skipped,
and a field that occurs twice is refused. A record may also be given as the
list of its fields in order.

Key definitions: `Document`, `Document.merge`, `Document.fields?`,
`Document.isReadable`.
-/

namespace Nearfield
namespace Config

inductive Document where
  /-- Explicitly no value. -/
  | absent
  | flag (value : Bool)
  /-- A number. Nothing is configured by numbers, but a choice can be given by
  its index, where the notation marks a number as one. -/
  | number (index : Option Nat)
  | text (value : String)
  | list (items : List Document)
  | group (members : List (String × Document))
  /-- Can be skipped, but not used: a number out of range, text with half of a
  surrogate pair, or too many levels. -/
  | unreadable
  deriving Inhabited

namespace Document

def empty : Document := .group []

/-! ### Layers -/

/-- The members with one of them replaced, or added at the end. -/
def set (key : String) (value : Document) :
    List (String × Document) → List (String × Document)
  | [] => [(key, value)]
  | (k, v) :: rest => if k = key then (key, value) :: rest else (k, v) :: set key value rest

mutual

/-- The upper document over the lower one: groups are merged member by member,
anything else is replaced. -/
def merge (lower : Document) : Document → Document
  | .group upper =>
    match lower with
    | .group members => .group (mergeMembers members upper)
    | _ => .group upper
  | upper => upper

/-- Puts members over others, one after the other. -/
def mergeMembers (lower : List (String × Document)) :
    List (String × Document) → List (String × Document)
  | [] => lower
  | (key, value) :: rest =>
    let merged :=
      match lower.lookup key with
      | some old => merge old value
      | none => value
    mergeMembers (set key merged lower) rest

end

/-! ### Records -/

/-- The one member of this name, if there is one; more than one are refused. -/
def member? (members : List (String × Document)) (name : String) : Option (Option Document) :=
  match members.filter fun m => m.1 = name with
  | [] => some none
  | [(_, value)] => some (some value)
  | _ => none

/-- The fields of a record, each with its value if there is one. A list may end
early; with `exact` it may not go on after the last field. -/
def fields? (exact : Bool) (names : List String) : Document → Option (List (Option Document))
  | .group members => names.mapM (member? members)
  | .list items =>
    if exact ∧ items.length > names.length then none
    else some ((List.range names.length).map fun n => items[n]?)
  | _ => none

mutual

/-- Whether every part can be used. -/
def isReadable : Document → Bool
  | .list items => areReadable items
  | .group members => membersAreReadable members
  | .unreadable => false
  | _ => true

def areReadable : List Document → Bool
  | [] => true
  | d :: rest => d.isReadable && areReadable rest

def membersAreReadable : List (String × Document) → Bool
  | [] => true
  | (_, d) :: rest => d.isReadable && membersAreReadable rest

end

def flag? : Document → Option Bool
  | .flag value => some value
  | _ => none

def text? : Document → Option String
  | .text value => some value
  | _ => none

/-- A text that may be explicitly absent. -/
def optionalText? : Document → Option (Option String)
  | .absent => some none
  | .text value => some (some value)
  | _ => none

end Document
end Config
end Nearfield
