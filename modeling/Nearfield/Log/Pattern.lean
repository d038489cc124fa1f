/-
# Patterns for the values of fields

A regular expression as it is written: symbols and sets of characters, in
sequence, as a choice, in groups and repeated. Flags change how what follows them
in their group is meant, across the branches of a choice.

Key definitions: `Pattern`, `CharSet`, `Symbol`, `Flags`, `Pattern.depth`,
`Pattern.names`.
-/

namespace Nearfield
namespace Log

/-- A character that stands for itself. -/
structure Literal where
  char : Char
  /-- Given by two hexadecimal digits: a byte, where patterns are about bytes. -/
  isByte : Bool
  deriving DecidableEq, Repr

/-- What stands for one character, or for a place between two. -/
inductive Symbol where
  | literal (l : Literal)
  /-- All digits, blanks or characters of words, or all but these. -/
  | kind (negated : Bool)
  | any
  /-- The start or the end of the text or of a line. -/
  | textEdge
  | wordEdge
  deriving DecidableEq, Repr

/-- A set of characters. -/
inductive CharSet where
  | empty
  | literal (l : Literal)
  | range (low high : Literal)
  /-- A set of ASCII that has a name. -/
  | named (negated : Bool)
  | kind (negated : Bool)
  | bracketed (negated : Bool) (s : CharSet)
  | union (members : List CharSet)
  /-- What two sets have in common, or in what they differ. -/
  | combined (left right : CharSet)

/-- What flags change, where they say something about it. -/
structure Flags where
  caseless : Option Bool
  /-- Patterns are about characters, and not about bytes. -/
  unicode : Option Bool
  /-- Blanks and comments do not count. -/
  spaced : Option Bool
  deriving DecidableEq, Repr

/-- No flags. -/
def Flags.unchanged : Flags := ⟨none, none, none⟩

/-- A regular expression. -/
inductive Pattern where
  | empty
  | flags (f : Flags)
  | symbol (s : Symbol)
  | set (s : CharSet)
  | repeated (p : Pattern)
  | group (name : Option String) (f : Flags) (p : Pattern)
  | sequence (parts : List Pattern)
  | choice (branches : List Pattern)

namespace CharSet

/-- The union of members; a single member is the union itself. -/
def ofMembers : List CharSet → CharSet
  | [] => .empty
  | [s] => s
  | ss => .union ss

mutual

/-- How deep brackets, unions and operators are nested. -/
def depth : CharSet → Nat
  | .bracketed _ s => s.depth + 1
  | .union ss => depthOfAll ss + 1
  | .combined l r => max l.depth r.depth + 1
  | _ => 0

def depthOfAll : List CharSet → Nat
  | [] => 0
  | s :: rest => max s.depth (depthOfAll rest)

end

end CharSet

namespace Pattern

/-- Parts in sequence; a single part is the sequence itself. -/
def ofParts : List Pattern → Pattern
  | [] => .empty
  | [p] => p
  | ps => .sequence ps

/-- A choice of branches; a single branch is the choice itself. -/
def ofBranches : List Pattern → Pattern
  | [] => .empty
  | [p] => p
  | ps => .choice ps

mutual

/-- How deep a pattern is nested. -/
def depth : Pattern → Nat
  | .set s => s.depth
  | .repeated p => p.depth + 1
  | .group _ _ p => p.depth + 1
  | .sequence ps => depthOfAll ps + 1
  | .choice ps => depthOfAll ps + 1
  | _ => 0

def depthOfAll : List Pattern → Nat
  | [] => 0
  | p :: rest => max p.depth (depthOfAll rest)

end

mutual

/-- The names of the groups, in order. -/
def names : Pattern → List String
  | .repeated p => p.names
  | .group name _ p => name.toList ++ p.names
  | .sequence ps => namesOfAll ps
  | .choice ps => namesOfAll ps
  | _ => []

def namesOfAll : List Pattern → List String
  | [] => []
  | p :: rest => p.names ++ namesOfAll rest

end

end Pattern
end Log
end Nearfield
