/-
# Which patterns are supported

A pattern is turned into an automaton over bytes that never match a part of a
character. In Unicode mode patterns are about characters, but no tables are kept:
nothing is known of kinds of characters and of upper and lower case. Out of it
patterns are about bytes, and sets may hold ASCII only. The edges of words need
what the bytes around them are, so in Unicode mode they are refused, last of all.

Key definitions: `Pattern.Fault`, `Mode`, `Pattern.pass`, `Pattern.check`.
-/
import Nearfield.Log.Pattern.Written

namespace Nearfield
namespace Log

/-- How a part of a pattern is meant. -/
structure Mode where
  caseless : Bool
  unicode : Bool
  deriving DecidableEq, Repr

namespace Mode

def initial : Mode := ⟨false, true⟩

def apply (m : Mode) (f : Flags) : Mode := ⟨f.caseless.getD m.caseless, f.unicode.getD m.unicode⟩

/-- Whether characters are matched by tables that are not kept. -/
def foldsCase (m : Mode) : Bool := m.unicode && m.caseless

end Mode

def isAscii (c : Char) : Bool := c.toNat < 128

/-- Whether a symbol is supported; `edges` says whether all edges of words are. -/
def Symbol.isSupported (edges : Bool) (m : Mode) : Symbol → Bool
  | .literal l => !m.foldsCase && (m.unicode || !l.isByte || isAscii l.char)
  | .kind negated => !m.unicode && !negated
  | .any => m.unicode
  | .textEdge => true
  | .wordEdge => edges || !m.unicode

namespace CharSet

mutual

/-- Whether a set is supported. The complement of bytes of ASCII would match a
part of a character. -/
def isSupported (m : Mode) : CharSet → Bool
  | .empty => true
  | .literal l => !m.foldsCase && (m.unicode || isAscii l.char)
  | .range _ high => !m.foldsCase && (m.unicode || isAscii high.char)
  | .named negated => !m.foldsCase && (m.unicode || !negated)
  | .kind negated => !m.unicode && !negated
  | .bracketed negated s => (m.unicode || !negated) && s.isSupported m
  | .union ss => allSupported m ss
  | .combined l r => l.isSupported m && r.isSupported m

def allSupported (m : Mode) : List CharSet → Bool
  | [] => true
  | s :: rest => s.isSupported m && allSupported m rest

end

end CharSet

namespace Pattern

mutual

/-- Goes through a pattern in a mode and gives the mode behind it, if all parts
are supported. A group leaves the mode as it was. -/
def pass (edges : Bool) : Pattern → Mode → Option Mode
  | .empty, m => some m
  | .flags f, m => some (m.apply f)
  | .symbol s, m => if s.isSupported edges m then some m else none
  | .set s, m => if s.isSupported m then some m else none
  | .repeated p, m => p.pass edges m
  | .group _ f p, m => (p.pass edges (m.apply f)).map fun _ => m
  | .sequence ps, m => passAll edges ps m
  | .choice ps, m => passAll edges ps m

def passAll (edges : Bool) : List Pattern → Mode → Option Mode
  | [], m => some m
  | p :: rest, m => (p.pass edges m).bind (passAll edges rest)

end

/-- Why a pattern cannot be used. -/
inductive Fault where
  | malformed
  /-- It asks for the edge of a word. -/
  | wordEdge
  deriving DecidableEq, Repr

def Fault.message : Fault → String
  | .malformed => "error building NFA"
  | .wordEdge =>
    "unsupported regex feature for DFAs: cannot build DFAs for regexes with Unicode word "
      ++ "boundaries; switch to ASCII word boundaries, or heuristically enable Unicode word "
      ++ "boundaries or use a different regex engine"

/-- The deepest nesting that is taken. -/
def maxDepth : Nat := 250

/-- Whether all but the edges of words is in order. -/
def isSound (p : Pattern) : Bool :=
  p.depth ≤ maxDepth && p.names.eraseDups = p.names && (p.pass true .initial).isSome

/-- Whether the pattern of a text can be used. -/
def check (text : String) : Except Fault Unit :=
  match read? text with
  | some p =>
    if !p.isSound then .error .malformed
    else if (p.pass false .initial).isSome then .ok ()
    else .error .wordEdge
  | none => .error .malformed

end Pattern
end Log
end Nearfield
