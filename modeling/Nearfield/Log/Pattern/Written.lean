/-
# How patterns are written

The notation of regular expressions, with names and flags for groups, set
operators in brackets, and a mode in which blanks and comments do not count. A
pattern stands in a field, so it holds no closing brace, and whatever is written
with an opening one is refused: counts, code points of any length and special
edges of words. There are no references back, no look around and no properties of
characters.

Key definitions: `Pattern.read?`, `Pattern.body`, `CharSet.body`.
-/
import Nearfield.Log.Pattern
import Nearfield.Text.Alphanumeric
import Nearfield.Text.Blank
import Nearfield.Text.Escape

namespace Nearfield
namespace Log

open Text

/-! ### Blanks and comments -/

/-- Drops blanks and comments, which go on to the end of their line. -/
def dropBlanks (inComment : Bool) : List Char → List Char
  | [] => []
  | c :: rest =>
    if inComment then dropBlanks (c ≠ '\n') rest
    else if isBlank c then dropBlanks false rest
    else if c = '#' then dropBlanks true rest
    else c :: rest

/-- Passes over blanks and comments, if they do not count. -/
def blanks (spaced : Bool) : Reader Unit :=
  if spaced then modify (dropBlanks false) else return ()

/-- The character to expect in front of what follows: blanks are passed over if
they do not count, but of a comment only the sign that begins it. -/
def expected (spaced : Bool) (following : List Char) : Option Char :=
  if spaced then
    match following.filter fun c => !isBlank c with
    | '#' :: rest => rest.head?
    | rest => rest.head?
  else following.head?

/-! ### Symbols -/

namespace Symbol

/-- A character that stands for itself. -/
def plain (c : Char) : Symbol := .literal ⟨c, false⟩

/-- The characters of the controls that have letters of their own. -/
def control? : Char → Option Char
  | 'a' => some '\x07'
  | 'f' => some '\x0c'
  | 't' => some '\t'
  | 'n' => some '\n'
  | 'r' => some '\r'
  | 'v' => some '\x0b'
  | _ => none

/-- The character of a code point in exactly so many digits, with blanks in front
of each. -/
def codePoint (spaced : Bool) (digits : Nat) : Reader Char := do
  let digit : Reader Char := do
    blanks spaced
    Reader.satisfy Escape.isHexDigit
  let n := Decimal.valueIn 16 (← Reader.exactly digit digits)
  guard (!Escape.isSurrogate n && n < 0x110000)
  return Char.ofNat n

/-- What stands behind a backslash. Other characters of ASCII than letters and
digits stand for themselves. -/
def escaped (spaced : Bool) : Reader Symbol := do
  let c ← Reader.next
  if c = 'x' then return .literal ⟨← codePoint spaced 2, true⟩
  else if c = 'u' then return plain (← codePoint spaced 4)
  else if c = 'U' then return plain (← codePoint spaced 8)
  else if "dsw".toList.contains c then return .kind false
  else if "DSW".toList.contains c then return .kind true
  else if c = 'A' || c = 'z' then return .textEdge
  else if "bB<>".toList.contains c then return .wordEdge
  else
    match control? c with
    | some control => return plain control
    | none =>
      guard (c.toNat < 128 && !c.isAlphanum)
      return plain c

/-- A symbol outside of sets. -/
def read (spaced : Bool) : Reader Symbol := do
  let c ← Reader.next
  if c = '\\' then escaped spaced
  else if c = '.' then return .any
  else if c = '^' || c = '$' then return .textEdge
  else return plain c

/-- A symbol in a set. -/
def readInSet (spaced : Bool) : Reader Symbol := do
  let c ← Reader.next
  if c = '\\' then escaped spaced else return plain c

end Symbol

/-! ### Sets of characters -/

namespace CharSet

/-- The names of sets of ASCII. -/
def setNames : List String :=
  ["alnum", "alpha", "ascii", "blank", "cntrl", "digit", "graph", "lower", "print", "punct",
    "space", "upper", "word", "xdigit"]

/-- A set of ASCII by its name. -/
def namedSet : Reader CharSet := do
  Reader.chars ['[', ':']
  let caret ← Reader.optional (Reader.char '^')
  let name ← Reader.takeSome Char.isAlpha
  guard (setNames.contains (String.ofList name))
  Reader.chars [':', ']']
  return .named caret.isSome

/-- The beginning of a set: whether it is negated, and its first members. Hyphens
stand for themselves there, or else a closing bracket. -/
def opening (spaced : Bool) : Reader (Bool × List CharSet) := do
  let sign (c : Char) : Reader CharSet := do
    Reader.char c
    blanks spaced
    return .literal ⟨c, false⟩
  discard (sign '[')
  let caret ← Reader.optional (sign '^')
  let hyphens ← Reader.many (sign '-')
  if hyphens.isEmpty then
    return (caret.isSome, (← Reader.optional (sign ']')).toList)
  else return (caret.isSome, hyphens)

/-- The sign between two sets that are combined: the same character twice. -/
def operator : Reader Unit :=
  Reader.chars ['&', '&'] <|> Reader.chars ['-', '-'] <|> Reader.chars ['~', '~']

/-- A hyphen that makes a range: it is in front of neither the end of the set nor
another hyphen. -/
def rangeHyphen (spaced : Bool) : Reader Unit := do
  blanks spaced
  Reader.char '-'
  let next := expected spaced (← get)
  guard (next ≠ some ']' ∧ next ≠ some '-')
  blanks spaced

/-- A member of a set: a symbol, or a range of characters in order. -/
def member (spaced : Bool) : Reader CharSet := do
  let first ← Symbol.readInSet spaced
  match ← Reader.optional (rangeHyphen spaced), first with
  | some (), .literal low =>
    match ← Symbol.readInSet spaced with
    | .literal high =>
      guard (low.char ≤ high.char)
      return .range low high
    | _ => failure
  | none, .literal l => return .literal l
  | none, .kind negated => return .kind negated
  | _, _ => failure

/-- A set as an operand, its members last first. What stands to the left of it is
combined with it. -/
def operand (left : Option CharSet) (members : List CharSet) : CharSet :=
  let right := ofMembers members.reverse
  match left with
  | some left => .combined left right
  | none => right

/-- The rest of a set up to its closing bracket, behind what stands to the left
of an operator and behind members, the last of them first. The fuel bounds the
characters left. -/
def body (spaced : Bool) : Nat → Option CharSet → List CharSet → Reader CharSet
  | 0, _, _ => failure
  | fuel + 1, left, members => do
    blanks spaced
    match ← Reader.peek? with
    | some ']' =>
      Reader.char ']'
      return operand left members
    | some '[' =>
      match ← Reader.optional namedSet with
      | some s => body spaced fuel left (s :: members)
      | none =>
        let (negated, first) ← opening spaced
        let inner ← body spaced fuel none first.reverse
        body spaced fuel left (.bracketed negated inner :: members)
    | _ =>
      match ← Reader.optional operator with
      | some () => body spaced fuel (some (operand left members)) []
      | none => body spaced fuel left ((← member spaced) :: members)

/-- A set of characters in brackets. -/
def read (spaced : Bool) : Reader CharSet := do
  let (negated, first) ← opening spaced
  return .bracketed negated (← body spaced ((← get).length + 1) none first.reverse)

end CharSet

/-! ### Groups -/

/-- Flags by their letters, each at most once; those behind a hyphen are taken
back. -/
def Flags.ofLetters? (letters : List Char) : Option Flags := do
  guard (letters.all "imsUuRx-".toList.contains && letters.eraseDups = letters)
  guard (letters.getLast? ≠ some '-')
  let state (c : Char) : Option Bool :=
    if letters.contains c then some ((letters.takeWhile (· ≠ '-')).contains c) else none
  return ⟨state 'i', state 'u', state 'x'⟩

namespace Pattern

/-- The name of a group: a letter or an underscore first. -/
def groupName : Reader String := do
  let name ← Reader.takeSome (· ≠ '>')
  Reader.char '>'
  guard (name.all fun c => isAlphanumeric c || ['_', '.', '[', ']'].contains c)
  guard ((name.take 1).all fun c => isAlphabetic c || c = '_')
  return String.ofList name

/-- What an opening parenthesis begins. -/
inductive Opening where
  | group (name : Option String) (f : Flags)
  /-- Flags for what follows, closed at once. -/
  | flags (f : Flags)

def opening (spaced : Bool) : Reader Opening := do
  Reader.char '('
  blanks spaced
  let named : Reader Opening := do
    Reader.chars ['?', 'P', '<'] <|> Reader.chars ['?', '<']
    return .group (some (← groupName)) .unchanged
  let flagged : Reader Opening := do
    Reader.char '?'
    let letters ← Reader.takeWhile fun c => c ≠ ':' && c ≠ ')'
    let flags ← liftM (Flags.ofLetters? letters)
    if (← Reader.next) = ':' then return .group none flags
    guard !letters.isEmpty
    return .flags flags
  if (← Reader.peek?) = some '?' then named <|> flagged else return .group none .unchanged

/-! ### Patterns -/

/-- The parts of a branch, last first, with the last of them repeated. -/
def repeatLast : List Pattern → Option (List Pattern)
  | [] | .flags _ :: _ => none
  | p :: rest => some (.repeated p :: rest)

/-- The rest of a pattern up to the end of its group, behind branches and parts
of a branch, each the last first. The fuel bounds the characters left. -/
def body : Nat → Bool → List Pattern → List Pattern → Reader Pattern
  | 0, _, _, _ => failure
  | fuel + 1, spaced, branches, parts => do
    blanks spaced
    let branch := ofParts parts.reverse
    match ← Reader.peek? with
    | none | some ')' => return ofBranches (branch :: branches).reverse
    | some '|' =>
      Reader.char '|'
      body fuel spaced (branch :: branches) []
    | some '(' =>
      match ← opening spaced with
      | .flags f => body fuel (f.spaced.getD spaced) branches (.flags f :: parts)
      | .group name f =>
        let inner ← body fuel (f.spaced.getD spaced) [] []
        Reader.char ')'
        body fuel spaced branches (.group name f inner :: parts)
    | some '[' => body fuel spaced branches (.set (← CharSet.read spaced) :: parts)
    | some '\x7b' => failure
    | some c =>
      if c = '?' || c = '*' || c = '+' then
        Reader.char c
        discard (Reader.optional (Reader.char '?'))
        body fuel spaced branches (← liftM (repeatLast parts))
      else body fuel spaced branches (.symbol (← Symbol.read spaced) :: parts)

/-- The pattern of a text. -/
def read? (text : String) : Option Pattern :=
  (body (text.length + 1) false [] []).all? text

end Pattern
end Log
end Nearfield
