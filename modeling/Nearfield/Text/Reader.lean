/-
# Reading a text from the front

A reader takes characters off the front of a text and gives a value, or
refuses. An alternative that refuses has taken nothing. A repetition ends where
its reader refuses, and makes at most as many rounds as there are characters.

Key definitions: `Reader`, `Reader.all?`, `Reader.many`, `Reader.listed`.
-/

namespace Nearfield
namespace Text

/-- Takes characters off the front of a text, or refuses. -/
abbrev Reader := StateT (List Char) Option

namespace Reader

variable {α : Type}

/-- The value of a whole text. -/
def all? (r : Reader α) (text : String) : Option α :=
  match r text.toList with
  | some (a, []) => some a
  | _ => none

/-- The next character, which stays. -/
def peek? : Reader (Option Char) := return (← get).head?

/-- The next character. -/
def next : Reader Char := fun
  | c :: rest => some (c, rest)
  | [] => none

/-- The next character, if it is in a class. -/
def satisfy (p : Char → Bool) : Reader Char := do
  let c ← next
  guard (p c)
  return c

/-- Exactly this character. -/
def char (c : Char) : Reader Unit := discard (satisfy (· == c))

/-- Exactly these characters. -/
def chars : List Char → Reader Unit
  | [] => return ()
  | c :: cs => do
    char c
    chars cs

/-- As many characters of a class as there are. -/
def takeWhile (p : Char → Bool) : Reader (List Char) :=
  modifyGet fun rest => (rest.takeWhile p, rest.dropWhile p)

/-- As many characters of a class as there are, but one at least. -/
def takeSome (p : Char → Bool) : Reader (List Char) := do
  let cs ← takeWhile p
  guard !cs.isEmpty
  return cs

/-- Nothing is left. -/
def atEnd : Reader Unit := do guard (← get).isEmpty

/-- The value, or nothing where the reader refuses. -/
def optional (r : Reader α) : Reader (Option α) := some <$> r <|> pure none

/-- At most so many rounds of a reader. -/
def atMost (r : Reader α) : Nat → Reader (List α)
  | 0 => return []
  | n + 1 => do
    match ← optional r with
    | some a => return a :: (← atMost r n)
    | none => return []

/-- Exactly so many rounds of a reader. -/
def exactly (r : Reader α) : Nat → Reader (List α)
  | 0 => return []
  | n + 1 => return (← r) :: (← exactly r n)

/-- As many rounds of a reader as there are. -/
def many (r : Reader α) : Reader (List α) := do atMost r (← get).length

/-- The items between two brackets, with commas between them. The blanks around
the items are the caller's. -/
def listed (opening closing : Char) (blanks : Reader Unit) (item : Reader α) :
    Reader (List α) := do
  char opening
  blanks
  if (← peek?) = some closing then
    char closing
    return []
  let item := do
    blanks
    let a ← item
    blanks
    return a
  let first ← item
  let rest ← many do
    char ','
    item
  char closing
  return first :: rest

end Reader
end Text
end Nearfield
