/-
# TOML documents

A document is read line by line: keys with values, headers of tables, headers
of arrays of tables, blank lines; each may end in a comment. The statements
then build the tables in their order.

Key definitions: `Toml.Statement`, `Toml.statements`, `Toml.read?`.
-/
import Nearfield.Config.Toml.Scalar
import Nearfield.Config.Toml.Table

namespace Nearfield
namespace Config
namespace Toml

open Text Scalar

/-- The most levels of brackets in a value, and of names in a key. -/
def maxLevels : Nat := 79

/-- A comment up to the end of its line. -/
def comment : Reader Unit := do
  Reader.char '#'
  discard (Reader.takeWhile Escape.isPlain)

/-- Blanks, comments and line breaks. -/
def gap : Reader Unit :=
  discard (Reader.many (discard (Reader.takeSome Scalar.isBlank) <|> newline <|> (do comment; newline)))

/-- Blanks and a comment up to the end of the line, or of the document. -/
def lineEnd : Reader Unit := do
  blanks
  discard (Reader.optional comment)
  newline <|> Reader.atEnd

/-! ### Keys -/

/-- A character of a name without quotes. -/
def isBareChar (c : Char) : Bool := c.isAlphanum || c = '_' || c = '-'

def name : Reader String := do
  match ← Reader.peek? with
  | some '"' => basic
  | some '\'' => literal
  | _ => return String.ofList (← Reader.takeSome isBareChar)

/-- Names with dots between them: the path, and the last name. -/
def key : Reader (Path × String) := do
  let part : Reader String := do
    blanks
    let n ← name
    blanks
    return n
  let first ← part
  let rest ← Reader.many do
    Reader.char '.'
    part
  guard (rest.length < maxLevels)
  match rest.getLast? with
  | some last => return (first :: rest.dropLast, last)
  | none => return ([], first)

/-! ### Values -/

/-- The table of keys and values, if they do not conflict. -/
def inlineTable (members : List ((Path × String) × Document)) : Option Document :=
  let table? := members.foldlM
    (fun entries m => Entries.assign [] m.1.1 m.1.2 m.2 entries) ([] : Entries)
  table?.map fun entries => (Node.table .header entries).toDocument

/-- A value without brackets. -/
def scalar : Reader Document := do
  match ← Reader.peek? with
  | some '"' | some '\'' => return .text (← text)
  | some 't' | some 'f' => word
  | _ => date <|> number

/-- Values between brackets, with commas between them and perhaps one at the
end. Gaps may be anywhere. -/
def array (item : Reader Document) : Reader Document := do
  let item := do
    let d ← item
    gap
    return d
  Reader.char '['
  gap
  let items ←
    match ← Reader.optional item with
    | none => pure []
    | some first =>
      let rest ← Reader.many do
        Reader.char ','
        gap
        item
      discard (Reader.optional (Reader.char ','))
      gap
      pure (first :: rest)
  Reader.char ']'
  return .list items

/-- Keys and values between braces, on one line. -/
def inlineGroup (item : Reader Document) : Reader Document := do
  let members ← Reader.listed '\x7b' '\x7d' blanks do
    let k ← key
    Reader.char '='
    blanks
    return (k, ← item)
  match inlineTable members with
  | some d => return d
  | none => failure

/-- A value with at most so many levels of brackets. -/
def value : Nat → Reader Document
  | 0 => scalar
  | levels + 1 => do
    match ← Reader.peek? with
    | some '[' => array (value levels)
    | some '\x7b' => inlineGroup (value levels)
    | _ => scalar

/-! ### Statements -/

inductive Statement where
  /-- A line without one. -/
  | blank
  | assign (path : Path) (name : String) (value : Document)
  | table (path : Path) (name : String)
  | arrayTable (path : Path) (name : String)

def header : Reader Statement := do
  Reader.char '['
  if (← Reader.peek?) = some '[' then
    Reader.char '['
    let (path, name) ← key
    Reader.chars [']', ']']
    return .arrayTable path name
  else
    let (path, name) ← key
    Reader.char ']'
    return .table path name

def assignment : Reader Statement := do
  let (path, name) ← key
  Reader.char '='
  blanks
  return .assign path name (← value maxLevels)

/-- One line. -/
def line : Reader Statement := do
  blanks
  let statement ←
    match ← Reader.peek? with
    | none | some '#' | some '\n' | some '\r' => pure .blank
    | some '[' => header
    | _ => assignment
  lineEnd
  return statement

/-- The lines of a document, behind a byte order mark if there is one. -/
def statements : Reader (List Statement) := do
  discard (Reader.optional (Reader.char '\ufeff'))
  Reader.many do
    guard !(← get).isEmpty
    line

/-- A document under construction, with the path of the last header. -/
structure Draft where
  header : Path
  root : Entries

/-- What a statement does. -/
def Draft.add (d : Draft) : Statement → Option Draft
  | .blank => some d
  | .assign path name value => (d.root.assign d.header path name value).map fun root => { d with root }
  | .table path name => (d.root.define path name).map fun root => ⟨path ++ [name], root⟩
  | .arrayTable path name => (d.root.append path name).map fun root => ⟨path ++ [name], root⟩

/-- Reads a document. -/
def read? (text : String) : Option Document := do
  let lines ← statements.all? text
  let draft ← lines.foldlM Draft.add ⟨[], []⟩
  return (Node.table .header draft.root).toDocument

end Toml
end Config
end Nearfield
