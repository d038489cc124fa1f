/-
# JSON documents

The whole text is one value, with blanks around it. A document may hold parts
that nobody asks for, so a part that cannot be used makes itself `unreadable`
and not the document: a number beyond the doubles, an escape that names half of
a surrogate pair, a value with too many levels around it. Numbers are judged by
the product of their leading digits and a power of ten.

Key definition: `Json.read?`.
-/
import Nearfield.Config.Document
import Nearfield.Text.Escape

namespace Nearfield
namespace Config
namespace Json

open Text

def isBlank (c : Char) : Bool := c = ' ' || c = '\t' || c = '\n' || c = '\r'

def blanks : Reader Unit := discard (Reader.takeWhile isBlank)

/-! ### Strings -/

/-- What stands in a string: a character, or half of a surrogate pair. -/
inductive Symbol where
  | char (c : Char)
  | half (unit : Nat)

/-- The code unit in the four digits behind `\u`. -/
def codeUnit : Reader Symbol := do
  let n ← Escape.hexNumber 4
  return if Escape.isSurrogate n then .half n else .char (Char.ofNat n)

/-- What stands behind a backslash. -/
def escaped : Reader Symbol := do
  match ← Reader.next with
  | '/' => return .char '/'
  | 'u' => codeUnit
  | c =>
    match Escape.simple? c with
    | some c => return .char c
    | none => failure

/-- One symbol before the closing quote. Control characters are not allowed. -/
def symbol : Reader Symbol := do
  let c ← Reader.satisfy fun c => c ≠ '"' && c.toNat ≥ 0x20
  if c = '\\' then escaped else return .char c

/-- The characters of the symbols: a high half and the low half behind it are
one character, any other half is none. -/
def joinHalves : List Symbol → Option (List Char)
  | [] => some []
  | .char c :: rest => (joinHalves rest).map (c :: ·)
  | .half high :: .half low :: rest =>
    if high < 0xDC00 ∧ 0xDC00 ≤ low then
      let c := Char.ofNat (0x10000 + (high - 0xD800) * 0x400 + (low - 0xDC00))
      (joinHalves rest).map (c :: ·)
    else none
  | .half _ :: _ => none

/-- A string between quotes; `none` if halves are left over. -/
def string : Reader (Option String) := do
  Reader.char '"'
  let symbols ← Reader.many symbol
  Reader.char '"'
  return (joinHalves symbols).map String.ofList

/-! ### Numbers -/

/-- Digits without a needless zero in front. -/
def wholePart : Reader (List Char) := do
  let digits ← Reader.takeSome Decimal.isDigit
  guard (digits.head? ≠ some '0' || digits.length = 1)
  return digits

def number : Reader Document := do
  discard (Reader.optional (Reader.char '-'))
  let whole ← wholePart
  let fraction ←
    if (← Reader.peek?) = some '.' then do
      Reader.char '.'
      Reader.takeSome Decimal.isDigit
    else pure []
  let exponent ←
    if (← Reader.peek?) = some 'e' ∨ (← Reader.peek?) = some 'E' then
      Decimal.exponentPart (Reader.takeSome Decimal.isDigit)
    else pure 0
  let inRange := Decimal.productInRange (Decimal.ofWord whole fraction exponent)
  return if inRange then .number none else .unreadable

/-! ### Values -/

/-- The most brackets that may be around a value in use, its own included. -/
def maxLevels : Nat := 127

/-- The members of a group, if their names are texts. -/
def groupOf (members : List (Option String × Document)) : Document :=
  match members.mapM fun m => m.1.map fun name => (name, m.2) with
  | some named => .group named
  | none => .unreadable

/-- A value inside so many brackets. The fuel bounds the brackets in it. -/
def value : Nat → Nat → Reader Document
  | 0, _ => failure
  | fuel + 1, level => do
    let usable (d : Document) : Document := if level < maxLevels then d else .unreadable
    match ← Reader.peek? with
    | some 'n' =>
      Reader.chars ['n', 'u', 'l', 'l']
      return .absent
    | some 't' =>
      Reader.chars ['t', 'r', 'u', 'e']
      return .flag true
    | some 'f' =>
      Reader.chars ['f', 'a', 'l', 's', 'e']
      return .flag false
    | some '"' =>
      match ← string with
      | some text => return .text text
      | none => return .unreadable
    | some '[' => return usable (.list (← Reader.listed '[' ']' blanks (value fuel (level + 1))))
    | some '\x7b' =>
      let members ← Reader.listed '\x7b' '\x7d' blanks do
        let name ← string
        blanks
        Reader.char ':'
        blanks
        return (name, ← value fuel (level + 1))
      return usable (groupOf members)
    | _ => number

/-- Reads a document. -/
def read? (text : String) : Option Document :=
  let document : Reader Document := do
    blanks
    let d ← value (text.length + 1) 0
    blanks
    return d
  document.all? text

end Json
end Config
end Nearfield
