/-
# Values in one line

The notation for a value that comes as a piece of text, from an environment
variable: `true` and `false`, quoted text, lists in brackets, groups in braces,
numbers, and otherwise the text itself. A number has a decimal point, or it is a
whole number that fits 64 bits; any other row of digits is text. Text that
follows none of the rules stands for itself as a whole, so every text is a
value.

Key definitions: `Inline.unescape`, `Inline.plain`, `Inline.read`.
-/
import Nearfield.Config.Document
import Nearfield.Text.Blank
import Nearfield.Text.Escape
import Nearfield.Text.Utf8

namespace Nearfield
namespace Config
namespace Inline

open Text

/-- The blanks of ASCII. -/
def isAsciiBlank (c : Char) : Bool :=
  c = ' ' || c = '\t' || c = '\n' || c = '\r' || c = '\x0c'

def blanks : Reader Unit := discard (Reader.takeWhile isAsciiBlank)

/-! ### Quoted text -/

/-- What stands between double quotes, as it is written. A backslash keeps the
character behind it, so an escaped quote does not close the text. -/
def written : Reader (List Char) := do
  Reader.char '"'
  let parts ← Reader.many do
    let c ← Reader.satisfy (· ≠ '"')
    if c = '\\' then return [c, ← Reader.next] else return [c]
  Reader.char '"'
  return parts.flatten

/-- The text that is meant. In front of the first escape there is a byte of room
for each character, so a longer character costs the last ones their place. -/
def unescape (cs : List Char) : Option String := do
  let lead := cs.takeWhile (· ≠ '\\')
  let rest := cs.dropWhile (· ≠ '\\')
  guard (lead.all Escape.isPlain)
  if rest = [] then return String.ofList lead
  let tail ← (Reader.many Escape.symbol).all? (String.ofList rest)
  return String.ofList (takeBytes lead.length lead ++ tail)

/-- A text between double quotes. -/
def quoted : Reader String := do
  match unescape (← written) with
  | some text => return text
  | none => failure

/-! ### Numbers -/

/-- A number with a point. It gives no index. -/
def pointedNumber : Reader (Option Nat) := do
  guard (← Decimal.floating)
  return none

/-- Digits with a sign: without a minus an index of 64 bits, with it a number of
64 bits in two's complement. -/
def wholeNumber : Reader (Option Nat) := do
  let sign ← Decimal.sign
  let n := Decimal.value (← Reader.takeSome Decimal.isDigit)
  if sign = some '-' then
    guard (n ≤ Nat.pow 2 63)
    return none
  else
    guard (n < Nat.pow 2 64)
    return some n

/-! ### Values -/

/-- A number or a text without quotes. -/
def plain (text : String) : Document :=
  match pointedNumber.all? text <|> wholeNumber.all? text with
  | some index => .number index
  | none => .text text

/-- A character that ends a plain value. -/
def isSeparator (c : Char) : Bool :=
  c = ',' || c = '\x7b' || c = '\x7d' || c = '[' || c = ']'

/-- A character of a name without quotes. -/
def isNameChar (c : Char) : Bool := c.isAlphanum || c = '_' || c = '-'

def name : Reader String := do
  if (← Reader.peek?) = some '"' then quoted
  else return String.ofList (← Reader.takeSome isNameChar)

/-- Items between brackets, with commas between them and perhaps one at the
end. -/
def items {α : Type} (opening closing : Char) (item : Reader α) : Reader (List α) := do
  Reader.char opening
  if (← Reader.peek?) = some closing then
    Reader.char closing
    return []
  let first ← item
  let rest ← Reader.many do
    Reader.char ','
    if (← Reader.peek?) = some closing then failure
    item
  discard (Reader.optional (Reader.char ','))
  Reader.char closing
  return first :: rest

/-- A value with blanks around it. The fuel bounds the brackets in it. -/
def value : Nat → Reader Document
  | 0 => failure
  | fuel + 1 => do
    blanks
    let word (cs : List Char) (flag : Bool) : Reader Document := do
      Reader.chars cs
      return .flag flag
    let bracketed : Reader Document := do
      match ← Reader.peek? with
      | some '[' => return .list (← items '[' ']' (value fuel))
      | some '\x7b' =>
        let members ← items '\x7b' '\x7d' do
          blanks
          let key ← name
          blanks
          Reader.char '='
          return (key, ← value fuel)
        return .group (members.foldl (fun group m => Document.set m.1 m.2 group) [])
      | some '"' => return .text (← quoted)
      | some '\'' =>
        Reader.char '\''
        let c ← Reader.next
        Reader.char '\''
        return .text (String.singleton c)
      | _ =>
        let cs ← Reader.takeWhile fun c => !isSeparator c
        return plain (trim (String.ofList cs))
    let d ← word ['t', 'r', 'u', 'e'] true <|> word ['f', 'a', 'l', 's', 'e'] false <|> bracketed
    blanks
    return d

/-- Reads a value. -/
def read (text : String) : Document :=
  ((value (text.length + 1)).all? text).getD (.text text)

end Inline
end Config
end Nearfield
