/-
# Single values of TOML

Texts in four kinds of quotes, numbers in four bases, dates and times. Of
numbers and dates only their form and range matter, because nothing is
configured by them; a date is a group whose only member no record asks for.

Key definitions: `Scalar.text`, `Scalar.number`, `Scalar.date`, `Scalar.word`.
-/
import Nearfield.Config.Document
import Nearfield.Text.Escape

namespace Nearfield
namespace Config
namespace Toml
namespace Scalar

open Text

def isBlank (c : Char) : Bool := c = ' ' || c = '\t'

def blanks : Reader Unit := discard (Reader.takeWhile isBlank)

def newline : Reader Unit := Reader.char '\n' <|> Reader.chars ['\r', '\n']

/-! ### Texts -/

/-- A character of a text in double quotes. -/
def basicChar : Reader Char := do
  guard ((← Reader.peek?) ≠ some '"')
  Escape.symbol

/-- A text in double quotes, on one line. -/
def basic : Reader String := do
  Reader.char '"'
  let cs ← Reader.many basicChar
  Reader.char '"'
  return String.ofList cs

/-- A text in single quotes, on one line and without escapes. -/
def literal : Reader String := do
  Reader.char '\''
  let cs ← Reader.takeWhile fun c => Escape.isPlain c && c ≠ '\''
  Reader.char '\''
  return String.ofList cs

/-- A line break, which counts as one character. -/
def lineBreak : Reader (List Char) := do
  newline
  return ['\n']

/-- A backslash at the end of a line joins it with the next text. -/
def continuation : Reader (List Char) := do
  Reader.char '\\'
  blanks
  newline
  discard (Reader.many (discard (Reader.satisfy isBlank) <|> newline))
  return []

/-- One or two quotes that do not close the text. -/
def innerQuotes (quote : Char) : Reader (List Char) := do
  let quotes ← Reader.takeSome (· = quote)
  guard (quotes.length < 3)
  return quotes

/-- The quotes at the end: the last three close the text. -/
def closingQuotes (quote : Char) : Reader (List Char) := do
  let quotes ← Reader.takeSome (· = quote)
  guard (3 ≤ quotes.length ∧ quotes.length ≤ 5)
  return quotes.drop 3

/-- A text between triple quotes. A line break right behind the opening ones
does not count. -/
def multiline (quote : Char) (part : Reader (List Char)) : Reader String := do
  Reader.chars [quote, quote, quote]
  discard (Reader.optional newline)
  let parts ← Reader.many (lineBreak <|> part <|> innerQuotes quote)
  return String.ofList (parts.flatten ++ (← closingQuotes quote))

def multilineBasic : Reader String :=
  multiline '"' (continuation <|> (fun c => [c]) <$> basicChar)

def multilineLiteral : Reader String :=
  multiline '\'' ((fun c => [c]) <$> Reader.satisfy fun c => Escape.isPlain c && c ≠ '\'')

/-- A text in any quotes. -/
def text : Reader String := multilineBasic <|> basic <|> multilineLiteral <|> literal

/-! ### Numbers -/

/-- Digits with single underscores between them. -/
def separated (isDigit : Char → Bool) : Reader (List Char) := do
  let first ← Reader.satisfy isDigit
  let rest ← Reader.many do
    discard (Reader.optional (Reader.char '_'))
    Reader.satisfy isDigit
  return first :: rest

/-- Decimal digits without a needless zero in front. -/
def wholePart : Reader (List Char) := do
  let digits ← separated Decimal.isDigit
  guard (digits.head? ≠ some '0' || digits.length = 1)
  return digits

/-- An integer of 64 bits, with a sign. -/
def decimalInteger : Reader Unit := do
  let sign ← Decimal.sign
  let n := Decimal.value (← wholePart)
  guard (if sign = some '-' then n ≤ Nat.pow 2 63 else n < Nat.pow 2 63)

/-- An integer behind the mark of another base. -/
def basedInteger (letter : Char) (base : Nat) : Reader Unit := do
  Reader.chars ['0', letter]
  let digits ← separated fun c => Escape.isHexDigit c && Decimal.digitValue c < base
  guard (Decimal.valueIn base digits < Nat.pow 2 63)

/-- A number with a fraction or an exponent. One that is too large is no
number, unless it is negative. -/
def fractional : Reader Unit := do
  let sign ← Decimal.sign
  let whole ← wholePart
  let fraction ← Reader.optional do
    Reader.char '.'
    separated Decimal.isDigit
  let exponent ← Reader.optional (Decimal.exponentPart (separated Decimal.isDigit))
  guard (fraction.isSome || exponent.isSome)
  let inRange := Decimal.inRange (Decimal.scientific whole (fraction.getD []) (exponent.getD 0))
  guard (inRange || sign = some '-')

/-- A number that is not finite. -/
def unbounded : Reader Unit := do
  discard Decimal.sign
  Reader.chars ['i', 'n', 'f'] <|> Reader.chars ['n', 'a', 'n']

def number : Reader Document := do
  fractional <|> unbounded <|> basedInteger 'x' 16 <|> basedInteger 'o' 8 <|> basedInteger 'b' 2
    <|> decimalInteger
  return .number none

/-! ### Dates -/

/-- So many digits, as a number between bounds. -/
def digits (count low high : Nat) : Reader Nat := do
  let n := Decimal.value (← Reader.exactly (Reader.satisfy Decimal.isDigit) count)
  guard (low ≤ n ∧ n ≤ high)
  return n

def daysIn (year month : Nat) : Nat :=
  if month = 2 then
    if year % 4 = 0 ∧ (year % 100 ≠ 0 ∨ year % 400 = 0) then 29 else 28
  else if month = 4 ∨ month = 6 ∨ month = 9 ∨ month = 11 then 30
  else 31

def day : Reader Unit := do
  let year ← digits 4 0 9999
  Reader.char '-'
  let month ← digits 2 1 12
  Reader.char '-'
  discard (digits 2 1 (daysIn year month))

def time : Reader Unit := do
  discard (digits 2 0 23)
  Reader.char ':'
  discard (digits 2 0 59)
  Reader.char ':'
  discard (digits 2 0 60)
  discard <| Reader.optional do
    Reader.char '.'
    Reader.takeSome Decimal.isDigit

def zone : Reader Unit := do
  match ← Reader.next with
  | 'Z' | 'z' => return ()
  | '+' | '-' =>
    discard (digits 2 0 23)
    Reader.char ':'
    discard (digits 2 0 59)
  | _ => failure

def dayAndTime : Reader Unit := do
  day
  discard <| Reader.optional do
    discard (Reader.satisfy fun c => c = 'T' || c = 't' || c = ' ')
    time
    discard (Reader.optional zone)

def date : Reader Document := do
  dayAndTime <|> time
  return .group [("$date", .flag true)]

/-- The two words that are values. -/
def word : Reader Document := do
  match ← Reader.peek? with
  | some 't' =>
    Reader.chars ['t', 'r', 'u', 'e']
    return .flag true
  | _ =>
    Reader.chars ['f', 'a', 'l', 's', 'e']
    return .flag false

end Scalar
end Toml
end Config
end Nearfield
