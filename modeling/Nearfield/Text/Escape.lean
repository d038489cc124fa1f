/-
# Escapes

What stands behind a backslash in quoted text: a letter for a character that is
hard to write, or a code point in hexadecimal digits. Other characters stand for
themselves, but controls may not.

Key definitions: `Escape.isPlain`, `Escape.simple?`, `Escape.codePoint`,
`Escape.escaped`, `Escape.symbol`.
-/
import Nearfield.Text.Decimal

namespace Nearfield
namespace Text
namespace Escape

/-- Characters that may stand for themselves: no controls of ASCII but the tab. -/
def isPlain (c : Char) : Bool := c = '\t' || (0x20 ≤ c.toNat && c.toNat ≠ 0x7F)

/-- The character that a letter stands for. -/
def simple? : Char → Option Char
  | '"' => some '"'
  | '\\' => some '\\'
  | 'b' => some '\x08'
  | 'f' => some '\x0c'
  | 'n' => some '\n'
  | 'r' => some '\r'
  | 't' => some '\t'
  | _ => none

def isHexDigit (c : Char) : Bool :=
  Decimal.isDigit c || ('a' ≤ c && c ≤ 'f') || ('A' ≤ c && c ≤ 'F')

/-- The number in exactly so many hexadecimal digits. -/
def hexNumber (digits : Nat) : Reader Nat := do
  return Decimal.valueIn 16 (← Reader.exactly (Reader.satisfy isHexDigit) digits)

/-- Whether a number is a code point of half of a surrogate pair. -/
def isSurrogate (n : Nat) : Bool := 0xD800 ≤ n && n < 0xE000

/-- The character of a code point in exactly so many digits. -/
def codePoint (digits : Nat) : Reader Char := do
  let n ← hexNumber digits
  guard (!isSurrogate n && n < 0x110000)
  return Char.ofNat n

/-- What stands behind a backslash, with four or with eight digits for a code
point. -/
def escaped : Reader Char := do
  match ← Reader.next with
  | 'u' => codePoint 4
  | 'U' => codePoint 8
  | c =>
    match simple? c with
    | some c => return c
    | none => failure

/-- A character that is plain, or escaped. -/
def symbol : Reader Char := do
  let c ← Reader.satisfy isPlain
  if c = '\\' then escaped else return c

end Escape
end Text
end Nearfield
