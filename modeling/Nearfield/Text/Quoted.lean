/-
# Quoted text

Text between quotes, with escapes that make every character visible: the
backslash and the surrounding quote get a backslash, four controls have short
names, and characters that are not printable or extend the one before are
written as code points in hexadecimal.

Key definitions: `Text.escape`, `Text.quoted`, `Text.quotedChar`,
`Text.quotedBytes`.
-/
import Nearfield.Bytes
import Nearfield.Text.Printable

namespace Nearfield
namespace Text

/-- A code point as `\u` with hexadecimal digits in braces. -/
def codePointEscape (c : Char) : List Char :=
  ['\\', 'u', '\x7b'] ++ Nat.toDigits 16 c.toNat ++ ['\x7d']

/-- How one character is written between quotes of this kind. -/
def escape (quote c : Char) : List Char :=
  if c = '\x00' then ['\\', '0']
  else if c = '\t' then ['\\', 't']
  else if c = '\n' then ['\\', 'n']
  else if c = '\r' then ['\\', 'r']
  else if c = '\\' ∨ c = quote then ['\\', c]
  else if isExtender c ∨ ¬isPrintable c then codePointEscape c
  else [c]

/-- A text in double quotes. -/
def quoted (text : String) : String :=
  String.ofList (['"'] ++ text.toList.flatMap (escape '"') ++ ['"'])

/-- A character in single quotes. -/
def quotedChar (c : Char) : String :=
  String.ofList (['\''] ++ escape '\'' c ++ ['\''])

/-- How one byte of a byte string literal is written. -/
def escapeByte (b : UInt8) : List Char :=
  if b = 0 then ['\\', '0']
  else if b = 9 then ['\\', 't']
  else if b = 10 then ['\\', 'n']
  else if b = 13 then ['\\', 'r']
  else if b = 34 ∨ b = 92 then ['\\', Char.ofNat b.toNat]
  else if 32 ≤ b ∧ b < 127 then [Char.ofNat b.toNat]
  else ['\\', 'x', Nat.digitChar (b.toNat / 16), Nat.digitChar (b.toNat % 16)]

/-- A byte string in double quotes, marked with a `b`. -/
def quotedBytes (data : Bytes) : String :=
  String.ofList (['b', '"'] ++ data.flatMap escapeByte ++ ['"'])

end Text
end Nearfield
