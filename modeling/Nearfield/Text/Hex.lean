/-
# Hexadecimal text

Bytes as pairs of digits, high half first, and numbers behind `0x`. Reading
accepts either case and names the first fault: an odd number of digits before
anything else, then the first byte of the text that is no digit.

Key definitions: `Hex.encode`, `Hex.encodeUpper`, `Hex.decode`, `Hex.Fault`,
`Hex.number`.
-/
import Nearfield.Text.Utf8
import Nearfield.Text.Quoted

namespace Nearfield
namespace Hex

/-- Why a text is not hexadecimal. -/
inductive Fault where
  /-- The text has an odd number of bytes. -/
  | oddLength
  /-- The byte at this index is not a digit. -/
  | badDigit (byte : UInt8) (index : Nat)
  deriving DecidableEq, Repr

/-- The wording of a fault. A byte is shown as the character with its number. -/
def Fault.message : Fault → String
  | .oddLength => "Odd number of digits"
  | .badDigit byte index =>
    "Invalid character " ++ Text.quotedChar (Char.ofNat byte.toNat) ++ " at position " ++ toString index

/-- The digits of a byte, as values. -/
def halves (b : UInt8) : List Nat := [b.toNat / 16, b.toNat % 16]

def upperDigitChar (n : Nat) : Char := (Nat.digitChar n).toUpper

/-- Two lower case digits for each byte. -/
def encode (data : Bytes) : String := String.ofList ((data.flatMap halves).map Nat.digitChar)

/-- Two upper case digits for each byte. -/
def encodeUpper (data : Bytes) : String := String.ofList ((data.flatMap halves).map upperDigitChar)

/-- The value of a digit, given as an ASCII code. -/
def digitValue? (c : UInt8) : Option UInt8 :=
  if 48 ≤ c ∧ c ≤ 57 then some (c - 48)
  else if 65 ≤ c ∧ c ≤ 70 then some (c - 55)
  else if 97 ≤ c ∧ c ≤ 102 then some (c - 87)
  else none

def digit (index : Nat) (c : UInt8) : Except Fault UInt8 :=
  match digitValue? c with
  | some value => .ok value
  | none => .error (.badDigit c index)

/-- Reads pairs of digits; `index` is the position of the first. -/
def decodePairs (index : Nat) : Bytes → Except Fault Bytes
  | high :: low :: rest => do
    let h ← digit index high
    let l ← digit (index + 1) low
    let bytes ← decodePairs (index + 2) rest
    return (h * 16 + l) :: bytes
  | _ => .ok []

/-- Reads the digits of a text. -/
def decode (text : String) : Except Fault Bytes :=
  let codes := Text.utf8 text
  if codes.length % 2 = 1 then .error .oddLength else decodePairs 0 codes

/-- A number in lower case digits, at least two of them, behind `0x`. -/
def number (n : Nat) : String :=
  let digits := Nat.toDigits 16 n
  "0x" ++ String.ofList (List.replicate (2 - digits.length) '0' ++ digits)

/-- A number in upper case digits, at least `width` of them, behind `0x`. -/
def numberUpper (width n : Nat) : String :=
  let digits := (Nat.toDigits 16 n).map Char.toUpper
  "0x" ++ String.ofList (List.replicate (width - digits.length) '0' ++ digits)

end Hex
end Nearfield
