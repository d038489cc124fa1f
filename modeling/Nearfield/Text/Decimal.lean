/-
# Numbers in decimal text

Digits as values, and the range of double precision. Judged exactly, a number
is in range if the double nearest to it is finite: half a unit above the largest
double is the first number that is not. Judged as a product, its digits and its
power of ten are each rounded to a double, and their product must not round
beyond the largest one.

Key definitions: `Decimal.value`, `Decimal.inRange`, `Decimal.nearestDouble`,
`Decimal.productInRange`, `Decimal.floating`, `Decimal.ofWord`.
-/
import Nearfield.Text.Reader

namespace Nearfield
namespace Decimal

open Text

def isDigit (c : Char) : Bool := '0' ≤ c && c ≤ '9'

/-- The value of a digit in any base up to sixteen. -/
def digitValue (c : Char) : Nat :=
  let n := c.toNat
  if n < 58 then n - 48 else if n < 71 then n - 55 else n - 87

/-- The value of digits in a base. -/
def valueIn (base : Nat) (digits : List Char) : Nat :=
  digits.foldl (fun n c => n * base + digitValue c) 0

/-- The value of decimal digits. -/
def value (digits : List Char) : Nat := valueIn 10 digits

/-- A number as its digits times a power of ten. -/
structure Scientific where
  digits : Nat
  exponent : Int
  deriving DecidableEq, Repr

/-- The first number that no finite double is nearest to. -/
def limit : Nat := Nat.pow 2 1024 - Nat.pow 2 970

/-- Whether the nearest double is finite. The first two cases keep the powers
of ten small: the limit has 309 digits. -/
def inRange (s : Scientific) : Bool :=
  let magnitude : Int := (Nat.toDigits 10 s.digits).length + s.exponent
  if s.digits = 0 ∨ magnitude < 300 then true
  else if magnitude > 320 then false
  else if 0 ≤ s.exponent then s.digits * Nat.pow 10 s.exponent.toNat < limit
  else s.digits < limit * Nat.pow 10 (-s.exponent).toNat

/-- The whole number with at most 53 binary digits in front of its zeros that is
nearest to a whole number; a tie goes to the even one. Up to the largest double,
these are the doubles among the whole numbers. -/
def nearestDouble (n : Nat) : Nat :=
  let unit := Nat.pow 2 (Nat.log2 n - 52)
  let units := n / unit
  let rest := n % unit
  (if unit < 2 * rest ∨ (unit = 2 * rest ∧ units % 2 = 1) then units + 1 else units) * unit

/-- The largest power of ten that is taken in one step. -/
def maxPower : Nat := 308

/-- Whether the product of the digits and the power of ten is finite, all three
rounded to doubles. Division never leaves the range. -/
def productInRange (s : Scientific) : Bool :=
  if s.digits = 0 ∨ s.exponent < 0 then true
  else
    let power := s.exponent.toNat
    power ≤ maxPower &&
      nearestDouble (nearestDouble s.digits * nearestDouble (Nat.pow 10 power)) < Nat.pow 2 1024

/-- Writes digits behind a number as long as it fits 64 bits. Gives the number
and the digits that are left. -/
def extend (n : Nat) : List Char → Nat × List Char
  | [] => (n, [])
  | c :: rest =>
    let longer := n * 10 + digitValue c
    if longer < Nat.pow 2 64 then extend longer rest else (n, c :: rest)

def sign : Reader (Option Char) := Reader.optional (Reader.satisfy fun c => c = '+' || c = '-')

/-- An exponent with an optional sign, behind its letter. The digits are read
by `digits`. -/
def exponentPart (digits : Reader (List Char)) : Reader Int := do
  discard <| Reader.satisfy fun c => c = 'e' || c = 'E'
  let sign ← sign
  let n := value (← digits)
  return if sign = some '-' then -(n : Int) else n

/-- A number with a sign, digits, a point in or around them and an exponent, of
which only the digits must be there. Tells whether it has a point. -/
def floating : Reader Bool := do
  discard sign
  let whole ← Reader.takeWhile isDigit
  let point ← Reader.optional (Reader.char '.')
  let fraction ← if point.isSome then Reader.takeWhile isDigit else pure []
  guard !(whole ++ fraction).isEmpty
  discard (Reader.optional (exponentPart (Reader.takeSome isDigit)))
  return point.isSome

/-- The number with this whole part, fraction and exponent. -/
def scientific (whole fraction : List Char) (exponent : Int) : Scientific :=
  ⟨value (whole ++ fraction), exponent - fraction.length⟩

/-- The same number with only as many digits as fit 64 bits. What is left of the
whole part counts as zeros, what is left of the fraction does not count. -/
def ofWord (whole fraction : List Char) (exponent : Int) : Scientific :=
  let (n, zeros) := extend 0 whole
  let (n, dropped) := extend n fraction
  ⟨n, exponent + zeros.length - (fraction.length - dropped.length : Nat)⟩

end Decimal
end Nearfield
