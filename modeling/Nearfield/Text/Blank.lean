/-
# Blanks and controls

Two character classes of the Unicode standard: `White_Space`, which is trimmed
around keys and identifiers, and the general category `Cc` of control
characters, which are never shown as text.

Key definitions: `Text.isBlank`, `Text.isControl`, `Text.trim`.
-/

namespace Nearfield
namespace Text

/-- The property `White_Space`. -/
def isBlank (c : Char) : Bool :=
  let n := c.toNat
  (9 ≤ n && n ≤ 13) || n == 0x20 || n == 0x85 || n == 0xA0 || n == 0x1680 ||
    (0x2000 ≤ n && n ≤ 0x200A) || n == 0x2028 || n == 0x2029 || n == 0x202F || n == 0x205F ||
    n == 0x3000

/-- The general category `Cc`. -/
def isControl (c : Char) : Bool :=
  let n := c.toNat
  n < 0x20 || (0x7F ≤ n && n < 0xA0)

/-- The characters without the blanks at either end. -/
def trimChars (cs : List Char) : List Char :=
  ((cs.dropWhile isBlank).reverse.dropWhile isBlank).reverse

/-- The text without the blanks at either end. -/
def trim (text : String) : String := String.ofList (trimChars text.toList)

end Text
end Nearfield
