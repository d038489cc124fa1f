/-
# Text as bytes

Texts are measured and stored as their UTF-8 bytes. Characters can also be
counted off by the bytes they take.

Key definitions: `Text.utf8`, `Text.ofUtf8?`, `Text.takeBytes`,
`Text.dropBytes`.
-/
import Nearfield.Bytes

namespace Nearfield
namespace Text

/-- The UTF-8 bytes of a text. -/
def utf8 (text : String) : Bytes := text.toUTF8.data.toList

/-- The text of these bytes, if they are well formed UTF-8. -/
def ofUtf8? (data : Bytes) : Option String := String.fromUTF8? ⟨data.toArray⟩

/-- The characters in front that fit into so many bytes. -/
def takeBytes : Nat → List Char → List Char
  | _, [] => []
  | room, c :: rest =>
    if c.utf8Size ≤ room then c :: takeBytes (room - c.utf8Size) rest else []

/-- The characters that do not begin in the first so many bytes. -/
def dropBytes : Nat → List Char → List Char
  | _, [] => []
  | 0, cs => cs
  | n, c :: rest => dropBytes (n - c.utf8Size) rest

end Text
end Nearfield
