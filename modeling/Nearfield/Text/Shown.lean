/-
# Bytes that are shown to a person

Bytes are shown as quoted text if they are UTF-8 without control characters,
and otherwise as hexadecimal digits. The quotes tell the two apart.

Key definition: `Text.shown`.
-/
import Nearfield.Text.Blank
import Nearfield.Text.Hex

namespace Nearfield
namespace Text

/-- The text of these bytes, if it can be shown. -/
def showable? (data : Bytes) : Option String :=
  (ofUtf8? data).filter fun text => !text.toList.any isControl

/-- How bytes are shown. -/
def shown (data : Bytes) : String :=
  match showable? data with
  | some text => quoted text
  | none => Hex.encode data

end Text
end Nearfield
