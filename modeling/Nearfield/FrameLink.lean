/-
# Links

A link carries one frame to a tag and its answer back. Nothing more is assumed
of it: the state behind a link is any type, and the answer may be anything. The
same state also provides the host's random bytes.

Key definition: `FrameLink`.
-/
import Nearfield.Failure
import Nearfield.Random

namespace Nearfield

/-- A link to a tag, as a step on the state behind it. -/
class FrameLink (σ : Type) extends RandomSource σ where
  exchange : Bytes → σ → Except LinkError Bytes × σ

end Nearfield
