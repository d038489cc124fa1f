/-
# Random bytes

Challenges, start values and probes are drawn byte by byte from a source that
is threaded through every computation that draws, so a run is a function of its
source. `ByteStream` is the source used when running: bytes given in advance,
then a linear congruential sequence.

Key definitions: `RandomSource`, `drawBytes`, `drawBlock`, `ByteStream`.
Key theorem: `length_drawBytes`.
-/
import Nearfield.Cipher.Block

namespace Nearfield

/-- A source of random bytes. -/
class RandomSource (ρ : Type) where
  nextByte : ρ → UInt8 × ρ

/-- The next `n` bytes of a source. -/
def drawBytes {ρ : Type} [RandomSource ρ] : Nat → ρ → Bytes × ρ
  | 0, rng => ([], rng)
  | n + 1, rng =>
    let (b, rng) := RandomSource.nextByte rng
    let (bs, rng) := drawBytes n rng
    (b :: bs, rng)

theorem length_drawBytes {ρ : Type} [RandomSource ρ] :
    ∀ (n : Nat) (rng : ρ), (drawBytes n rng).1.length = n
  | 0, _ => rfl
  | n + 1, _ => by simp [drawBytes, length_drawBytes n]

/-- The next sixteen bytes of a source. -/
def drawBlock {ρ : Type} [RandomSource ρ] (rng : ρ) : Block × ρ :=
  let (bytes, rng) := drawBytes Block.size rng
  (Block.zeroFilled bytes, rng)

/-- Bytes given in advance, then the high bytes of a linear congruential
sequence modulo 2⁶⁴. -/
structure ByteStream where
  queued : Bytes
  state : UInt64
  deriving DecidableEq, Repr

namespace ByteStream

/-- The state after `s`. -/
def step (s : UInt64) : UInt64 := s * 6364136223846793005 + 1442695040888963407

def nextByte (s : ByteStream) : UInt8 × ByteStream :=
  match s.queued with
  | b :: rest => (b, { s with queued := rest })
  | [] =>
    let state := step s.state
    ((state >>> 56).toUInt8, { s with state })

instance : RandomSource ByteStream := ⟨nextByte⟩

end ByteStream
end Nearfield
