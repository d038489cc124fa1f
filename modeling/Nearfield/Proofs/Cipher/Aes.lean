/-
# Decryption and encryption undo each other

Each step of a round has its inverse: the substitutions by a look at all 256
bytes, the row rotations by definition, the column mixes by algebra. Doubling
is linear, so the square of the mix is `mixTwice` and its fourth power is the
identity (`mix_mix`, `mixTwice_mixTwice`); no entry of the field's tables is
needed. A block then comes back through the rounds one by one, for any round
keys, whichever of the two is done first.

Key theorems: `Aes.unmix_mix`, `Aes.unround_round`, `Aes.decrypt_encrypt`,
`Aes.encrypt_decrypt`.
-/
import Nearfield.Cipher.Aes

namespace Nearfield

/-! ### Exclusive or -/

theorem Bytes.xor_left_comm (a b c : UInt8) : a ^^^ (b ^^^ c) = b ^^^ (a ^^^ c) := by
  rw [← UInt8.xor_assoc, UInt8.xor_comm a b, UInt8.xor_assoc]

theorem Bytes.xor_cancel_left (a b : UInt8) : a ^^^ (a ^^^ b) = b := by
  rw [← UInt8.xor_assoc, UInt8.xor_self, UInt8.zero_xor]

theorem Bytes.xor_cancel_right (a b : UInt8) : a ^^^ b ^^^ b = a := by
  rw [UInt8.xor_assoc, UInt8.xor_self, UInt8.xor_zero]

theorem Word.xor_cancel_right (v w : Word) : (v.xor w).xor w = v := by
  simp only [Word.xor, Bytes.xor_cancel_right]

namespace Block

theorem xor_cancel_right (a b : Block) : (a.xor b).xor b = a := by
  simp only [Block.xor, Word.xor_cancel_right]

@[simp] theorem xor_zero (a : Block) : a.xor zero = a := by
  simp only [Block.xor, Word.xor, zero, UInt8.xor_zero]

theorem map_map {f g : UInt8 → UInt8} (h : ∀ x, g (f x) = x) (b : Block) : (b.map f).map g = b := by
  simp only [Block.map, Word.map, h]

theorem mapWords_mapWords {f g : Word → Word} (h : ∀ w, g (f w) = w) (b : Block) :
    (b.mapWords f).mapWords g = b := by
  simp only [mapWords, h]

end Block

namespace Aes

/-! ### The steps of a round -/

/-- What a look at all 256 values shows holds of every byte. -/
theorem forall_byte {p : UInt8 → Prop} (h : ∀ n : Fin 256, p (UInt8.ofFin n)) (b : UInt8) : p b :=
  h b.toFin

theorem unsubstitute_substitute : ∀ b : UInt8, unsubstitute (substitute b) = b :=
  forall_byte (by decide +kernel)

theorem substitute_unsubstitute : ∀ b : UInt8, substitute (unsubstitute b) = b :=
  forall_byte (by decide +kernel)

theorem topBit_cases : ∀ b : UInt8, b >>> 7 = 0 ∨ b >>> 7 = 1 := forall_byte (by decide +kernel)

/-- Doubling is linear. -/
theorem double_xor (a b : UInt8) : double (a ^^^ b) = double a ^^^ double b := by
  have carry : ((a ^^^ b) >>> 7) * (0x1b : UInt8)
      = ((a >>> 7) * (0x1b : UInt8)) ^^^ ((b >>> 7) * (0x1b : UInt8)) := by
    rw [UInt8.shiftRight_xor]
    rcases topBit_cases a with ha | ha <;> rcases topBit_cases b with hb | hb <;>
      (rw [ha, hb]; decide)
  unfold double
  rw [carry, UInt8.shiftLeft_xor]
  ac_rfl

theorem mix_mix (w : Word) : mix (mix w) = mixTwice w := by
  simp only [mix, mixTwice, double_xor, Word.mk.injEq]
  refine ⟨?_, ?_, ?_, ?_⟩ <;>
    simp only [UInt8.xor_assoc, UInt8.xor_comm, Bytes.xor_left_comm, Bytes.xor_cancel_left,
      UInt8.xor_self, UInt8.zero_xor]

theorem mixTwice_mixTwice (w : Word) : mixTwice (mixTwice w) = w := by
  simp only [mixTwice, double_xor]
  congr 1 <;>
    simp only [UInt8.xor_assoc, UInt8.xor_comm, Bytes.xor_left_comm, UInt8.xor_self, UInt8.xor_zero]

theorem unmix_mix (w : Word) : unmix (mix w) = w := by
  unfold unmix
  rw [← mix_mix (mix w), mix_mix, mix_mix, mixTwice_mixTwice]

theorem mix_unmix (w : Word) : mix (unmix w) = w := by
  unfold unmix
  rw [mix_mix, mixTwice_mixTwice]

theorem unshiftRows_shiftRows (b : Block) : unshiftRows (shiftRows b) = b := rfl

theorem shiftRows_unshiftRows (b : Block) : shiftRows (unshiftRows b) = b := rfl

/-! ### Rounds -/

theorem unround_round (b k : Block) : unround k (round b k) = b := by
  unfold unround round
  rw [Block.xor_cancel_right, Block.mapWords_mapWords unmix_mix, unshiftRows_shiftRows,
    Block.map_map unsubstitute_substitute]

theorem unlastRound_lastRound (b k : Block) : unlastRound k (lastRound b k) = b := by
  unfold unlastRound lastRound
  rw [Block.xor_cancel_right, unshiftRows_shiftRows, Block.map_map unsubstitute_substitute]

theorem round_unround (b k : Block) : round (unround k b) k = b := by
  unfold unround round
  rw [Block.map_map substitute_unsubstitute, shiftRows_unshiftRows, Block.mapWords_mapWords mix_unmix,
    Block.xor_cancel_right]

theorem lastRound_unlastRound (b k : Block) : lastRound (unlastRound k b) k = b := by
  unfold unlastRound lastRound
  rw [Block.map_map substitute_unsubstitute, shiftRows_unshiftRows, Block.xor_cancel_right]

/-- The middle rounds are undone last one first. -/
theorem foldr_unround : ∀ (ks : List Block) (b : Block), ks.foldr unround (ks.foldl round b) = b
  | [], _ => rfl
  | k :: ks, b => by
    rw [List.foldr_cons, List.foldl_cons, foldr_unround ks, unround_round]

theorem foldl_round : ∀ (ks : List Block) (b : Block), ks.foldl round (ks.foldr unround b) = b
  | [], _ => rfl
  | k :: ks, b => by
    rw [List.foldr_cons, List.foldl_cons, round_unround, foldl_round ks]

theorem Schedule.decrypt_encrypt (s : Schedule) (b : Block) : s.decrypt (s.encrypt b) = b := by
  unfold Schedule.decrypt Schedule.encrypt
  rw [unlastRound_lastRound, foldr_unround, Block.xor_cancel_right]

theorem Schedule.encrypt_decrypt (s : Schedule) (b : Block) : s.encrypt (s.decrypt b) = b := by
  unfold Schedule.decrypt Schedule.encrypt
  rw [Block.xor_cancel_right, foldl_round, lastRound_unlastRound]

/-- **Decryption undoes encryption under the same key.** -/
theorem decrypt_encrypt (key : Key) (b : Block) : decrypt key (encrypt key b) = b :=
  (schedule key).decrypt_encrypt b

/-- **Encryption undoes decryption under the same key.** -/
theorem encrypt_decrypt (key : Key) (b : Block) : encrypt key (decrypt key b) = b :=
  (schedule key).encrypt_decrypt b

end Aes
end Nearfield
