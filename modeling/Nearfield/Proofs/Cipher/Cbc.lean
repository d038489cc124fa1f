/-
# What is chained and padded comes back

A chain of blocks decrypts to the blocks it was made of (`decryptBlocks_encryptBlocks`).
A text splits into whole blocks and a rest shorter than a block, and nothing
is lost (`Block.join_split`); the padding of the rest is found again from its
end, where the mark stands behind the text and in front of zeros only
(`unpad?_pad`). So decryption returns every text, and the size of a ciphertext
is the next multiple of sixteen above the size of its text.

Nothing else decrypts to a text: whole blocks that do are the ciphertext of it
(`pad_of_unpad?`, `encrypt_of_decrypt?`).

Key theorems: `Cbc.decryptBlocks_encryptBlocks`, `Cbc.unpad?_pad`,
`Cbc.decrypt?_encrypt`, `Cbc.encrypt_of_decrypt?`, `Cbc.length_encrypt`.
-/
import Mathlib.Tactic.IntervalCases
import Nearfield.Cipher.Cbc
import Nearfield.Proofs.Cipher.Aes

namespace Nearfield

namespace Block

/-! ### The bytes of a block -/

theorem toBytes_zeroFilled (d : Bytes) : (zeroFilled d).toBytes = Bytes.zeroFilled size d := by
  have hget : ∀ n, n < size → (Bytes.zeroFilled size d)[n]? = some (d.getD n 0) := by
    intro n hn
    rw [Bytes.zeroFilled, List.getD_eq_getElem?_getD]
    by_cases h : n < d.length
    · rw [List.getElem?_append_left (by rw [List.length_take]; omega), List.getElem?_take_of_lt hn,
        List.getElem?_eq_getElem h, Option.getD_some]
    · rw [List.getElem?_append_right (by rw [List.length_take]; omega), List.getElem?_replicate,
        List.length_take, if_pos (by omega), List.getElem?_eq_none (by omega), Option.getD_none]
  apply List.ext_getElem?
  intro n
  by_cases hn : n < size
  · rw [hget n hn]
    simp only [size] at hn
    interval_cases n <;> rfl
  · rw [List.getElem?_eq_none (by rw [length_toBytes]; omega),
      List.getElem?_eq_none (by rw [Bytes.length_zeroFilled]; omega)]

theorem toBytes_zeroFilled_append_drop {d : Bytes} (h : size ≤ d.length) :
    (zeroFilled d).toBytes ++ d.drop size = d := by
  rw [toBytes_zeroFilled, Bytes.zeroFilled, Nat.sub_eq_zero_of_le h, List.replicate_zero,
    List.append_nil, List.take_append_drop]

/-- Exactly sixteen bytes are the bytes of a block. -/
theorem toBytes_zeroFilled_of_length {d : Bytes} (h : d.length = size) : (zeroFilled d).toBytes = d := by
  have hdrop := toBytes_zeroFilled_append_drop (Nat.le_of_eq h.symm)
  rwa [List.drop_of_length_le (Nat.le_of_eq h), List.append_nil] at hdrop

/-! ### Whole blocks and the rest -/

@[simp] theorem join_cons (b : Block) (bs : List Block) : join (b :: bs) = b.toBytes ++ join bs := rfl

theorem length_join : ∀ bs : List Block, (join bs).length = bs.length * size
  | [] => rfl
  | b :: bs => by
    rw [join_cons, List.length_append, length_toBytes, length_join bs, List.length_cons, Nat.succ_mul,
      Nat.add_comm]

theorem split_toBytes_append (b : Block) (rest : Bytes) :
    split (b.toBytes ++ rest) = (b :: (split rest).1, (split rest).2) := rfl

theorem split_of_length_lt {left : Bytes} (h : left.length < size) : split left = ([], left) := by
  unfold split
  split
  · simp only [List.length_cons, size] at h
    omega
  · rfl

/-- Blocks and a short rest are told apart again. -/
theorem split_join_append {left : Bytes} (h : left.length < size) :
    ∀ bs : List Block, split (join bs ++ left) = (bs, left)
  | [] => split_of_length_lt h
  | b :: bs => by
    rw [join_cons, List.append_assoc, split_toBytes_append, split_join_append h bs]

theorem split_join (bs : List Block) : split (join bs) = (bs, []) := by
  simpa using split_join_append (by decide : ([] : Bytes).length < size) bs

/-- Splitting loses nothing. -/
theorem join_split (d : Bytes) : join (split d).1 ++ (split d).2 = d := by
  fun_induction split d with
  | case1 => simp_all [toBytes, Word.toBytes]
  | case2 => rfl

theorem length_split_left (d : Bytes) : (split d).2.length < size := by
  fun_induction split d with
  | case1 => simp_all
  | case2 d h =>
    by_contra hlen
    -- sixteen bytes and more would have been a whole block
    have hd := toBytes_zeroFilled_append_drop (by simpa using hlen)
    exact h _ _ _ _ _ _ _ _ _ _ _ _ _ _ _ _ (d.drop size) hd.symm

/-- The number of whole blocks in a byte string. -/
theorem length_split (d : Bytes) : (split d).1.length = d.length / size := by
  have hleft := length_split_left d
  have hlen : (split d).1.length * size + (split d).2.length = d.length := by
    rw [← length_join, ← List.length_append, join_split]
  simp only [size] at *
  omega

/-- Byte strings of whole blocks have no rest. -/
theorem join_split_of_dvd {d : Bytes} (h : d.length % size = 0) : join (split d).1 = d := by
  have hleft := length_split_left d
  have hjoin := join_split d
  have hlen := congrArg List.length hjoin
  rw [List.length_append, length_join] at hlen
  have hnil : (split d).2 = [] := by
    apply List.eq_nil_of_length_eq_zero
    simp only [size] at *
    omega
  rwa [hnil, List.append_nil] at hjoin

/-- Of a byte string only the first sixteen bytes count. -/
theorem zeroFilled_take (d : Bytes) : zeroFilled (d.take size) = zeroFilled d := by
  apply toBytes_inj.mp
  rw [toBytes_zeroFilled, toBytes_zeroFilled, Bytes.zeroFilled, Bytes.zeroFilled, List.take_take,
    Nat.min_self, List.length_take]
  congr 2
  omega

/-- A block is made of its first sixteen bytes. -/
theorem zeroFilled_toBytes_append (b : Block) (rest : Bytes) : zeroFilled (b.toBytes ++ rest) = b := rfl

end Block

namespace Cbc

open Aes (Schedule)

/-! ### Chains -/

theorem length_encryptBlocks (s : Schedule) : ∀ (iv : Block) (bs : List Block),
    (encryptBlocks s iv bs).length = bs.length
  | _, [] => rfl
  | iv, b :: bs => by
    rw [encryptBlocks, List.length_cons, length_encryptBlocks s _ bs, List.length_cons]

/-- **A chain decrypts to the blocks it was made of.** -/
theorem decryptBlocks_encryptBlocks (s : Schedule) : ∀ (iv : Block) (bs : List Block),
    decryptBlocks s iv (encryptBlocks s iv bs) = bs
  | _, [] => rfl
  | iv, b :: bs => by
    rw [encryptBlocks, decryptBlocks, decryptBlocks_encryptBlocks s _ bs, s.decrypt_encrypt,
      Block.xor_cancel_right]

/-- **A chain is made of the blocks it decrypts to.** -/
theorem encryptBlocks_decryptBlocks (s : Schedule) : ∀ (iv : Block) (cs : List Block),
    encryptBlocks s iv (decryptBlocks s iv cs) = cs
  | _, [] => rfl
  | iv, c :: cs => by
    rw [decryptBlocks, encryptBlocks, Block.xor_cancel_right, s.encrypt_decrypt]
    exact congrArg (c :: ·) (encryptBlocks_decryptBlocks s c cs)

/-! ### Padding -/

theorem dropWhile_replicate_zero (n : Nat) (rest : Bytes) :
    (List.replicate n (0 : UInt8) ++ endMark :: rest).dropWhile (· == 0) = endMark :: rest := by
  induction n with
  | zero => rfl
  | succ n ih => simp [List.replicate_succ, ih]

/-- The rest of a text is found again in its padded block. -/
theorem unpadBlock?_padded {left : Bytes} (h : left.length < Block.size) :
    unpadBlock? (Block.zeroFilled (left ++ [endMark])) = some left := by
  have hlen : (left ++ [endMark]).length ≤ Block.size := by
    rw [List.length_append, List.length_singleton]
    omega
  have hrev : (Block.zeroFilled (left ++ [endMark])).toBytes.reverse
      = List.replicate (Block.size - (left ++ [endMark]).length) 0 ++ endMark :: left.reverse := by
    rw [Block.toBytes_zeroFilled, Bytes.zeroFilled, List.take_of_length_le hlen]
    simp
  unfold unpadBlock?
  rw [hrev, dropWhile_replicate_zero]
  simp

theorem unpad?_concat (last : Block) : ∀ bs : List Block,
    unpad? (bs ++ [last]) = (unpadBlock? last).map (Block.join bs ++ ·)
  | [] => by
    rw [List.nil_append, unpad?]
    cases unpadBlock? last <;> rfl
  | b :: bs => by
    have hcomp : (b.toBytes ++ ·) ∘ (Block.join bs ++ ·) = (Block.join (b :: bs) ++ ·) := by
      funext text
      simp
    rw [List.cons_append, unpad?, unpad?_concat last bs, Option.map_map, hcomp]
    -- more blocks follow, so `b` is not the last one
    simp

/-- **Padding is undone.** -/
theorem unpad?_pad (text : Bytes) : unpad? (pad text) = some text := by
  unfold pad
  rw [unpad?_concat, unpadBlock?_padded (Block.length_split_left text), Option.map_some,
    Block.join_split]

/-- A block that ends in a mark and zeros is the padded rest of a text. -/
theorem padded_of_unpadBlock? {b : Block} {left : Bytes} (h : unpadBlock? b = some left) :
    left.length < Block.size ∧ Block.zeroFilled (left ++ [endMark]) = b := by
  unfold unpadBlock? at h
  cases hdrop : b.toBytes.reverse.dropWhile (· == 0) with
  | nil =>
    rw [hdrop] at h
    cases h
  | cons c text =>
    rw [hdrop] at h
    by_cases hc : c = endMark
    · rw [hc] at h hdrop
      obtain rfl : text.reverse = left := by simpa using h
      -- in front of the mark, read from the end, stand zeros only
      set zeros := b.toBytes.reverse.takeWhile (· == 0) with hzeros
      have hall : zeros = List.replicate zeros.length 0 := by
        apply List.eq_replicate_of_mem
        intro z hz
        simpa using List.all_eq_true.mp List.all_takeWhile z hz
      have hrev : b.toBytes.reverse = zeros ++ endMark :: text := by
        rw [hzeros, ← hdrop, List.takeWhile_append_dropWhile]
      have hbytes : b.toBytes = text.reverse ++ [endMark] ++ List.replicate zeros.length 0 := by
        have := congrArg List.reverse hrev
        rw [List.reverse_reverse, List.reverse_append, List.reverse_cons] at this
        rw [this, hall, List.reverse_replicate, List.length_replicate]
      have hlen := congrArg List.length hbytes
      simp only [Block.length_toBytes, List.length_append, List.length_singleton,
        List.length_replicate] at hlen
      refine ⟨by omega, ?_⟩
      apply Block.toBytes_inj.mp
      have htake : (text.reverse ++ [endMark]).length ≤ Block.size := by
        rw [List.length_append, List.length_singleton]
        omega
      have hfill : Block.size - (text.reverse ++ [endMark]).length = zeros.length := by
        rw [List.length_append, List.length_singleton]
        omega
      rw [Block.toBytes_zeroFilled, Bytes.zeroFilled, List.take_of_length_le htake, hfill, hbytes]
    · simp [hc] at h

/-- **Only padding is undone**: blocks with a text are the padding of it. -/
theorem pad_of_unpad? : ∀ {bs : List Block} {text : Bytes}, unpad? bs = some text → pad text = bs
  | [], _, h => by cases h
  | [b], text, h => by
    obtain ⟨hlen, hblock⟩ := padded_of_unpadBlock? h
    unfold pad
    rw [Block.split_of_length_lt hlen]
    exact congrArg (fun b => [b]) hblock
  | b :: b' :: bs, text, h => by
    rw [unpad?, Option.map_eq_some_iff] at h
    · obtain ⟨rest, hrest, rfl⟩ := h
      have ih := pad_of_unpad? hrest
      unfold pad at ih ⊢
      rw [Block.split_toBytes_append]
      exact congrArg (b :: ·) ih
    · exact List.cons_ne_nil _ _

theorem length_pad (text : Bytes) : (pad text).length = text.length / Block.size + 1 := by
  unfold pad
  rw [List.length_append, Block.length_split, List.length_singleton]

/-! ### Texts -/

/-- A ciphertext has the next multiple of sixteen bytes above its text's. -/
theorem length_encrypt (key : Key) (iv : Block) (text : Bytes) :
    (encrypt key iv text).length = (text.length / Block.size + 1) * Block.size := by
  unfold encrypt
  rw [Block.length_join, length_encryptBlocks, length_pad]

/-- **Decryption returns every text.** -/
theorem decrypt?_encrypt (key : Key) (iv : Block) (text : Bytes) :
    decrypt? key iv (encrypt key iv text) = some text := by
  unfold decrypt? encrypt
  rw [Block.split_join, decryptBlocks_encryptBlocks, unpad?_pad]

/-- **Whole blocks that decrypt to a text are its ciphertext.** -/
theorem encrypt_of_decrypt? {key : Key} {iv : Block} {data text : Bytes}
    (hlen : data.length % Block.size = 0) (h : decrypt? key iv data = some text) :
    encrypt key iv text = data := by
  unfold decrypt? at h
  unfold encrypt
  rw [pad_of_unpad? h, encryptBlocks_decryptBlocks, Block.join_split_of_dvd hlen]

end Cbc
end Nearfield
