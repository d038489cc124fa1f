/-
# Frames and answers of a session

What one side protects the other side accepts, under the same key and counter,
and what is accepted is exactly what was protected: a frame passes the check if
and only if it is a command followed by its MAC (`check?_eq_some_iff`). An
answer opens to its data if the MAC behind it is right, or if nobody looks.

The sessions of one handshake differ in their counters only; `s.after n` is `s`
after `n` commands, as long as the counter has not run out.

Key definition: `Session.after`.
Key theorems: `Session.check?_eq_some_iff`, `Session.openAnswer_append`,
`Session.openAnswer_verified_iff`, `Session.advance?_after`.
-/
import Nearfield.Session

namespace Nearfield
namespace Session

@[simp] theorem length_commandMac (s : Session) (frame : Bytes) :
    (s.commandMac frame).length = Cmac.truncatedSize := rfl

@[simp] theorem length_answerMac (s : Session) (data : Bytes) :
    (s.answerMac data).length = Cmac.truncatedSize := rfl

/-- **A frame is accepted if and only if it is a command with its MAC.** -/
theorem check?_eq_some_iff {s : Session} {received frame : Bytes} :
    s.check? received = some frame ↔ received = s.protect frame := by
  unfold check? protect
  constructor
  · intro h
    split at h
    · cases h
    · dsimp only at h
      split at h
      · rename_i hmac
        cases h
        rw [hmac, List.take_append_drop]
      · cases h
  · intro h
    have hlen : received.length - Cmac.truncatedSize = frame.length := by
      rw [h, List.length_append, length_commandMac, Nat.add_sub_cancel]
    rw [if_neg (by rw [h, List.length_append, length_commandMac]; omega), hlen, h, List.take_left,
      List.drop_left, if_pos rfl]

@[simp] theorem check?_protect (s : Session) (frame : Bytes) : s.check? (s.protect frame) = some frame :=
  check?_eq_some_iff.mpr rfl

theorem head?_protect (s : Session) (c : UInt8) (rest : Bytes) :
    (s.protect (c :: rest)).head? = some c := rfl

theorem length_protect (s : Session) (frame : Bytes) :
    (s.protect frame).length = frame.length + Cmac.truncatedSize := by
  rw [protect, List.length_append, length_commandMac]

/-- A protected frame tells its command and its MAC. -/
theorem protect_inj {s s' : Session} {frame frame' : Bytes} (h : s.protect frame = s'.protect frame') :
    frame = frame' ∧ s.commandMac frame = s'.commandMac frame' := by
  have hlen : frame.length = frame'.length := by
    have := congrArg List.length h
    rw [length_protect, length_protect] at this
    exact Nat.add_right_cancel this
  exact List.append_inj h hlen

/-- The data of an answer and the MAC behind it. -/
theorem openAnswer_append (s : Session) (verify : Bool) (data : Bytes) {mac : Bytes}
    (hmac : mac.length = Cmac.truncatedSize) :
    s.openAnswer verify (data ++ mac) =
      if verify = true ∧ s.answerMac data ≠ mac then .error .wrongAnswerMac else .ok data := by
  have hlen : (data ++ mac).length - Cmac.truncatedSize = data.length := by
    rw [List.length_append, hmac, Nat.add_sub_cancel]
  unfold openAnswer
  rw [if_neg (by rw [List.length_append]; omega), hlen, List.take_left, List.drop_left]

/-- **A verified answer is its data with the MAC of it**, and nothing else. -/
theorem openAnswer_verified_iff {s : Session} {answer data : Bytes} :
    s.openAnswer true answer = .ok data ↔ answer = data ++ s.answerMac data := by
  constructor
  · intro h
    unfold openAnswer at h
    by_cases hshort : answer.length < Cmac.truncatedSize
    · rw [if_pos hshort] at h
      cases h
    · rw [if_neg hshort] at h
      dsimp only at h
      by_cases hmac : s.answerMac (answer.take (answer.length - Cmac.truncatedSize))
          = answer.drop (answer.length - Cmac.truncatedSize)
      · rw [if_neg (fun hne => hne.2 hmac)] at h
        cases h
        rw [hmac, List.take_append_drop]
      · rw [if_pos ⟨rfl, hmac⟩] at h
        cases h
  · intro h
    rw [h, openAnswer_append _ _ _ (length_answerMac s data), if_neg (fun hne => hne.2 rfl)]

/-! ### Counters -/

/-- Two bytes tell a counter. -/
theorem littleEndian_inj {n n' : UInt16} (h : Bytes.littleEndian n = Bytes.littleEndian n') : n = n' := by
  unfold Bytes.littleEndian at h
  simp only [List.cons.injEq, and_true] at h
  have hlow := congrArg UInt8.toNat h.1
  have hhigh := congrArg UInt8.toNat h.2
  simp only [UInt16.toNat_toUInt8, UInt16.toNat_shiftRight, Nat.shiftRight_eq_div_pow] at hlow hhigh
  have hn := n.toNat_lt
  have hn' := n'.toNat_lt
  apply UInt16.toNat_inj.mp
  have h8 : UInt16.toNat 8 % 16 = 8 := rfl
  rw [h8] at hhigh
  omega

/-- The text of a command's MAC tells the counter. -/
theorem commandInput_inj {n n' : UInt16} {frame : Bytes}
    (h : commandInput n frame = commandInput n' frame) : n = n' := by
  cases frame with
  | nil => exact littleEndian_inj h
  | cons instruction rest =>
    rw [commandInput, commandInput, List.cons.injEq] at h
    exact littleEndian_inj (List.append_inj h.2 rfl).1

/-- The session after `n` commands. -/
def after (s : Session) (n : Nat) : Session := { s with counter := UInt16.ofNat n }

theorem establish_eq_after (key : Key) (slot : UInt8) (rndA rndB : Block) :
    establish key slot rndA rndB = (establish key slot rndA rndB).after 0 := rfl

theorem toNat_counter_after (s : Session) {n : Nat} (h : n ≤ 65535) : (s.after n).counter.toNat = n := by
  show (UInt16.ofNat n).toNat = n
  rw [UInt16.toNat_ofNat']
  exact Nat.mod_eq_of_lt (Nat.lt_succ_of_le h)

theorem after_counter (s : Session) : s.after s.counter.toNat = s := by
  unfold after
  rw [UInt16.ofNat_toNat]

theorem advance?_after (s : Session) {n : Nat} (h : n < 65535) :
    (s.after n).advance? = some (s.after (n + 1)) := by
  have hne : (s.after n).counter ≠ 0xFFFF := by
    intro he
    have := s.toNat_counter_after (Nat.le_of_lt h)
    rw [he] at this
    change 65535 = n at this
    omega
  unfold advance?
  rw [if_neg hne]
  show some (Session.mk _ _ (UInt16.ofNat n + 1)) = some (Session.mk _ _ (UInt16.ofNat (n + 1)))
  rw [UInt16.ofNat_add]
  rfl

/-- The last counter is not followed by another. -/
theorem advance?_eq_some {s next : Session} (h : s.advance? = some next) :
    s.counter ≠ 0xFFFF ∧ next = { s with counter := s.counter + 1 } := by
  unfold advance? at h
  split at h
  · cases h
  · rename_i hne
    cases h
    exact ⟨hne, rfl⟩

end Session
end Nearfield
