import Mathlib

/-!
# Length-prefixed frames

A frame is its payload's length in four little-endian bytes, and the payload.
-/

namespace Tickr.Framing

def le32 (length : Nat) : List UInt8 :=
  [length.toUInt8, (length / 2 ^ 8).toUInt8, (length / 2 ^ 16).toUInt8, (length / 2 ^ 24).toUInt8]

def fromLe32 : List UInt8 → Nat
  | [first, second, third, fourth] =>
    first.toNat + 2 ^ 8 * second.toNat + 2 ^ 16 * third.toNat + 2 ^ 24 * fourth.toNat
  | _ => 0

def frame (payload : List UInt8) : List UInt8 := le32 payload.length ++ payload

/-- What stands at the front of the bytes. -/
inductive Next where
  | incomplete
  | oversized
  | complete (payload rest : List UInt8)

/-- Look for a frame of at most `limit` payload bytes. -/
def next (limit : Nat) (bytes : List UInt8) : Next :=
  if bytes.length < 4 then .incomplete
  else if limit < fromLe32 (bytes.take 4) then .oversized
  else if (bytes.drop 4).length < fromLe32 (bytes.take 4) then .incomplete
  else
    .complete ((bytes.drop 4).take (fromLe32 (bytes.take 4)))
      ((bytes.drop 4).drop (fromLe32 (bytes.take 4)))

theorem length_le32 (length : Nat) : (le32 length).length = 4 := rfl

theorem fromLe32_le32 {length : Nat} (fits : length < 2 ^ 32) :
    fromLe32 (le32 length) = length := by
  simp only [le32, fromLe32, UInt8.toNat_ofNat']
  omega

theorem length_frame (payload : List UInt8) : (frame payload).length = payload.length + 4 := by
  rw [frame, List.length_append, length_le32]
  omega

variable {limit : Nat} {payload : List UInt8}

/-- A whole frame is taken off the front. -/
theorem next_frame (fits : payload.length ≤ limit) (small : limit < 2 ^ 32) (rest : List UInt8) :
    next limit (frame payload ++ rest) = .complete payload rest := by
  have header : (frame payload ++ rest).take 4 = le32 payload.length := by
    exact List.take_left' (length_le32 _)
  have body : (frame payload ++ rest).drop 4 = payload ++ rest := by
    exact List.drop_left' (length_le32 _)
  have read : fromLe32 (le32 payload.length) = payload.length := fromLe32_le32 (by omega)
  unfold next
  rw [header, body, read, List.take_left, List.drop_left]
  rw [if_neg, if_neg, if_neg]
  · rw [List.length_append]
    omega
  · omega
  · rw [List.length_append, length_frame]
    omega

theorem next_torn (fits : payload.length ≤ limit) (small : limit < 2 ^ 32)
    {written : Nat} (torn : written < (frame payload).length) :
    next limit ((frame payload).take written) = .incomplete := by
  rw [length_frame] at torn
  unfold next
  by_cases short : ((frame payload).take written).length < 4
  · rw [if_pos short]
  have enough : 4 ≤ written := by
    rw [List.length_take] at short
    omega
  have header : ((frame payload).take written).take 4 = le32 payload.length := by
    rw [List.take_take, Nat.min_eq_left enough]
    exact List.take_left' (length_le32 _)
  have read : fromLe32 (le32 payload.length) = payload.length := fromLe32_le32 (by omega)
  rw [if_neg short, header, if_neg (by omega), if_pos]
  rw [List.length_drop, List.length_take]
  omega

end Tickr.Framing
