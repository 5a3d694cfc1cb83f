import ARNetworkAL.Wifi.Receiver

/-!
# The payload check at every address

Before `PopFrame` hands a frame out it tests that the payload ends where the bytes in
use end, or before. The test moves the end back by
`frame->size - offsetof (ARNETWORKAL_Frame_t, dataPtr)` and compares addresses, and the
size comes from the network. Here the buffer is anywhere in the address space, next to
zero and next to the top included.

The address that the test compares with is right (`toNat_limit`) until it is moved back
past zero (`toNat_limit_wraps`). On a target with pointers as wide as the size field the low
part of the address space is in reach of that, so a size field that is too large may pass.
-/

set_option autoImplicit false

namespace ARNetworkAL

open Library

namespace WifiNetwork

variable {w : ℕ} (E : Endianness)

/-- The buffer is in the address space, which a size field does not exceed. -/
structure InAddressSpace (object : WifiNetworkObject w) : Prop where
  word : 32 ≤ w
  room : object.buffer.toNat + receivingBufferSize ≤ 2 ^ w
  sized : object.size.toNat ≤ receivingBufferSize

/-- The cursor is in the buffer and a header is left at it. -/
structure HeaderLeft (object : WifiNetworkObject w) : Prop where
  lower : object.buffer.toNat ≤ object.currentFrame.toNat
  upper : object.currentFrame.toNat + offsetofDataPtr ≤
    object.buffer.toNat + object.size.toNat

/-- The size field at the cursor. -/
def sizeFieldAtCursor (object : WifiNetworkObject w) : UInt32 :=
  sizeField E (object.heap.slice (object.currentFrame.toNat + 3) 4)

section

variable {object : WifiNetworkObject w} (inside : InAddressSpace object)
  (left : HeaderLeft object)

include inside

/-- **The address that the payload is compared with.** -/
theorem toNat_limit {size : ℕ} (large : offsetofDataPtr < size)
    (reached : size ≤ object.buffer.toNat + object.size.toNat + offsetofDataPtr) :
    (object.bufferEnd - (BitVec.ofNat w size - BitVec.ofNat w offsetofDataPtr)).toNat =
      object.buffer.toNat + object.size.toNat + offsetofDataPtr - size := by
  obtain ⟨wide, room, sized⟩ := inside
  simp only [offsetofDataPtr_eq, receivingBufferSize_eq] at large reached room sized ⊢
  rw [Pointer.retreat_sub_of_le (Nat.le_of_lt large), WifiNetworkObject.bufferEnd]
  rcases Nat.lt_or_ge object.size.toNat (size - 7) with before | within
  · rw [Pointer.retreat_advance_of_le _ (Nat.le_of_lt before), Pointer.toNat_retreat (by omega)]
    omega
  · rw [Pointer.retreat_advance _ within, Pointer.toNat_advance (by omega)]
    omega

/-- It wraps when the size exceeds the address of the end and a header. -/
theorem toNat_limit_wraps {size : ℕ} (word : size < 2 ^ 32)
    (beyond : object.buffer.toNat + object.size.toNat + offsetofDataPtr < size) :
    (object.bufferEnd - (BitVec.ofNat w size - BitVec.ofNat w offsetofDataPtr)).toNat =
      object.buffer.toNat + object.size.toNat + offsetofDataPtr + 2 ^ w - size := by
  obtain ⟨wide, room, sized⟩ := inside
  have space : 2 ^ 32 ≤ 2 ^ w := Nat.pow_le_pow_right Nat.two_pos wide
  simp only [offsetofDataPtr_eq, receivingBufferSize_eq] at beyond room sized ⊢
  rw [Pointer.retreat_sub_of_le (by omega), WifiNetworkObject.bufferEnd,
    Pointer.retreat_advance_of_le _ (by omega),
    Pointer.toNat_retreat_wraps (by omega) (by omega)]
  omega

include left

/-- The first test lets a header through. -/
theorem header_accepted :
    ¬ Pointer.retreat object.bufferEnd offsetofDataPtr < object.currentFrame := by
  obtain ⟨lower, upper⟩ := left
  obtain ⟨_, room, sized⟩ := inside
  simp only [offsetofDataPtr_eq, receivingBufferSize_eq] at upper room sized ⊢
  have enough : 7 ≤ object.size.toNat := by omega
  rw [BitVec.lt_def, WifiNetworkObject.bufferEnd, Pointer.retreat_advance _ enough,
    Pointer.toNat_advance (by omega)]
  omega

theorem headerFrame_size : (headerFrame E object).size = sizeFieldAtCursor E object := by
  have upper := left.upper
  have room := inside.room
  have sized := inside.sized
  simp only [offsetofDataPtr_eq, receivingBufferSize_eq] at upper room sized
  have moved : (Pointer.advance object.currentFrame 3).toNat = object.currentFrame.toNat + 3 :=
    Pointer.toNat_advance (by omega)
  simp only [headerFrame, sizeFieldAtCursor, Pointer.advance_advance, moved, Nat.reduceAdd]

/-- The second test refuses a size field that says more than what is left, unless its
address wraps or the payload starts at the top of the address space. -/
theorem payload_refused_iff {size : ℕ} (word : size < 2 ^ 32)
    (past : object.buffer.toNat + object.size.toNat < object.currentFrame.toNat + size) :
    object.bufferEnd - (BitVec.ofNat w size - BitVec.ofNat w offsetofDataPtr) <
        Pointer.advance object.currentFrame offsetofDataPtr ↔
      size ≤ object.buffer.toNat + object.size.toNat + offsetofDataPtr ∧
        object.currentFrame.toNat + offsetofDataPtr < 2 ^ w := by
  have upper := left.upper
  have room := inside.room
  have sized := inside.sized
  have large : offsetofDataPtr < size := by omega
  have payload : object.currentFrame.toNat + offsetofDataPtr ≤ 2 ^ w := by omega
  have start : (Pointer.advance object.currentFrame offsetofDataPtr).toNat =
      (object.currentFrame.toNat + offsetofDataPtr) % 2 ^ w := Pointer.toNat_advance_mod _ _
  rw [BitVec.lt_def, start]
  rcases Nat.lt_or_ge (object.buffer.toNat + object.size.toNat + offsetofDataPtr) size with
    beyond | reached
  · -- the address is at the top, and no payload starts after it
    refine iff_of_false ?_ (by omega)
    rw [toNat_limit_wraps inside word beyond]
    have below := Nat.mod_le (object.currentFrame.toNat + offsetofDataPtr) (2 ^ w)
    have space : 2 ^ 32 ≤ 2 ^ w := Nat.pow_le_pow_right Nat.two_pos inside.word
    omega
  · rw [toNat_limit inside large reached]
    rcases Nat.lt_or_ge (object.currentFrame.toNat + offsetofDataPtr) (2 ^ w) with below | atTop
    · rw [Nat.mod_eq_of_lt below]
      omega
    · rw [Nat.le_antisymm payload atTop, Nat.mod_self]
      omega

/-- **`PopFrame` and a size field that says more than what is left.** -/
theorem popFrame_oversized_iff
    (past : object.buffer.toNat + object.size.toNat <
      object.currentFrame.toNat + (sizeFieldAtCursor E object).toNat) :
    (popFrame E object).result = .badFrame ↔
      (sizeFieldAtCursor E object).toNat ≤
          object.buffer.toNat + object.size.toNat + offsetofDataPtr ∧
        object.currentFrame.toNat + offsetofDataPtr < 2 ^ w := by
  have word : (sizeFieldAtCursor E object).toNat < 2 ^ 32 := UInt32.toNat_lt _
  have test := payload_refused_iff inside left word past
  rw [← headerFrame_size E inside left, ← headerFrame_dataPtr] at test
  rw [← headerFrame_size E inside left, ← test]
  simp only [popFrame, if_neg (header_accepted inside left)]
  split
  · rename_i refused
    exact iff_of_true rfl refused
  · rename_i accepted
    exact iff_of_false (by simp) accepted

/-- A buffer above 4 GiB is out of reach of a size field. -/
theorem popFrame_oversized_above (above : 2 ^ 32 ≤ object.buffer.toNat)
    (below : object.currentFrame.toNat + offsetofDataPtr < 2 ^ w)
    (past : object.buffer.toNat + object.size.toNat <
      object.currentFrame.toNat + (sizeFieldAtCursor E object).toNat) :
    (popFrame E object).result = .badFrame := by
  have word : (sizeFieldAtCursor E object).toNat < 2 ^ 32 := UInt32.toNat_lt _
  rw [popFrame_oversized_iff E inside left past]
  omega

end

/-! ## Pointers of 32 bits -/

/-- **With pointers of 32 bits, wherever the buffer is, a size field that says more than
what is left is refused exactly if it does not exceed the address of the end and a
header**, and the payload does not start past the last address. -/
theorem oversized_refused_iff {object : WifiNetworkObject 32}
    (room : object.buffer.toNat + receivingBufferSize ≤ 2 ^ 32)
    (sized : object.size.toNat ≤ receivingBufferSize)
    (lower : object.buffer.toNat ≤ object.currentFrame.toNat)
    (upper : object.currentFrame.toNat + offsetofDataPtr ≤
      object.buffer.toNat + object.size.toNat)
    (past : object.buffer.toNat + object.size.toNat <
      object.currentFrame.toNat + (sizeFieldAtCursor E object).toNat) :
    (popFrame E object).result = .badFrame ↔
      (sizeFieldAtCursor E object).toNat ≤
          object.buffer.toNat + object.size.toNat + offsetofDataPtr ∧
        object.currentFrame.toNat + offsetofDataPtr < 2 ^ 32 :=
  popFrame_oversized_iff E ⟨Nat.le_refl _, room, sized⟩ ⟨lower, upper⟩ past

/-- A receiver whose buffer is at 128 MiB, after a datagram of one header with a size field. -/
def receivedAt128MiB (b₀ b₁ b₂ b₃ : UInt8) : WifiNetworkObject 32 :=
  (receive exactDiff
    ⟨.ready true false, [.data [2, 10, 0, b₀, b₁, b₂, b₃]], .constant ⟨1, 0⟩⟩
    ((newReceiver (.cleared 32) 0x8000000).bound 3 (4, 5) 1) none).receiverObject

/-- A size field of 256. -/
theorem oversized_refused_256 :
    (popFrame .littleEndianHost (receivedAt128MiB 0 1 0 0)).result = .badFrame ↔
      (sizeFieldAtCursor .littleEndianHost (receivedAt128MiB 0 1 0 0)).toNat ≤
          (receivedAt128MiB 0 1 0 0).buffer.toNat + (receivedAt128MiB 0 1 0 0).size.toNat +
            offsetofDataPtr ∧
        (receivedAt128MiB 0 1 0 0).currentFrame.toNat + offsetofDataPtr < 2 ^ 32 :=
  oversized_refused_iff .littleEndianHost (by decide) (by decide) (by decide) (by decide)
    (by decide)

/-- The largest size field wraps below a buffer at 128 MiB, and is handed out. -/
theorem oversized_accepted :
    ¬ ∀ object : WifiNetworkObject 32,
      object.buffer.toNat + receivingBufferSize ≤ 2 ^ 32 →
      object.size.toNat ≤ receivingBufferSize →
      object.buffer.toNat ≤ object.currentFrame.toNat →
      object.currentFrame.toNat + offsetofDataPtr ≤ object.buffer.toNat + object.size.toNat →
      object.buffer.toNat + object.size.toNat <
        object.currentFrame.toNat + (sizeFieldAtCursor .littleEndianHost object).toNat →
      (popFrame .littleEndianHost object).result = .badFrame := by
  intro refused
  have wrong := refused (receivedAt128MiB 255 255 255 255) (by decide) (by decide) (by decide)
    (by decide) (by decide)
  exact absurd wrong (by decide)

end WifiNetwork

end ARNetworkAL
