import ARNetworkAL.Wifi.Datagram

/-!
# Draining a datagram

The receiving loop of the library calls `PopFrame` until it returns something other
than `DEFAULT`. Each frame that is taken moves the cursor by its size field, so `n`
bytes hold at most `n / 7` frames, unless a size field is below seven: `PopFrame`
takes such a frame too, and one of size zero again and again.

`walk` follows the size fields of a datagram. The loop ends in time exactly when the
first `n / 7` size fields lead to the last seven bytes or past them, or the next one
is refused (`drainsInTime_iff`).
-/

set_option autoImplicit false

namespace ARNetworkAL

open Library

namespace WifiNetwork

variable {w : ℕ} (E : Endianness)

/-- The receiver object after a number of calls of `PopFrame`. -/
def popTimes (object : WifiNetworkObject w) : ℕ → WifiNetworkObject w
  | 0 => object
  | count + 1 => (popFrame E (popTimes object count)).receiverObject

/-- One of the first `length / 7 + 1` calls of `PopFrame` does not return `DEFAULT`. -/
def DrainsInTime (object : WifiNetworkObject w) (length : ℕ) : Prop :=
  ∃ count ≤ length / offsetofDataPtr,
    (popFrame E (popTimes E object count)).result ≠ .default

/-! ## Following the size fields in memory -/

/-- One of the two tests fails at the cursor. -/
def Halts (object : WifiNetworkObject w) : Prop :=
  object.finish < object.currentFrame.toNat + offsetofDataPtr ∨
    SizeRefused object (headerFrame E object).size.toNat

/-- The receiver object with its cursor elsewhere. -/
def WifiNetworkObject.atCursor (object : WifiNetworkObject w) (cursor : BitVec w) :
    WifiNetworkObject w :=
  { object with currentFrame := cursor }

/-- The cursor that a number of size fields lead to, each read where the last one led. -/
def chase (object : WifiNetworkObject w) : ℕ → BitVec w
  | 0 => object.currentFrame
  | count + 1 =>
      Pointer.advance (chase object count)
        (headerFrame E (object.atCursor (chase object count))).size.toNat

section

variable {object : WifiNetworkObject w} (buffered : Buffered object)

include buffered

theorem popFrame_ne_default_iff :
    (popFrame E object).result ≠ .default ↔ Halts E object := by
  rw [ne_eq, popFrame_default_iff E buffered.placed buffered.sized, Halts, not_and_or,
    Nat.not_le, Classical.not_not]

/-- `PopFrame` follows a size field where no test fails. -/
theorem popFrame_of_not_halts (goes : ¬ Halts E object) :
    (popFrame E object).receiverObject =
      object.atCursor
        (Pointer.advance object.currentFrame (headerFrame E object).size.toNat) := by
  rw [Halts, not_or] at goes
  rcases popFrame_cases E buffered.placed buffered.sized with
    ⟨short, _⟩ | ⟨_, refused, _⟩ | ⟨_, _, outcome⟩
  · exact absurd short goes.1
  · exact absurd refused goes.2
  · rw [outcome]
    rfl

theorem atCursor_buffered (cursor : BitVec w) : Buffered (object.atCursor cursor) :=
  ⟨buffered.placed, buffered.sized⟩

/-- While no test fails, `PopFrame` follows the size fields. -/
theorem popTimes_eq {count : ℕ}
    (goes : ∀ earlier < count, ¬ Halts E (object.atCursor (chase E object earlier))) :
    popTimes E object count = object.atCursor (chase E object count) := by
  induction count with
  | zero => rfl
  | succ count ih =>
      have before : popTimes E object count = object.atCursor (chase E object count) := by
        apply ih
        intro earlier sooner
        exact goes earlier (Nat.lt_succ_of_lt sooner)
      have last := goes count (Nat.lt_succ_self count)
      rw [popTimes, before, popFrame_of_not_halts E (atCursor_buffered buffered _) last]
      rfl

/-- The loop ends in time when one of the tests fails in time. -/
theorem drainsInTime_iff_halts (length : ℕ) :
    DrainsInTime E object length ↔
      ∃ count ≤ length / offsetofDataPtr, Halts E (object.atCursor (chase E object count)) := by
  apply exists_le_iff_of_agree
  intro count _ goes
  rw [popTimes_eq E buffered goes, popFrame_ne_default_iff E (atCursor_buffered buffered _)]

/-- A frame of size zero is taken again and again: the cursor stays on it. -/
theorem popTimes_of_zero_size (zero : (headerFrame E object).size = 0)
    (goes : ¬ Halts E object) (count : ℕ) : popTimes E object count = object := by
  induction count with
  | zero => rfl
  | succ count ih =>
      rw [popTimes, ih, popFrame_of_not_halts E buffered goes, zero]
      simp [WifiNetworkObject.atCursor, Pointer.advance]

end

/-! ## Following the size fields in the datagram -/

/-- The position that a number of size fields lead to. It stays where no header is left. -/
def walk (datagram : List UInt8) : ℕ → ℕ
  | 0 => 0
  | count + 1 =>
      let position := walk datagram count
      if position + offsetofDataPtr ≤ datagram.length then
        position + (sizeFieldAt E datagram position).toNat
      else position

theorem walk_mono (datagram : List UInt8) : Monotone (walk E datagram) := by
  apply monotone_nat_of_le_succ
  intro count
  rw [walk]
  split
  · exact Nat.le_add_right _ _
  · exact Nat.le_refl _

/-- One of the two tests fails at a position of a datagram in a buffer. -/
def HaltsAt (buffer : BitVec w) (datagram : List UInt8) (position : ℕ) : Prop :=
  let size := (sizeFieldAt E datagram position).toNat
  let finish := buffer.toNat + datagram.length
  datagram.length < position + offsetofDataPtr ∨
    (offsetofDataPtr ≤ size ∧ datagram.length < position + size ∧
      size ≤ finish + offsetofDataPtr) ∨
    (size < offsetofDataPtr ∧ 2 ^ w ≤ finish + (offsetofDataPtr - size))

/-- The first `n / 7` size fields of `n` bytes leave no header, or the next one is more
than what is left and not past the end of the buffer as an address, or one of them is
below a header and wraps at the top of the address space. -/
def LeadsOut (buffer : BitVec w) (datagram : List UInt8) : Prop :=
  let bound := datagram.length / offsetofDataPtr
  let finish := buffer.toNat + datagram.length
  datagram.length < walk E datagram bound + offsetofDataPtr ∨
    (datagram.length < walk E datagram (bound + 1) ∧
      (sizeFieldAt E datagram (walk E datagram bound)).toNat ≤ finish + offsetofDataPtr) ∨
    ∃ count ≤ bound,
      (sizeFieldAt E datagram (walk E datagram count)).toNat < offsetofDataPtr ∧
        2 ^ w ≤ finish +
          (offsetofDataPtr - (sizeFieldAt E datagram (walk E datagram count)).toNat)

theorem walk_succ {datagram : List UInt8} {count : ℕ}
    (header : walk E datagram count + offsetofDataPtr ≤ datagram.length) :
    walk E datagram (count + 1) =
      walk E datagram count + (sizeFieldAt E datagram (walk E datagram count)).toNat :=
  if_pos header

/-- Only the last size field can lead out by itself: after an earlier one, no header is left. -/
theorem exists_haltsAt_iff (buffer : BitVec w) (datagram : List UInt8) :
    (∃ count ≤ datagram.length / offsetofDataPtr,
        HaltsAt E buffer datagram (walk E datagram count)) ↔
      LeadsOut E buffer datagram := by
  constructor
  · rintro ⟨count, within, short | ⟨holdsHeader, exceeds, bounded⟩ | ⟨small, wraps⟩⟩
    · have further := walk_mono E datagram within
      exact .inl (by omega)
    · by_cases header : walk E datagram count + offsetofDataPtr ≤ datagram.length
      · have next := walk_succ E header
        rcases Nat.lt_or_eq_of_le within with sooner | rfl
        · have further := walk_mono E datagram (Nat.succ_le_of_lt sooner)
          rw [Nat.succ_eq_add_one] at further
          exact .inl (by omega)
        · exact .inr (.inl ⟨by omega, bounded⟩)
      · have further := walk_mono E datagram within
        exact .inl (by omega)
    · exact .inr (.inr ⟨count, within, small, wraps⟩)
  · rintro (short | ⟨exceeds, bounded⟩ | ⟨count, within, small, wraps⟩)
    · exact ⟨_, Nat.le_refl _, .inl short⟩
    · refine ⟨_, Nat.le_refl _, ?_⟩
      by_cases header : walk E datagram (datagram.length / offsetofDataPtr) + offsetofDataPtr ≤
          datagram.length
      · rw [walk_succ E header] at exceeds
        exact .inr (.inl ⟨by omega, exceeds, bounded⟩)
      · exact .inl (Nat.lt_of_not_le header)
    · exact ⟨count, within, .inr (.inr ⟨small, wraps⟩)⟩

namespace Holds

variable {object : WifiNetworkObject w} {datagram : List UInt8}

theorem atCursor (holds : Holds object datagram) (cursor : BitVec w) :
    Holds (object.atCursor cursor) datagram :=
  ⟨⟨holds.placed, holds.sized⟩, holds.window⟩

/-- The tests at a cursor are those at its position in the datagram. -/
theorem halts_iff (holds : Holds object datagram) {position : ℕ}
    (cursor : object.currentFrame.toNat = object.buffer.toNat + position) :
    Halts E object ↔ HaltsAt E object.buffer datagram position := by
  have finish := holds.finish
  by_cases header : object.currentFrame.toNat + offsetofDataPtr ≤ object.finish
  · have here : object.position = position := by
      rw [WifiNetworkObject.position, cursor, Nat.add_sub_cancel_left]
    have size := congrArg Frame.size (holds.headerFrame E (by omega) header)
    simp only [here] at size
    simp only [Halts, SizeRefused, HaltsAt, size, finish, cursor]
    omega
  · exact iff_of_true (.inl (Nat.lt_of_not_le header)) (.inl (by omega))

/-- On a wide target no size field moves the cursor past the end of the address space,
and the size fields in memory are those of the datagram until a test fails. -/
theorem toNat_chase (holds : Holds object datagram) (wide : 33 ≤ w)
    (start : object.currentFrame = object.buffer) {count : ℕ}
    (goes : ∀ earlier < count, ¬ HaltsAt E object.buffer datagram (walk E datagram earlier)) :
    (chase E object count).toNat = object.buffer.toNat + walk E datagram count := by
  have space : 2 ^ 33 ≤ 2 ^ w := Nat.pow_le_pow_right Nat.two_pos wide
  have bounded := finish_lt holds.placed holds.sized
  have finish := holds.finish
  induction count with
  | zero => rw [chase, start, walk, Nat.add_zero]
  | succ count ih =>
      have cursor : (chase E object count).toNat =
          object.buffer.toNat + walk E datagram count := by
        apply ih
        intro earlier sooner
        exact goes earlier (Nat.lt_succ_of_lt sooner)
      have last := goes count (Nat.lt_succ_self count)
      rw [HaltsAt, not_or, not_or] at last
      have header : walk E datagram count + offsetofDataPtr ≤ datagram.length :=
        Nat.le_of_not_lt last.1
      have here : (object.atCursor (chase E object count)).position = walk E datagram count := by
        rw [WifiNetworkObject.position, WifiNetworkObject.atCursor, cursor,
          Nat.add_sub_cancel_left]
      have lower : object.buffer.toNat ≤ (chase E object count).toNat := by omega
      have room : (chase E object count).toNat + offsetofDataPtr ≤ object.finish := by omega
      have size := congrArg Frame.size
        ((holds.atCursor (chase E object count)).headerFrame E lower room)
      simp only [here] at size
      have word : (sizeFieldAt E datagram (walk E datagram count)).toNat < 2 ^ 32 :=
        UInt32.toNat_lt _
      rw [chase, size, Pointer.toNat_advance, cursor, walk_succ E header, Nat.add_assoc]
      rw [cursor]
      omega

end Holds

/-- **A stored datagram is drained in time exactly when one of the first
`n / 7 + 1` size fields, each read where the last one led, stops the cursor; on a
target wider than 32 bits, exactly when the datagram's size fields lead out of it.** -/
theorem drainsInTime_iff {timeDiff : TimeDiff} {call : ReceiveCall}
    {receiverObject : WifiNetworkObject w} {senderObject : Option (WifiNetworkObject w)}
    {datagram : List UInt8} (placed : Placed receiverObject.buffer) (nonempty : datagram ≠ [])
    (short : datagram.length ≤ receivingBufferSize)
    (stores : Stores timeDiff call receiverObject senderObject datagram) :
    let stored := (receive timeDiff call receiverObject senderObject).receiverObject
    (DrainsInTime E stored datagram.length ↔
      ∃ count ≤ datagram.length / offsetofDataPtr,
        Halts E (stored.atCursor (chase E stored count))) ∧
    (33 ≤ w →
      (DrainsInTime E stored datagram.length ↔
        LeadsOut E receiverObject.buffer datagram)) := by
  intro stored
  obtain ⟨holds, cursor⟩ := receive_holds placed nonempty short stores
  have inMemory := drainsInTime_iff_halts E holds.toBuffered datagram.length
  refine ⟨inMemory, ?_⟩
  intro wide
  have buffer : stored.buffer = receiverObject.buffer := receive_buffer _ _ _ _
  rw [inMemory, ← buffer, ← exists_haltsAt_iff]
  apply exists_le_iff_of_agree
  intro count _ goes
  have led := holds.toNat_chase E wide (by rw [cursor, ← buffer]) goes
  exact (holds.atCursor _).halts_iff E led

/-- A datagram of one frame. -/
theorem drainsInTime_eight :
    DrainsInTime Endianness.littleEndianHost (storedAtFourGiB [1, 2, 3, 8, 0, 0, 0, 65])
      [1, 2, 3, 8, 0, 0, 0, 65].length :=
  ((drainsInTime_iff Endianness.littleEndianHost placed_fourGiB (List.cons_ne_nil _ _)
    (by decide) (stores_arrival [1, 2, 3, 8, 0, 0, 0, 65])).2 (by decide)).mpr (.inl (by decide))

/-- A header with the size field zero is never drained. -/
theorem not_drained_zero :
    ¬ ∃ count, (popFrame Endianness.littleEndianHost
      (popTimes Endianness.littleEndianHost (storedAtFourGiB [1, 2, 3, 0, 0, 0, 0])
        count)).result ≠ .default := by
  rintro ⟨count, error⟩
  have buffered : Buffered (storedAtFourGiB [1, 2, 3, 0, 0, 0, 0]) :=
    ⟨placed_fourGiB, by decide⟩
  have goes : ¬ Halts Endianness.littleEndianHost (storedAtFourGiB [1, 2, 3, 0, 0, 0, 0]) := by
    rw [← popFrame_ne_default_iff _ buffered]
    decide
  rw [popTimes_of_zero_size _ buffered (by decide) goes] at error
  exact error (by decide)

end WifiNetwork

end ARNetworkAL
