import ARNetworkAL.Library.Run
import ARNetworkAL.Wifi.Receiver

/-!
# The cursor of the WiFi receiver

`PopFrame` walks a cursor over the bytes that the last `Receive` stored. It makes
two tests on addresses: that seven bytes are left for a header, and that the
size field leaves no more payload than there is. The second one subtracts
`frame->size - offsetof (ARNETWORKAL_Frame_t, dataPtr)` from the end of the bytes
in use, and wraps when the size is below seven or larger than the address of the
end. `SizeRefused` says on numbers when it fails, and `popFrame_cases` is
`PopFrame` by these two tests.
-/

set_option autoImplicit false

namespace ARNetworkAL

open Library

namespace WifiNetwork

variable {w : ℕ} (E : Endianness)

namespace WifiNetworkObject

/-- The address after the bytes in use, as a number. -/
def finish (object : WifiNetworkObject w) : ℕ := object.buffer.toNat + object.size.toNat

/-- The number of bytes between the start of the buffer and the cursor. -/
def position (object : WifiNetworkObject w) : ℕ :=
  object.currentFrame.toNat - object.buffer.toNat

/-- The number of bytes in use from the cursor on. -/
def remaining (object : WifiNetworkObject w) : ℕ := object.finish - object.currentFrame.toNat

end WifiNetworkObject

/-! ## The two tests -/

/-- The second test fails for a size: it is larger than what is left but not than
the address of the end plus a header, or it is below a header and the end is at the
top of the address space. -/
def SizeRefused (object : WifiNetworkObject w) (size : ℕ) : Prop :=
  (offsetofDataPtr ≤ size ∧ object.finish < object.currentFrame.toNat + size ∧
      size ≤ object.finish + offsetofDataPtr) ∨
    (size < offsetofDataPtr ∧ 2 ^ w ≤ object.finish + (offsetofDataPtr - size))

theorem Placed.le_finish {object : WifiNetworkObject w} (placed : Placed object.buffer) :
    offsetofDataPtr ≤ object.finish :=
  placed.low.trans (Nat.le_add_right _ _)

section

variable {object : WifiNetworkObject w} (placed : Placed object.buffer)
  (sized : object.size.toNat ≤ receivingBufferSize)

include placed sized

theorem finish_lt : object.finish < 2 ^ w := by
  have high := placed.high
  rw [sendingBufferSize_eq] at high
  rw [receivingBufferSize_eq] at sized
  simp only [WifiNetworkObject.finish]
  omega

theorem toNat_bufferEnd : object.bufferEnd.toNat = object.finish :=
  WifiNetworkObject.toNat_bufferEnd placed sized

/-- The first test. -/
theorem noHeader_iff :
    Pointer.retreat object.bufferEnd offsetofDataPtr < object.currentFrame ↔
      object.finish < object.currentFrame.toNat + offsetofDataPtr := by
  have finish := toNat_bufferEnd placed sized
  have low := placed.le_finish
  rw [BitVec.lt_def, Pointer.toNat_retreat (by rw [finish]; exact low), finish]
  omega

/-- The payload starts inside the address space. -/
theorem toNat_payload (header : object.currentFrame.toNat + offsetofDataPtr ≤ object.finish) :
    (Pointer.advance object.currentFrame offsetofDataPtr).toNat =
      object.currentFrame.toNat + offsetofDataPtr :=
  Pointer.toNat_advance (Nat.lt_of_le_of_lt header (finish_lt placed sized))

/-- The second test. -/
theorem noPayload_iff (header : object.currentFrame.toNat + offsetofDataPtr ≤ object.finish)
    {size : ℕ} (word : size < 2 ^ 32) :
    object.bufferEnd - (BitVec.ofNat w size - BitVec.ofNat w offsetofDataPtr) <
        Pointer.advance object.currentFrame offsetofDataPtr ↔
      SizeRefused object size := by
  have finish := toNat_bufferEnd placed sized
  have bounded := finish_lt placed sized
  have low := placed.low
  have space := placed.addressSpace
  rw [BitVec.lt_def, toNat_payload placed sized header, SizeRefused]
  simp only [WifiNetworkObject.finish, offsetofDataPtr_eq] at *
  rcases Nat.lt_or_ge size 7 with small | large
  · rw [Pointer.retreat_sub_of_lt small, Pointer.toNat_advance_mod, finish]
    rcases Nat.lt_or_ge (object.buffer.toNat + object.size.toNat + (7 - size)) (2 ^ w) with
      room | past
    · rw [Nat.mod_eq_of_lt room]
      omega
    · rw [Nat.mod_eq_sub_mod past, Nat.mod_eq_of_lt (by omega)]
      omega
  · rw [Pointer.retreat_sub_of_le large]
    rcases Nat.lt_or_ge (object.buffer.toNat + object.size.toNat) (size - 7) with past | room
    · rw [Pointer.toNat_retreat_wraps (by rw [finish]; exact past) (by omega), finish]
      omega
    · rw [Pointer.toNat_retreat (by rw [finish]; exact room), finish]
      omega

/-- The blocks that reading a header touches. -/
theorem headerReads_eq (header : object.currentFrame.toNat + offsetofDataPtr ≤ object.finish) :
    headerReads object =
      [⟨object.currentFrame.toNat, 1⟩, ⟨object.currentFrame.toNat + 1, 1⟩,
        ⟨object.currentFrame.toNat + 2, 1⟩, ⟨object.currentFrame.toNat + 3, 4⟩] := by
  have bounded := finish_lt placed sized
  have moved (count : ℕ) (small : count ≤ 7) :
      (Pointer.advance object.currentFrame count).toNat = object.currentFrame.toNat + count :=
    Pointer.toNat_advance (by rw [offsetofDataPtr_eq] at header; omega)
  simp [headerReads, Pointer.advance_advance, moved]

theorem headerReads_within
    (header : object.currentFrame.toNat + offsetofDataPtr ≤ object.finish) :
    ∀ region ∈ headerReads object, region.Within object.currentFrame.toNat object.finish := by
  rw [headerReads_eq placed sized header]
  simp only [offsetofDataPtr_eq, List.forall_mem_cons, Region.Within] at header ⊢
  refine ⟨?_, ?_, ?_, ?_, by simp⟩ <;> omega

/-- **`PopFrame` by its two tests.** -/
theorem popFrame_cases :
    (object.finish < object.currentFrame.toNat + offsetofDataPtr ∧
      popFrame E object =
        popFailed (if object.currentFrame.toNat = object.finish then .bufferEmpty else .badFrame)
          object []) ∨
    (object.currentFrame.toNat + offsetofDataPtr ≤ object.finish ∧
      SizeRefused object (headerFrame E object).size.toNat ∧
        popFrame E object = popFailed .badFrame object (headerReads object)) ∨
    (object.currentFrame.toNat + offsetofDataPtr ≤ object.finish ∧
      ¬ SizeRefused object (headerFrame E object).size.toNat ∧
        popFrame E object =
          ⟨.default,
            { object with
              currentFrame :=
                Pointer.advance object.currentFrame (headerFrame E object).size.toNat },
            headerFrame E object, headerReads object⟩) := by
  have dataPtr := headerFrame_dataPtr E object
  have atEnd : object.currentFrame = object.bufferEnd ↔
      object.currentFrame.toNat = object.finish := by
    rw [← toNat_bufferEnd placed sized, BitVec.toNat_inj]
  rcases Nat.lt_or_ge object.finish (object.currentFrame.toNat + offsetofDataPtr) with
    short | header
  · refine .inl ⟨short, ?_⟩
    simp only [popFrame, if_pos ((noHeader_iff placed sized).mpr short), atEnd]
    split <;> rfl
  · have held := Nat.not_lt.mpr header
    rw [← noHeader_iff placed sized] at held
    have word : (headerFrame E object).size.toNat < 2 ^ 32 := UInt32.toNat_lt _
    have test := noPayload_iff placed sized header word
    rw [← dataPtr] at test
    simp only [popFrame, if_neg held]
    by_cases refused : SizeRefused object (headerFrame E object).size.toNat
    · exact .inr (.inl ⟨header, refused, if_pos (test.mpr refused)⟩)
    · refine .inr (.inr ⟨header, refused, ?_⟩)
      rw [if_neg (test.not.mpr refused), dataPtr, Pointer.advance_advance,
        Pointer.retreat_advance _ (Nat.le_add_right _ _), Nat.add_sub_cancel_left]

theorem popFrame_default_iff :
    (popFrame E object).result = .default ↔
      object.currentFrame.toNat + offsetofDataPtr ≤ object.finish ∧
        ¬ SizeRefused object (headerFrame E object).size.toNat := by
  rcases popFrame_cases E placed sized with
    ⟨short, outcome⟩ | ⟨header, refused, outcome⟩ | ⟨header, accepted, outcome⟩
  · rw [outcome]
    refine iff_of_false ?_ ?_
    · simp only [popFailed]
      split <;> simp
    · intro accepts
      exact Nat.not_le_of_lt short accepts.1
  · rw [outcome]
    refine iff_of_false (by simp [popFailed]) ?_
    intro accepts
    exact accepts.2 refused
  · rw [outcome]
    exact iff_of_true rfl ⟨header, accepted⟩

end

/-! ## Runs of the receiver -/

/-- A call on the receiver, with what the operating system answers and the state
of the sender. -/
inductive ReceiverCall (w : ℕ) where
  | receive (call : ReceiveCall) (senderObject : Option (WifiNetworkObject w))
  | pop

/-- The receiver object after a call. -/
def ReceiverCall.next (timeDiff : TimeDiff) (object : WifiNetworkObject w) :
    ReceiverCall w → WifiNetworkObject w
  | receive call senderObject =>
      (WifiNetwork.receive timeDiff call object senderObject).receiverObject
  | pop => (popFrame E object).receiverObject

/-- The buffer and the size as `New` leaves them, and as every call keeps them. -/
structure Buffered (object : WifiNetworkObject w) : Prop where
  placed : Placed object.buffer
  sized : object.size.toNat ≤ receivingBufferSize

/-- The cursor is among the bytes in use. -/
structure InWindow (object : WifiNetworkObject w) : Prop extends Buffered object where
  lower : object.buffer.toNat ≤ object.currentFrame.toNat
  upper : object.currentFrame.toNat ≤ object.finish

theorem buffered_bound (raw : WifiNetworkObject w) {buffer : BitVec w} (placed : Placed buffer)
    (socket : ℤ) (fifo : ℤ × ℤ) (timeoutSec : UInt32) :
    Buffered ((newReceiver raw buffer).bound socket fifo timeoutSec) :=
  ⟨placed, Nat.zero_le _⟩

/-- **`Receive` puts the cursor back at the start of the buffer, whatever happens.** -/
theorem receive_inWindow {object : WifiNetworkObject w} (buffered : Buffered object)
    (timeDiff : TimeDiff) (call : ReceiveCall) (senderObject : Option (WifiNetworkObject w)) :
    InWindow (receive timeDiff call object senderObject).receiverObject := by
  have placed := buffered.placed
  rw [← receive_buffer timeDiff call object senderObject] at placed
  exact ⟨⟨placed, receive_sized buffered.sized timeDiff call senderObject⟩, Nat.le_refl _,
    Nat.le_add_right _ _⟩

namespace InWindow

variable {object : WifiNetworkObject w}

/-- Dropping what is left. -/
theorem dropped (window : InWindow object) :
    InWindow { object with currentFrame := object.buffer, size := 0 } :=
  ⟨⟨window.placed, Nat.zero_le _⟩, Nat.le_refl _, Nat.le_add_right _ _⟩

/-- Moving over bytes that are in use. -/
theorem advance (window : InWindow object) {size : ℕ}
    (inside : object.currentFrame.toNat + size ≤ object.finish) :
    InWindow { object with currentFrame := Pointer.advance object.currentFrame size } := by
  have bounded := finish_lt window.placed window.sized
  have moved : (Pointer.advance object.currentFrame size).toNat =
      object.currentFrame.toNat + size := Pointer.toNat_advance (by omega)
  refine ⟨⟨window.placed, window.sized⟩, ?_, ?_⟩
  · rw [moved]
    exact window.lower.trans (Nat.le_add_right _ _)
  · rw [moved]
    exact inside

end InWindow

/-- A size field that passes the check and does not wrap it is of bytes in use. -/
theorem inside_of_accepted {object : WifiNetworkObject w} {size : ℕ}
    (header : object.currentFrame.toNat + offsetofDataPtr ≤ object.finish)
    (accepted : ¬ SizeRefused object size) (unwrapped : size ≤ object.finish + offsetofDataPtr) :
    object.currentFrame.toNat + size ≤ object.finish := by
  simp only [SizeRefused, offsetofDataPtr_eq] at *
  omega

/-- `PopFrame` keeps the cursor among the bytes in use if no size field wraps the check. -/
theorem popFrame_inWindow {object : WifiNetworkObject w} (window : InWindow object)
    (unwrapped : object.currentFrame.toNat + offsetofDataPtr ≤ object.finish →
      (headerFrame E object).size.toNat ≤ object.finish + offsetofDataPtr) :
    InWindow (popFrame E object).receiverObject := by
  rcases popFrame_cases E window.placed window.sized with
    ⟨_, outcome⟩ | ⟨_, _, outcome⟩ | ⟨header, accepted, outcome⟩
  · rw [outcome]
    exact window.dropped
  · rw [outcome]
    exact window.dropped
  · rw [outcome]
    exact window.advance (inside_of_accepted header accepted (unwrapped header))

/-- A buffer above 4 GiB has no size field past its end. -/
theorem unwrapped_of_above {object : WifiNetworkObject w}
    (above : 2 ^ 32 ≤ object.buffer.toNat) :
    (headerFrame E object).size.toNat ≤ object.finish + offsetofDataPtr := by
  have word : (headerFrame E object).size.toNat < 2 ^ 32 := UInt32.toNat_lt _
  rw [WifiNetworkObject.finish]
  omega

/-- The blocks that `PopFrame` reads are among the bytes in use. -/
theorem popFrame_reads {object : WifiNetworkObject w} (window : InWindow object) :
    ∀ region ∈ (popFrame E object).reads,
      region.Within object.buffer.toNat (object.buffer.toNat + object.size.toNat) := by
  obtain ⟨⟨placed, sized⟩, lower, upper⟩ := window
  rcases popFrame_cases E placed sized with
    ⟨_, outcome⟩ | ⟨header, _, outcome⟩ | ⟨header, _, outcome⟩
  · rw [outcome]
    simp [popFailed]
  · rw [outcome]
    intro region member
    exact (headerReads_within placed sized header region member).mono lower (Nat.le_refl _)
  · rw [outcome]
    intro region member
    exact (headerReads_within placed sized header region member).mono lower (Nat.le_refl _)

/-- **Every run that starts with a `Receive` keeps the cursor among the bytes in
use, and the header bytes that `PopFrame` reads are among them.** -/
theorem receiver_window {timeDiff : TimeDiff} {start object : WifiNetworkObject 64}
    (buffered : Buffered start) (above : 2 ^ 32 ≤ start.buffer.toNat) {call : ReceiveCall}
    {senderObject : Option (WifiNetworkObject 64)} {calls : List (ReceiverCall 64)}
    (run : Run (follows (ReceiverCall.next E timeDiff)) start
      (.receive call senderObject :: calls) object) :
    object.size.toNat ≤ receivingBufferSize ∧
      object.buffer.toNat ≤ object.currentFrame.toNat ∧
      object.currentFrame.toNat ≤ object.buffer.toNat + object.size.toNat ∧
      ∀ region ∈ (popFrame E object).reads,
        region.Within object.buffer.toNat (object.buffer.toNat + object.size.toNat) := by
  obtain ⟨window, -⟩ : InWindow object ∧ 2 ^ 32 ≤ object.buffer.toNat := by
    cases run with
    | cons first rest =>
        subst first
        refine Run.invariant (fun object => InWindow object ∧ 2 ^ 32 ≤ object.buffer.toNat) ?_
          rest ?_
        · rintro before call after ⟨window, above⟩ rfl
          cases call with
          | receive call senderObject =>
              refine ⟨receive_inWindow window.toBuffered timeDiff call senderObject, ?_⟩
              simpa only [ReceiverCall.next, receive_buffer] using above
          | pop =>
              refine ⟨popFrame_inWindow E window fun _ => unwrapped_of_above E above, ?_⟩
              simpa only [ReceiverCall.next, popFrame_buffer] using above
        · refine ⟨receive_inWindow buffered timeDiff call senderObject, ?_⟩
          simpa only [ReceiverCall.next, receive_buffer] using above
  exact ⟨window.sized, window.lower, window.upper, popFrame_reads E window⟩

/-- A datagram whose size field is far too large. -/
theorem receiver_window_hostile :
    let object := ReceiverCall.next Endianness.littleEndianHost exactDiff
      newAtFourGiB
      (.receive ⟨.ready true false, [.data [1, 2, 3, 255, 255, 255, 255, 0]],
        .constant ⟨1, 0⟩⟩ none)
    object.size.toNat ≤ receivingBufferSize ∧
      object.buffer.toNat ≤ object.currentFrame.toNat ∧
      object.currentFrame.toNat ≤ object.buffer.toNat + object.size.toNat ∧
      ∀ region ∈ (popFrame Endianness.littleEndianHost object).reads,
        region.Within object.buffer.toNat (object.buffer.toNat + object.size.toNat) :=
  receiver_window Endianness.littleEndianHost (buffered_bound (.cleared 64) placed_fourGiB _ _ _)
    (by decide) (.single rfl)

end WifiNetwork

end ARNetworkAL
