import ARNetworkAL.Library.Run
import ARNetworkAL.Wifi.Sender

/-!
# Runs of the WiFi sender

A sender serves `PushFrame` and `Send` in any order. Its queue stays what
`Queued` says as long as no frame is taken by a sum that wrapped.

`PushFrame` compares `size + frame->size`, a sum of two `uint32_t`, with the size
of the buffer, and copies `frame->size - 7` payload bytes. A size below seven and a
sum from `2 ^ 32` on both come out small, and `SafelySized` is the exact condition
under which neither is taken for a frame that fits (`pushFrame_inside_iff`).
-/

set_option autoImplicit false

namespace ARNetworkAL

open Library

namespace WifiNetwork

variable {w : ℕ} (E : Endianness)

/-- A call on the sender, with what the operating system answers. -/
inductive SenderCall (w : ℕ) where
  | push (caller : Mem UInt8) (answer : OutqAnswer) (frame : Frame w)
  | send (answer : SocketSend) (receiverObject : Option (WifiNetworkObject w))

/-- The sender object after a call. -/
def SenderCall.next (object : WifiNetworkObject w) : SenderCall w → WifiNetworkObject w
  | push caller answer frame => (pushFrame E caller answer object frame).senderObject
  | send answer receiverObject => (WifiNetwork.send answer object receiverObject).senderObject

/-! ## What each call does to the queue -/

namespace Queued

variable {object : WifiNetworkObject w} {bytes : List UInt8}

/-- The size of the socket buffer is no part of the queue. -/
theorem setSocketBufferSize (queued : Queued object bytes) (socketBufferSize : ℤ) :
    Queued { object with socketBufferSize := socketBufferSize } bytes :=
  ⟨queued.placed, queued.window, queued.within, queued.cursor⟩

/-- Neither is the count of the bytes sent. -/
theorem setBwCurrent (queued : Queued object bytes) (bwCurrent : UInt32) :
    Queued { object with bwCurrent := bwCurrent } bytes :=
  ⟨queued.placed, queued.window, queued.within, queued.cursor⟩

/-- Neither is the disconnection. -/
theorem setDisconnected (queued : Queued object bytes) (isDisconnected : UInt8) :
    Queued { object with isDisconnected := isDisconnected } bytes :=
  ⟨queued.placed, queued.window, queued.within, queued.cursor⟩

/-- A refused frame leaves the queue. -/
theorem push_refused (queued : Queued object bytes) (caller : Mem UInt8) {answer : OutqAnswer}
    {frame : Frame w} (refused : ¬ Admits answer object frame) :
    Queued (pushFrame E caller answer object frame).senderObject bytes := by
  obtain ⟨socketBufferSize, outcome⟩ := pushFrame_refused E caller refused
  rw [outcome]
  exact queued.setSocketBufferSize socketBufferSize

/-- A frame that is taken, and fits, joins the queue. -/
theorem push_admitted (queued : Queued object bytes) (caller : Mem UInt8) {answer : OutqAnswer}
    {frame : Frame w} (admitted : Admits answer object frame)
    (holdsHeader : offsetofDataPtr ≤ frame.size.toNat)
    (room : bytes.length + frame.size.toNat ≤ sendingBufferSize) :
    Queued (pushFrame E caller answer object frame).senderObject
      (bytes ++ wire E (frame.content caller)) := by
  obtain ⟨socketBufferSize, outcome⟩ := pushFrame_admitted E caller admitted
  rw [outcome]
  exact (queued.setSocketBufferSize socketBufferSize).appendFrame E caller holdsHeader room

/-- `Send` leaves the queue or empties it. -/
theorem send (queued : Queued object bytes) (answer : SocketSend)
    (receiverObject : Option (WifiNetworkObject w)) :
    Queued (WifiNetwork.send answer object receiverObject).senderObject bytes ∨
      Queued (WifiNetwork.send answer object receiverObject).senderObject [] := by
  rcases send_cases answer object receiverObject with
    ⟨_, outcome⟩ | ⟨_, _, _, outcome⟩ | ⟨_, _, outcome⟩ | ⟨_, _, _, _, _, _, outcome⟩
  · rw [outcome]
    exact .inl queued
  · rw [outcome]
    exact .inr (queued.clearQueue.setBwCurrent _)
  · rw [outcome]
    exact .inr queued.clearQueue
  · rw [outcome]
    exact .inl (queued.setDisconnected _)

end Queued

/-! ## Sums that wrap -/

/-- The size counts a header and the sum of the sizes does not wrap, or the sum
that `PushFrame` computes is refused by one of its two tests. -/
def SafelySized (answer : OutqAnswer) (object : WifiNetworkObject w) (frame : Frame w) : Prop :=
  (offsetofDataPtr ≤ frame.size.toNat ∧ object.size.toNat + frame.size.toNat < 2 ^ 32) ∨
    sendingBufferSize < (object.size.toNat + frame.size.toNat) % 2 ^ 32 ∨
      (0 ≤ (getAvailableSendSize answer object).1 ∧
        (getAvailableSendSize answer object).1.toNat % 2 ^ 32 <
          (object.size.toNat + frame.size.toNat) % 2 ^ 32)

instance (answer : OutqAnswer) (object : WifiNetworkObject w) (frame : Frame w) :
    Decidable (SafelySized answer object frame) :=
  inferInstanceAs (Decidable (_ ∨ _))

/-- The tests of `PushFrame`, on numbers. -/
theorem admits_iff (answer : OutqAnswer) (object : WifiNetworkObject w) (frame : Frame w) :
    Admits answer object frame ↔
      (object.size.toNat + frame.size.toNat) % 2 ^ 32 ≤ sendingBufferSize ∧
        (0 ≤ (getAvailableSendSize answer object).1 →
          (object.size.toNat + frame.size.toNat) % 2 ^ 32 ≤
            (getAvailableSendSize answer object).1.toNat % 2 ^ 32) := by
  rw [Admits, UInt32.le_iff_toNat_le, UInt32.toNat_add, UInt32.toNat_ofNat']

/-- Among the frames that are taken, the safely sized ones are those that fit. -/
theorem safelySized_iff_of_admits {answer : OutqAnswer} {object : WifiNetworkObject w}
    {frame : Frame w} (admitted : Admits answer object frame) :
    SafelySized answer object frame ↔
      offsetofDataPtr ≤ frame.size.toNat ∧
        object.size.toNat + frame.size.toNat ≤ sendingBufferSize := by
  obtain ⟨small, room⟩ := (admits_iff answer object frame).mp admitted
  rw [sendingBufferSize_eq] at *
  constructor
  · rintro (⟨holdsHeader, exact⟩ | exceeds | ⟨known, exceeds⟩)
    · rw [Nat.mod_eq_of_lt exact] at small
      exact ⟨holdsHeader, small⟩
    · rw [sendingBufferSize_eq] at exceeds
      omega
    · have fits := room known
      omega
  · rintro ⟨holdsHeader, fits⟩
    exact .inl ⟨holdsHeader, by omega⟩

/-- A frame that is not taken is safely sized. -/
theorem safelySized_of_not_admits {answer : OutqAnswer} {object : WifiNetworkObject w}
    {frame : Frame w} (refused : ¬ Admits answer object frame) :
    SafelySized answer object frame := by
  rw [admits_iff, not_and, Classical.not_imp] at refused
  by_cases small : (object.size.toNat + frame.size.toNat) % 2 ^ 32 ≤ sendingBufferSize
  · obtain ⟨known, exceeds⟩ := refused small
    exact .inr (.inr ⟨known, Nat.lt_of_not_le exceeds⟩)
  · exact .inr (.inl (Nat.lt_of_not_le small))

/-- The calls of a run in which every frame is safely sized. -/
def SenderCall.Safe (object : WifiNetworkObject w) : SenderCall w → Prop
  | push _ answer frame => SafelySized answer object frame
  | send _ _ => True

instance (object : WifiNetworkObject w) : (call : SenderCall w) → Decidable (call.Safe object)
  | .push _ answer frame => inferInstanceAs (Decidable (SafelySized answer object frame))
  | .send _ _ => inferInstanceAs (Decidable True)

/-- What one such call preserves. -/
theorem Queued.next {object : WifiNetworkObject w} {bytes : List UInt8}
    (queued : Queued object bytes) {call : SenderCall w} (safe : call.Safe object) :
    ∃ bytes', Queued (call.next E object) bytes' := by
  cases call with
  | push caller answer frame =>
      by_cases admitted : Admits answer object frame
      · obtain ⟨holdsHeader, room⟩ := (safelySized_iff_of_admits admitted).mp safe
        rw [queued.size] at room
        exact ⟨_, queued.push_admitted E caller admitted holdsHeader room⟩
      · exact ⟨_, queued.push_refused E caller admitted⟩
  | send answer receiverObject =>
      rcases queued.send answer receiverObject with left | emptied
      · exact ⟨_, left⟩
      · exact ⟨_, emptied⟩

/-- The queue in every state that such a run reaches. -/
theorem queued_of_run {start object : WifiNetworkObject w} (asNew : QueueAsNew start)
    {calls : List (SenderCall w)}
    (run : Run (restrict SenderCall.Safe (follows (SenderCall.next E))) start calls object) :
    ∃ bytes, Queued object bytes := by
  refine Run.invariant (fun object => ∃ bytes, Queued object bytes) ?_ run
    ⟨[], Queued.of_queueAsNew asNew⟩
  rintro before call after ⟨bytes, queued⟩ ⟨safe, taken⟩
  rw [← show SenderCall.next E before call = after from taken]
  exact queued.next E safe

/-! ## PushFrame stays inside its buffer -/

/-- An accepted frame fits, and exactly its bytes are appended, inside the buffer. -/
structure AppendsInside (caller : Mem UInt8) (object : WifiNetworkObject w) (frame : Frame w)
    (outcome : PushOutcome w) : Prop where
  holdsHeader : offsetofDataPtr ≤ frame.size.toNat
  room : object.size.toNat + frame.size.toNat ≤ sendingBufferSize
  buffer : outcome.senderObject.buffer = object.buffer
  size : outcome.senderObject.size.toNat = object.size.toNat + frame.size.toNat
  cursor : outcome.senderObject.currentFrame = outcome.senderObject.bufferEnd
  window : outcome.senderObject.window = object.window ++ wire E (frame.content caller)
  writes : ∀ region ∈ outcome.writes,
    region.Within object.buffer.toNat (object.buffer.toNat + sendingBufferSize)
  written : (outcome.writes.map Region.count).sum = frame.size.toNat
  reads : outcome.reads = [⟨frame.dataPtr.toNat, frame.size.toNat - offsetofDataPtr⟩]

/-- Nothing of the queue differs. -/
structure SameQueue (object after : WifiNetworkObject w) : Prop where
  size : after.size = object.size
  currentFrame : after.currentFrame = object.currentFrame
  buffer : after.buffer = object.buffer
  heap : after.heap = object.heap

/-- Nothing of the queue changes, and nothing is written. -/
structure LeavesQueue (object : WifiNetworkObject w) (outcome : PushOutcome w) : Prop
    extends SameQueue object outcome.senderObject where
  writes : outcome.writes = []

/-- `PushFrame` never leaves its buffer: it returns `DEFAULT` only for a frame that
it appends inside the buffer, and in every other case an error that leaves the queue. -/
structure PushInside (caller : Mem UInt8) (answer : OutqAnswer) (object : WifiNetworkObject w)
    (frame : Frame w) : Prop where
  accepted : (pushFrame E caller answer object frame).result = .default →
    AppendsInside E caller object frame (pushFrame E caller answer object frame)
  refused : (pushFrame E caller answer object frame).result ≠ .default →
    LeavesQueue object (pushFrame E caller answer object frame)

theorem pushInside_of_not_admits {caller : Mem UInt8} {answer : OutqAnswer}
    {object : WifiNetworkObject w} {frame : Frame w} (refused : ¬ Admits answer object frame) :
    PushInside E caller answer object frame := by
  obtain ⟨_, outcome⟩ := pushFrame_refused E caller refused
  refine ⟨?_, ?_⟩
  · intro accepted
    rw [outcome] at accepted
    cases accepted
  · intro _
    rw [outcome]
    exact ⟨⟨rfl, rfl, rfl, rfl⟩, rfl⟩

theorem pushInside_of_room {caller : Mem UInt8} {answer : OutqAnswer}
    {object : WifiNetworkObject w} {bytes : List UInt8} (queued : Queued object bytes)
    {frame : Frame w} (admitted : Admits answer object frame)
    (holdsHeader : offsetofDataPtr ≤ frame.size.toNat)
    (room : object.size.toNat + frame.size.toNat ≤ sendingBufferSize) :
    PushInside E caller answer object frame := by
  have counted := room
  rw [queued.size] at counted
  have after := queued.push_admitted E caller admitted holdsHeader counted
  obtain ⟨socketBufferSize, outcome⟩ := pushFrame_admitted E caller admitted
  have same := queued.setSocketBufferSize socketBufferSize
  have blocks := same.appendFrame_writes E caller holdsHeader counted
  refine ⟨?_, ?_⟩
  · intro _
    constructor
    · exact holdsHeader
    · exact room
    · rw [outcome]
      rfl
    · rw [after.size, queued.size, List.length_append,
        length_wire E (frame.content_wellSized caller holdsHeader)]
      rfl
    · exact after.cursor
    · rw [after.window, queued.window]
    · rw [outcome, blocks]
      simp only [offsetofDataPtr_eq, sendingBufferSize_eq, List.forall_mem_cons, Region.Within]
        at holdsHeader counted ⊢
      refine ⟨?_, ?_, ?_, ?_, ?_, by simp⟩ <;> omega
    · rw [outcome, blocks]
      simp only [offsetofDataPtr_eq, List.map_cons, List.map_nil, List.sum_cons, List.sum_nil]
        at holdsHeader ⊢
      omega
    · rw [outcome, ← toNat_dataSize holdsHeader]
  · intro error
    rw [outcome] at error
    exact absurd rfl error

/-- **In every state that safely sized frames lead to, a frame is safely sized
exactly when `PushFrame` stays inside its buffer for it.** -/
theorem pushFrame_inside_iff {start object : WifiNetworkObject w} (asNew : QueueAsNew start)
    {calls : List (SenderCall w)}
    (run : Run (restrict SenderCall.Safe (follows (SenderCall.next E))) start calls object)
    (caller : Mem UInt8) (answer : OutqAnswer) (frame : Frame w) :
    PushInside E caller answer object frame ↔ SafelySized answer object frame := by
  obtain ⟨bytes, queued⟩ := queued_of_run E asNew run
  by_cases admitted : Admits answer object frame
  · rw [safelySized_iff_of_admits admitted]
    constructor
    · intro inside
      have taken : (pushFrame E caller answer object frame).result = .default := by
        rw [pushFrame_result, if_pos admitted]
      obtain ⟨holdsHeader, room⟩ := inside.accepted taken
      exact ⟨holdsHeader, room⟩
    · rintro ⟨holdsHeader, room⟩
      exact pushInside_of_room E queued admitted holdsHeader room
  · exact iff_of_true (pushInside_of_not_admits E admitted) (safelySized_of_not_admits admitted)

/-- A second frame of nine bytes. -/
theorem pushFrame_inside_nine :
    PushInside Endianness.littleEndianHost (fun _ => 0) (.bytes 40)
      (SenderCall.next Endianness.littleEndianHost
        ((newSender (.cleared 64) fourGiB).connected 3 (4, 5) 212992)
        (.push (fun _ => 0) (.bytes 0) ⟨1, 2, 3, 9, 0⟩)) ⟨1, 2, 4, 9, 0⟩ :=
  (pushFrame_inside_iff Endianness.littleEndianHost
    (queueAsNew_connected (.cleared 64) placed_fourGiB 3 (4, 5) 212992)
    (.single ⟨by decide, rfl⟩) _ _ _).mpr (by decide)

/-- A frame of size zero is taken by an empty queue, which then copies `2 ^ 32 - 7`
payload bytes. -/
theorem pushFrame_not_inside_zero :
    ¬ ∀ (calls : List (SenderCall 64)) (object : WifiNetworkObject 64),
      Run (follows (SenderCall.next Endianness.littleEndianHost))
        ((newSender (.cleared 64) fourGiB).connected 3 (4, 5) 212992) calls object →
      ∀ (caller : Mem UInt8) (answer : OutqAnswer) (frame : Frame 64),
        PushInside Endianness.littleEndianHost caller answer object frame := by
  intro claimed
  have inside := claimed [] _ (.nil _) (fun _ => 0) (.bytes 0) ⟨1, 2, 3, 0, 0⟩
  have appended := inside.accepted (by decide)
  exact absurd appended.holdsHeader (by decide)

end WifiNetwork

end ARNetworkAL
