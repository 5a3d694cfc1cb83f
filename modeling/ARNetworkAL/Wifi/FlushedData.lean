import ARNetworkAL.Wifi.PayloadCheck
import ARNetworkAL.Wifi.ReceiveWindow
import ARNetworkAL.Wifi.ReceptionDate

/-!
# What becomes of flushed bytes

When the link was silent for too long `Receive` reads the socket empty and drops what it
reads. The loop that does so reads into the buffer that `PopFrame` parses, and this is
the one path of `Receive` that does not set `size`: what the last datagram left is still
said to be there, and the cursor is put at the start of it.

A shadow of the memory marks the bytes that the loop wrote. A `Receive` that flushes
leaves nothing to pop exactly if there was nothing to pop before
(`keepsFlushed_receive_iff`). In a run that flushes only then, no frame that is handed
out has a marked byte (`flushed_not_delivered`), as long as no size field wraps the
payload check.
-/

set_option autoImplicit false

namespace ARNetworkAL

open Library

namespace WifiNetwork

variable {w : ℕ} (E : Endianness)

/-! ## The bytes that the loop writes -/

/-- The blocks that `ARNETWORKAL_WifiNetwork_FlushReceiveSocket` writes, in order. -/
def flushWrites (receiverObject : WifiNetworkObject w) : List SocketRecv → List Region
  | [] => []
  | answer :: answers =>
      if receiverObject.recvIsFlushed = 0 then
        match answer with
        | .data (byte :: bytes) =>
            ⟨receiverObject.buffer.toNat, (received (byte :: bytes)).length⟩ ::
              flushWrites (receiverObject.fill (byte :: bytes)) answers
        | _ => []
      else []

/-- The loop drops the bytes it writes. -/
theorem flushWrites_count (object : WifiNetworkObject w) (answers : List SocketRecv) :
    ((flushWrites object answers).map Region.count).sum =
      (flushReceiveSocket object answers).2 := by
  induction answers generalizing object with
  | nil =>
      simp only [flushWrites, flushReceiveSocket]
      split <;> rfl
  | cons answer answers ih =>
      simp only [flushWrites, flushReceiveSocket]
      split
      · cases answer with
        | data bytes =>
            cases bytes with
            | nil => rfl
            | cons byte bytes =>
                simp only [List.map_cons, List.sum_cons, ih (object.fill (byte :: bytes))]
        | failed err => cases err <;> rfl
      · rfl

/-- A cell that is in none of the blocks keeps its value. -/
theorem flushReceiveSocket_heap {object : WifiNetworkObject w} {answers : List SocketRecv}
    {cell : ℕ}
    (apart : ∀ region ∈ flushWrites object answers,
      ¬ (region.address ≤ cell ∧ cell < region.address + region.count)) :
    (flushReceiveSocket object answers).1.heap cell = object.heap cell := by
  induction answers generalizing object with
  | nil =>
      simp only [flushReceiveSocket]
      split <;> rfl
  | cons answer answers ih =>
      simp only [flushWrites] at apart
      simp only [flushReceiveSocket]
      split
      · rename_i unflushed
        rw [if_pos unflushed] at apart
        cases answer with
        | data bytes =>
            cases bytes with
            | nil => rfl
            | cons byte bytes =>
                obtain ⟨first, rest⟩ := List.forall_mem_cons.mp apart
                rw [ih rest]
                exact if_neg first
        | failed err => cases err <;> rfl
      · rfl

/-! ## What a call leaves in use -/

/-- The way of `Receive` that flushes. -/
def Flushes (timeDiff : TimeDiff) (call : ReceiveCall) (receiverObject : WifiNetworkObject w) :
    Prop :=
  call.select.socketReady = true ∧
    (startReception call.clock.first receiverObject).recvIsFlushed = 0 ∧
      IsTooLongWithoutReceive timeDiff (startReception call.clock.first receiverObject)
        call.clock.flushCheck

instance (timeDiff : TimeDiff) (call : ReceiveCall) (receiverObject : WifiNetworkObject w) :
    Decidable (Flushes timeDiff call receiverObject) :=
  inferInstanceAs (Decidable (_ ∧ _))

theorem receive_path_flushed_iff (timeDiff : TimeDiff) (call : ReceiveCall)
    (object : WifiNetworkObject w) (senderObject : Option (WifiNetworkObject w)) :
    (receive timeDiff call object senderObject).path = .flushed ↔
      Flushes timeDiff call object := by
  rw [receive, Flushes]
  rcases receiveReady_cases timeDiff call (startReception call.clock.first object) senderObject
    with ⟨select, outcome⟩ | ⟨fifoReady, select, outcome⟩ | ⟨fifoReady, select, stale, outcome⟩ |
      ⟨fifoReady, select, fresh, outcome⟩
  · rw [outcome, select]
    simp [SelectAnswer.socketReady]
  · rw [outcome, select]
    simp [SelectAnswer.socketReady]
  · rw [outcome, select]
    exact iff_of_true rfl ⟨rfl, stale⟩
  · rw [outcome, select]
    exact iff_of_false (by simp) fun flushes => fresh flushes.2

theorem readSocket_size (object : WifiNetworkObject w) (answer : SocketRecv) :
    (readSocket object answer).2.1.size.toNat = (readSocket object answer).2.2 := by
  match answer with
  | .data [] => rfl
  | .data (byte :: bytes) =>
      have short := length_received (byte :: bytes)
      rw [receivingBufferSize_eq] at short
      simp only [readSocket, UInt32.toNat_ofNat']
      exact Nat.mod_eq_of_lt (by omega)
  | .failed _ => rfl

/-- **The bytes in use after a `Receive`**: those it read, or none, except after a flush. -/
theorem receive_size (timeDiff : TimeDiff) (call : ReceiveCall) (object : WifiNetworkObject w)
    (senderObject : Option (WifiNetworkObject w)) :
    (receive timeDiff call object senderObject).receiverObject.size.toNat =
      match (receive timeDiff call object senderObject).path with
      | .flushed => object.size.toNat
      | .read => (receive timeDiff call object senderObject).bytesRead
      | .selectError => 0
      | .notReady => 0 := by
  rw [← startReception_size call.clock.first object]
  simp only [receive]
  generalize startReception call.clock.first object = started
  rcases receiveReady_cases timeDiff call started senderObject with
    ⟨_, outcome⟩ | ⟨fifoReady, _, outcome⟩ | ⟨fifoReady, _, _, outcome⟩ | ⟨fifoReady, _, _, outcome⟩
  · rw [outcome]
    rfl
  · rw [outcome]
    simp only [checkDisconnection_size]
    rfl
  · obtain ⟨_, _, flushed⟩ := flushReceiveSocket_object started call.recvs
    rw [outcome, flushed]
  · rw [outcome]
    simp only [saveReceptionDate_size, readSocket_size]

/-- At the start of the buffer there is nothing to pop exactly if no byte is in use. -/
theorem popFrame_atStart_iff {object : WifiNetworkObject w} (buffered : Buffered object)
    (atStart : object.currentFrame = object.buffer) :
    (popFrame E object).result = .bufferEmpty ↔ object.size = 0 := by
  have start : object.currentFrame.toNat = object.finish ↔ object.size = 0 := by
    rw [atStart, WifiNetworkObject.finish, ← UInt32.toNat_inj]
    simp
  rcases popFrame_cases E buffered.placed buffered.sized with
    ⟨_, outcome⟩ | ⟨header, _, outcome⟩ | ⟨header, _, outcome⟩
  · rw [outcome, ← start]
    simp only [popFailed]
    split
    · rename_i atEnd
      exact iff_of_true rfl atEnd
    · rename_i notAtEnd
      exact iff_of_false (by simp) notAtEnd
  · rw [outcome, ← start]
    rw [offsetofDataPtr_eq] at header
    exact iff_of_false (by simp [popFailed]) (by omega)
  · rw [outcome, ← start]
    rw [offsetofDataPtr_eq] at header
    exact iff_of_false (by simp) (by omega)

/-! ## Marking the bytes -/

/-- A receiver, and a shadow of the memory that marks the bytes that were flushed. -/
structure Shadowed (w : ℕ) where
  object : WifiNetworkObject w
  shadow : Mem Bool

namespace Shadowed

/-- Nothing was flushed yet. -/
def fresh (object : WifiNetworkObject w) : Shadowed w := ⟨object, fun _ => false⟩

/-- The marks after a `Receive`: the loop marks what it writes, and a datagram that is
stored is not marked. -/
def shadowAfter (timeDiff : TimeDiff) (call : ReceiveCall)
    (senderObject : Option (WifiNetworkObject w)) (state : Shadowed w) : Mem Bool :=
  let outcome := receive timeDiff call state.object senderObject
  match outcome.path with
  | .flushed =>
      (flushWrites (startReception call.clock.first state.object) call.recvs).foldl
        (fun shadow region => shadow.blit region.address region.count fun _ => true) state.shadow
  | .read => state.shadow.blit state.object.buffer.toNat outcome.bytesRead fun _ => false
  | .selectError => state.shadow
  | .notReady => state.shadow

/-- The state after a call. -/
def next (timeDiff : TimeDiff) (state : Shadowed w) (call : ReceiverCall w) : Shadowed w where
  object := call.next E timeDiff state.object
  shadow :=
    match call with
    | .receive call senderObject => state.shadowAfter timeDiff call senderObject
    | .pop => state.shadow

/-- No byte of a block is marked. -/
def Unmarked (shadow : Mem Bool) (region : Region) : Prop :=
  ∀ index < region.count, shadow (region.address + index) = false

instance (shadow : Mem Bool) (region : Region) : Decidable (Unmarked shadow region) :=
  inferInstanceAs (Decidable (∀ index < region.count, _))

theorem Unmarked.mono {shadow : Mem Bool} {lower upper : ℕ} {region : Region}
    (unmarked : Unmarked shadow ⟨lower, upper - lower⟩) (within : region.Within lower upper) :
    Unmarked shadow region := by
  obtain ⟨below, above⟩ := within
  intro index bounded
  have there := unmarked (region.address + index - lower) (by simp only; omega)
  rwa [Nat.add_sub_of_le (below.trans (Nat.le_add_right _ _))] at there

theorem unmarked_blit (shadow : Mem Bool) (address count : ℕ) :
    Unmarked (shadow.blit address count fun _ => false) ⟨address, count⟩ := by
  intro index bounded
  exact if_pos ⟨Nat.le_add_right _ _, Nat.add_lt_add_left bounded _⟩

/-! ## What is never delivered -/

/-- What a call owes to the bytes that were flushed: a flush leaves nothing to pop, and a
frame that is handed out has none of them, in its header or in its payload. -/
def KeepsFlushed (timeDiff : TimeDiff) (state : Shadowed w) : ReceiverCall w → Prop
  | .receive call senderObject =>
      (receive timeDiff call state.object senderObject).path = .flushed →
        (popFrame E (receive timeDiff call state.object senderObject).receiverObject).result =
          .bufferEmpty
  | .pop =>
      (popFrame E state.object).result = .default →
        (∀ region ∈ (popFrame E state.object).reads, Unmarked state.shadow region) ∧
          Unmarked state.shadow ⟨(popFrame E state.object).frame.dataPtr.toNat,
            (popFrame E state.object).frame.size.toNat - offsetofDataPtr⟩

/-- The calls for which it does: a flush when no byte is in use, and a `PopFrame` that
meets no header, or a size field that does not wrap the payload check. -/
def Guarded (timeDiff : TimeDiff) (state : Shadowed w) : ReceiverCall w → Prop
  | .receive call _ => Flushes timeDiff call state.object → state.object.size = 0
  | .pop =>
      state.object.currentFrame.toNat + offsetofDataPtr ≤ state.object.finish →
        (sizeFieldAtCursor E state.object).toNat ≤ state.object.finish + offsetofDataPtr

instance (timeDiff : TimeDiff) (state : Shadowed w) :
    (call : ReceiverCall w) → Decidable (state.Guarded E timeDiff call)
  | .receive call _ =>
      inferInstanceAs (Decidable (Flushes timeDiff call state.object → state.object.size = 0))
  | .pop => inferInstanceAs (Decidable (_ ≤ _ → _ ≤ _))

/-- A buffer above 4 GiB is out of reach of a size field. -/
theorem guarded_pop_of_above (timeDiff : TimeDiff) {state : Shadowed w}
    (above : 2 ^ 32 ≤ state.object.buffer.toNat) : state.Guarded E timeDiff .pop := by
  intro _
  have word : (sizeFieldAtCursor E state.object).toNat < 2 ^ 32 := UInt32.toNat_lt _
  rw [WifiNetworkObject.finish]
  omega

/-- **A `Receive` that flushes leaves nothing to pop exactly if no byte was in use.** -/
theorem keepsFlushed_receive_iff (timeDiff : TimeDiff) {state : Shadowed w}
    (buffered : Buffered state.object) (call : ReceiveCall)
    (senderObject : Option (WifiNetworkObject w)) :
    state.KeepsFlushed E timeDiff (.receive call senderObject) ↔
      state.Guarded E timeDiff (.receive call senderObject) := by
  have after := receive_inWindow buffered timeDiff call senderObject
  have size := receive_size timeDiff call state.object senderObject
  rw [KeepsFlushed, Guarded, ← receive_path_flushed_iff timeDiff call state.object senderObject]
  refine imp_congr_right ?_
  intro flushed
  rw [flushed] at size
  rw [popFrame_atStart_iff E after.toBuffered rfl, ← UInt32.toNat_inj, size,
    ← UInt32.toNat_inj (b := 0)]

/-- The cursor is among the bytes in use, and none of these was flushed. -/
structure Clean (state : Shadowed w) : Prop extends InWindow state.object where
  unmarked : Unmarked state.shadow ⟨state.object.buffer.toNat, state.object.size.toNat⟩

theorem Clean.of_empty {state : Shadowed w} (window : InWindow state.object)
    (empty : state.object.size.toNat = 0) : state.Clean := by
  refine ⟨window, ?_⟩
  intro index bounded
  rw [empty] at bounded
  exact absurd bounded (Nat.not_lt_zero index)

/-- A `Receive` that does not flush over bytes in use leaves a clean window, whatever the
state before. -/
theorem clean_receive (timeDiff : TimeDiff) {state : Shadowed w}
    (buffered : Buffered state.object) {call : ReceiveCall}
    {senderObject : Option (WifiNetworkObject w)}
    (guarded : state.Guarded E timeDiff (.receive call senderObject)) :
    (state.next E timeDiff (.receive call senderObject)).Clean := by
  have after := receive_inWindow buffered timeDiff call senderObject
  have size := receive_size timeDiff call state.object senderObject
  rw [Guarded, ← receive_path_flushed_iff timeDiff call state.object senderObject] at guarded
  cases path : (receive timeDiff call state.object senderObject).path with
  | selectError =>
      rw [path] at size
      exact .of_empty after size
  | notReady =>
      rw [path] at size
      exact .of_empty after size
  | flushed =>
      rw [path, guarded path] at size
      exact .of_empty after size
  | read =>
      refine ⟨after, ?_⟩
      rw [path] at size
      simp only [next, ReceiverCall.next, receive_buffer, size, shadowAfter, path]
      exact unmarked_blit _ _ _

theorem sizeFieldAtCursor_eq {object : WifiNetworkObject w} (window : InWindow object)
    (header : object.currentFrame.toNat + offsetofDataPtr ≤ object.finish) :
    (headerFrame E object).size = sizeFieldAtCursor E object :=
  headerFrame_size E
    ⟨window.placed.word, Nat.le_of_lt window.placed.high, window.sized⟩ ⟨window.lower, header⟩

/-- A `PopFrame` whose size field does not wrap the check keeps the window clean. -/
theorem Clean.pop (timeDiff : TimeDiff) {state : Shadowed w} (clean : state.Clean)
    (guarded : state.Guarded E timeDiff .pop) : (state.next E timeDiff .pop).Clean := by
  have window := clean.toInWindow
  have after : InWindow (popFrame E state.object).receiverObject := by
    refine popFrame_inWindow E window ?_
    intro header
    rw [sizeFieldAtCursor_eq E window header]
    exact guarded header
  refine ⟨after, ?_⟩
  intro index bounded
  simp only [next, ReceiverCall.next] at bounded ⊢
  rw [popFrame_buffer]
  apply clean.unmarked index
  exact Nat.lt_of_lt_of_le bounded (popFrame_size_le E state.object)

/-- A frame that is taken from a clean window has no byte that was flushed. -/
theorem Clean.keepsFlushed_pop (timeDiff : TimeDiff) {state : Shadowed w} (clean : state.Clean)
    (guarded : state.Guarded E timeDiff .pop) : state.KeepsFlushed E timeDiff .pop := by
  have window := clean.toInWindow
  have unmarked : Unmarked state.shadow ⟨state.object.buffer.toNat,
      state.object.buffer.toNat + state.object.size.toNat - state.object.buffer.toNat⟩ := by
    rw [Nat.add_sub_cancel_left]
    exact clean.unmarked
  intro taken
  refine ⟨?_, ?_⟩
  · intro region member
    exact unmarked.mono (popFrame_reads E window region member)
  · rcases popFrame_cases E window.placed window.sized with
      ⟨_, outcome⟩ | ⟨_, _, outcome⟩ | ⟨header, accepted, outcome⟩
    · rw [outcome] at taken
      simp only [popFailed] at taken
      split at taken <;> cases taken
    · rw [outcome] at taken
      cases taken
    · have lower := window.lower
      have payload := toNat_payload window.placed window.sized header
      have unwrapped := guarded header
      rw [← sizeFieldAtCursor_eq E window header] at unwrapped
      have inside := inside_of_accepted header accepted unwrapped
      rw [outcome]
      simp only [headerFrame_dataPtr, payload]
      apply unmarked.mono
      simp only [Region.Within, WifiNetworkObject.finish, offsetofDataPtr_eq] at *
      omega

/-- **Every run that starts with a `Receive`, flushes only when no byte is in use and
meets no size field that wraps the payload check delivers no flushed byte**: the next
call, if it is one of these, keeps them out, and a `Receive` does so only if it is. -/
theorem flushed_not_delivered {timeDiff : TimeDiff} {start : WifiNetworkObject w}
    (buffered : Buffered start) {call : ReceiveCall}
    {senderObject : Option (WifiNetworkObject w)} {calls : List (ReceiverCall w)}
    {reached : Shadowed w}
    (run : Run (restrict (Guarded E timeDiff) (follows (next E timeDiff))) (fresh start)
      (.receive call senderObject :: calls) reached) :
    (∀ call senderObject, reached.KeepsFlushed E timeDiff (.receive call senderObject) ↔
        reached.Guarded E timeDiff (.receive call senderObject)) ∧
      (reached.Guarded E timeDiff .pop → reached.KeepsFlushed E timeDiff .pop) := by
  have clean : reached.Clean := by
    cases run with
    | cons first rest =>
        obtain ⟨guarded, rfl⟩ := first
        refine Run.invariant Clean ?_ rest (clean_receive E timeDiff buffered guarded)
        rintro before call after clean ⟨guarded, rfl⟩
        cases call with
        | receive call senderObject => exact clean_receive E timeDiff clean.toBuffered guarded
        | pop => exact clean.pop E timeDiff guarded
  refine ⟨?_, clean.keepsFlushed_pop E timeDiff⟩
  intro call senderObject
  exact keepsFlushed_receive_iff E timeDiff clean.toBuffered call senderObject

/-- A datagram of one frame with one byte of payload. -/
def oneByteFrame (seq byte : UInt8) : List UInt8 := [2, 10, seq, 8, 0, 0, 0, byte]

/-- A call that finds answers on the socket at a date. -/
def readyAt (tvSec : ℤ) (recvs : List SocketRecv) : ReceiverCall 64 :=
  .receive ⟨.ready true false, recvs, .constant ⟨tvSec, 0⟩⟩ none

/-- A datagram is read and drained; the bytes that come six seconds later are flushed, and
those that come then are read. -/
theorem flushed_not_delivered_drained :
    let start := fresh newAtFourGiB
    let calls := [readyAt 1 [.data (oneByteFrame 0 170)], .pop, .pop,
      readyAt 7 [.data (oneByteFrame 1 187), .failed .eagain],
      readyAt 8 [.data (oneByteFrame 2 204)]]
    let reached := calls.foldl (next .littleEndianHost exactDiff) start
    (∀ call senderObject,
      reached.KeepsFlushed .littleEndianHost exactDiff (.receive call senderObject) ↔
        reached.Guarded .littleEndianHost exactDiff (.receive call senderObject)) ∧
      (reached.Guarded .littleEndianHost exactDiff .pop →
        reached.KeepsFlushed .littleEndianHost exactDiff .pop) := by
  refine flushed_not_delivered .littleEndianHost (buffered_bound (.cleared 64) placed_fourGiB _ _ _)
    (.cons ⟨by decide, rfl⟩ (.cons ⟨?_, rfl⟩ (.cons ⟨?_, rfl⟩ (.cons ⟨by decide, rfl⟩
      (.cons ⟨by decide, rfl⟩ (.nil _))))))
  · exact guarded_pop_of_above _ _ (by decide)
  · exact guarded_pop_of_above _ _ (by decide)

/-- A datagram of two frames is read and one frame is taken. The call six seconds later
flushes what came over the first frame, and the next `PopFrame` hands it out. -/
theorem flushed_delivered :
    let start := fresh newAtFourGiB
    let calls := [readyAt 1 [.data (oneByteFrame 0 170 ++ oneByteFrame 1 187)], .pop]
    let flush := readyAt 7 [.data (oneByteFrame 2 204), .failed .eagain]
    let reached := calls.foldl (next .littleEndianHost exactDiff) start
    Run (follows (next .littleEndianHost exactDiff)) start calls reached ∧
      ¬ reached.KeepsFlushed .littleEndianHost exactDiff flush ∧
        ¬ (reached.next .littleEndianHost exactDiff flush).KeepsFlushed .littleEndianHost
          exactDiff .pop := by
  refine ⟨.cons rfl (.cons rfl (.nil _)), ?_, ?_⟩
  · intro keeps
    exact absurd (keeps (by decide)) (by decide)
  · intro keeps
    exact absurd (keeps (by decide)).2 (by decide)

end Shadowed

end WifiNetwork

end ARNetworkAL
