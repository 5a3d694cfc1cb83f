import ARNetworkAL.Wifi.Delivery
import ARNetworkAL.Wifi.SendQueue

/-!
# Sending again what was received

A datagram that the loop over `PopFrame` drains to its end, taking only frames that
count a header, splits into those frames (`Walks.splits_of_drain`). A size field past
the end of the datagram cannot hide among them: `PopFrame` may take it when the buffer
lies low in the address space, but the cursor is then past the end and the next call
returns `BAD_FRAME`.

The wire format has one encoding for each list of frames, so pushing the frames into an
empty queue writes the datagram again (`pushAll_drained`).
-/

set_option autoImplicit false

namespace ARNetworkAL

open Library

namespace WifiNetwork

variable {w : ℕ} (E : Endianness)

/-! ## What a drained datagram splits into -/

/-- A cursor past the end of the bytes in use is never the end. -/
theorem popFrame_past {object : WifiNetworkObject w} (buffered : Buffered object)
    (past : object.finish < object.currentFrame.toNat) :
    (popFrame E object).result = .badFrame := by
  rcases popFrame_cases E buffered.placed buffered.sized with
    ⟨_, outcome⟩ | ⟨header, _⟩ | ⟨header, _⟩
  · rw [outcome, if_neg (Nat.ne_of_gt past)]
    rfl
  · omega
  · omega

/-- The loop ends at once where a call fails. -/
theorem drain_failed {object : WifiNetworkObject w}
    (failed : (popFrame E object).result ≠ .default) {fuel : ℕ} {drained : Drained w}
    (found : drain E fuel object = some drained) :
    drained = ⟨[], (popFrame E object).result, (popFrame E object).receiverObject⟩ := by
  cases fuel with
  | zero => cases found
  | succ fuel =>
      rw [drain, if_neg failed, Option.some.injEq] at found
      exact found.symm

/-- Where a frame is taken, the loop goes on behind it. -/
theorem drain_taken {object : WifiNetworkObject w}
    (taken : (popFrame E object).result = .default) {fuel : ℕ} {drained : Drained w}
    (found : drain E (fuel + 1) object = some drained) :
    ∃ rest, drain E fuel (popFrame E object).receiverObject = some rest ∧
      drained = { rest with
        messages := (popFrame E object).frame.content (popFrame E object).receiverObject.heap ::
          rest.messages } := by
  rw [drain, if_pos taken, Option.map_eq_some_iff] at found
  obtain ⟨rest, onward, same⟩ := found
  exact ⟨rest, onward, same.symm⟩

/-- `PopFrame` keeps the buffer and uses no more of it. -/
theorem Buffered.popFrame {object : WifiNetworkObject w} (buffered : Buffered object) :
    Buffered (popFrame E object).receiverObject := by
  obtain ⟨placed, sized⟩ := buffered
  rcases popFrame_cases E placed sized with ⟨_, outcome⟩ | ⟨_, _, outcome⟩ | ⟨_, _, outcome⟩
  · rw [outcome]
    exact ⟨placed, Nat.zero_le _⟩
  · rw [outcome]
    exact ⟨placed, Nat.zero_le _⟩
  · rw [outcome]
    exact ⟨placed, sized⟩

namespace Walks

variable {datagram : List UInt8} {object : WifiNetworkObject w}

/-- On a wide target a frame that is taken and counts a header is there, or it leads
past the end. -/
theorem popFrame_taken (walks : Walks datagram object) (wide : 33 ≤ w)
    (taken : (popFrame E object).result = .default)
    (holdsHeader : offsetofDataPtr ≤ (popFrame E object).frame.size.toNat) :
    SizeInRange E datagram object ∨
      (popFrame E object).receiverObject.finish <
        (popFrame E object).receiverObject.currentFrame.toNat := by
  have space : 2 ^ 33 ≤ 2 ^ w := Nat.pow_le_pow_right Nat.two_pos wide
  obtain ⟨header, accepted⟩ := (popFrame_default_iff E walks.placed walks.sized).mp taken
  have size := walks.headerFrame_size E header
  have word : (headerFrame E object).size.toNat < 2 ^ 32 := UInt32.toNat_lt _
  rcases popFrame_cases E walks.placed walks.sized with
    ⟨short, _⟩ | ⟨_, refused, _⟩ | ⟨_, _, outcome⟩
  · omega
  · exact absurd refused accepted
  · rw [outcome] at holdsHeader ⊢
    by_cases inside : (headerFrame E object).size.toNat ≤ object.finish + offsetofDataPtr
    · rw [size] at inside holdsHeader
      exact .inl (.inr (.inl ⟨holdsHeader, inside⟩))
    · have moved : (Pointer.advance object.currentFrame (headerFrame E object).size.toNat).toNat =
          object.currentFrame.toNat + (headerFrame E object).size.toNat :=
        Pointer.toNat_advance (by omega)
      refine .inr ?_
      simp only [moved, WifiNetworkObject.finish] at *
      omega

/-- **What is drained to the end, by frames that count a header, is what the datagram
splits into.** -/
theorem splits_of_drain (walks : Walks datagram object) (wide : 33 ≤ w)
    (whole : object.window = datagram) {fuel : ℕ} {drained : Drained w}
    (found : drain E fuel object = some drained) (ended : drained.result = .bufferEmpty)
    (holdHeaders : ∀ message ∈ drained.messages, offsetofDataPtr ≤ message.size.toNat) :
    (frameFormat E).Splits (datagram.drop object.position) drained.messages [] := by
  induction fuel generalizing object drained with
  | zero => cases found
  | succ fuel ih =>
      by_cases taken : (popFrame E object).result = .default
      · obtain ⟨rest, onward, rfl⟩ := drain_taken E taken found
        rw [List.forall_mem_cons] at holdHeaders
        rcases walks.popFrame_taken E wide taken holdHeaders.1 with inRange | past
        · have exact := (walks.popsExactly_iff E).mpr inRange
          have fits := exact.accepts.mp taken
          rw [walks.remaining_of_window whole] at fits
          have decoded : decodeFrame E (datagram.drop object.position) =
              some (messageAt E datagram object.position, datagram.drop (object.position +
                (sizeFieldAt E datagram object.position).toNat)) := by
            rw [decodeFrame_drop, if_pos fits]
          obtain ⟨_, content, walks', whole', left⟩ := walks.popFrame_decodes E whole decoded
          have others := ih walks' whole' onward ended holdHeaders.2
          rw [left] at others
          rw [content]
          exact .next decoded others
        · have failed := popFrame_past E (walks.toBuffered.popFrame E) past
          have last := drain_failed E (by rw [failed]; decide) onward
          rw [last] at ended
          rw [failed] at ended
          cases ended
      · rw [drain_failed E taken found] at ended ⊢
        have done : datagram.drop object.position = [] := by
          rcases popFrame_cases E walks.placed walks.sized with
            ⟨short, outcome⟩ | ⟨_, _, outcome⟩ | ⟨_, _, outcome⟩
          · rw [outcome] at ended
            have atEnd : object.currentFrame.toNat = object.finish := by
              by_contra elsewhere
              rw [if_neg elsewhere] at ended
              cases ended
            have left := walks.remaining_of_window whole
            rw [WifiNetworkObject.remaining] at left
            rw [List.drop_eq_nil_iff]
            omega
          · rw [outcome] at ended
            cases ended
          · rw [outcome] at taken
            exact absurd rfl taken
        rw [done]
        exact .stop (frameFormat E).decode_nil

end Walks

/-! ## Pushing frames one after the other -/

/-- A call of `PushFrame`, with what the socket answers about its room. -/
structure PushCall (w : ℕ) where
  caller : Mem UInt8
  answer : OutqAnswer
  frame : Frame w

/-- What the frame of a call says. -/
def PushCall.content (call : PushCall w) : Message := call.frame.content call.caller

/-- One call. -/
def PushCall.run (call : PushCall w) (senderObject : WifiNetworkObject w) : PushOutcome w :=
  pushFrame E call.caller call.answer senderObject call.frame

/-- The results of several calls, and the sender afterwards. -/
def pushAll : WifiNetworkObject w → List (PushCall w) → List ManagerReturn × WifiNetworkObject w
  | senderObject, [] => ([], senderObject)
  | senderObject, call :: calls =>
      let outcome := call.run E senderObject
      let (results, after) := pushAll outcome.senderObject calls
      (outcome.result :: results, after)

/-- The room in the socket is not known, or it is enough for the queue with the frame. -/
def HasRoom (answer : OutqAnswer) (senderObject : WifiNetworkObject w) (frame : Frame w) : Prop :=
  0 ≤ (getAvailableSendSize answer senderObject).1 →
    senderObject.size + frame.size ≤
      UInt32.ofNat (getAvailableSendSize answer senderObject).1.toNat

instance (answer : OutqAnswer) (senderObject : WifiNetworkObject w) (frame : Frame w) :
    Decidable (HasRoom answer senderObject frame) :=
  inferInstanceAs (Decidable (_ → _))

/-- The room in the socket refuses none of several frames. -/
def RoomForAll : WifiNetworkObject w → List (PushCall w) → Prop
  | _, [] => True
  | senderObject, call :: calls =>
      HasRoom call.answer senderObject call.frame ∧
        RoomForAll (call.run E senderObject).senderObject calls

/-- **Frames that fit are all taken, and are queued as their bytes on the wire.** -/
theorem Queued.pushAll {senderObject : WifiNetworkObject w} {bytes : List UInt8}
    (queued : Queued senderObject bytes) {calls : List (PushCall w)}
    (valid : ∀ call ∈ calls, call.content.WellSized)
    (fits : bytes.length + ((frameFormat E).encodeAll (calls.map PushCall.content)).length ≤
      sendingBufferSize)
    (room : RoomForAll E senderObject calls) :
    (WifiNetwork.pushAll E senderObject calls).1 = calls.map (fun _ => .default) ∧
      Queued (WifiNetwork.pushAll E senderObject calls).2
        (bytes ++ (frameFormat E).encodeAll (calls.map PushCall.content)) := by
  induction calls generalizing senderObject bytes with
  | nil => exact ⟨rfl, by simpa [WifiNetwork.pushAll] using queued⟩
  | cons call calls ih =>
      obtain ⟨sized, others⟩ := List.forall_mem_cons.mp valid
      obtain ⟨enough, more⟩ := room
      have holdsHeader : offsetofDataPtr ≤ call.frame.size.toNat := by
        rw [← show _ = call.frame.size.toNat from sized]
        exact Nat.le_add_right _ _
      have spelled : (frameFormat E).encodeAll ((call :: calls).map PushCall.content) =
          wire E call.content ++ (frameFormat E).encodeAll (calls.map PushCall.content) := rfl
      have counted : (wire E call.content).length = call.frame.size.toNat := length_wire E sized
      rw [spelled, List.length_append, counted] at fits
      have short : bytes.length + call.frame.size.toNat ≤ sendingBufferSize := by omega
      have admitted : Admits call.answer senderObject call.frame := by
        refine ⟨?_, enough⟩
        rw [sendingBufferSize_eq] at short ⊢
        rw [UInt32.toNat_add, queued.size, Nat.mod_eq_of_lt (by omega)]
        exact short
      have appended := queued.push_admitted E call.caller admitted holdsHeader short
      obtain ⟨results, after⟩ := ih appended others (by
        rw [List.length_append]
        change bytes.length + (wire E call.content).length + _ ≤ _
        omega) more
      refine ⟨?_, ?_⟩
      · have taken : (call.run E senderObject).result = .default := by
          rw [PushCall.run, pushFrame_result, if_pos admitted]
        rw [List.map_cons, ← results, ← taken]
        rfl
      · rw [spelled, ← List.append_assoc]
        exact after

/-- **The frames drained from a datagram to its end, pushed again, are all taken and leave
the datagram in the queue.** -/
theorem pushAll_drained {timeDiff : TimeDiff} {call : ReceiveCall}
    {receiverObject senderObject : WifiNetworkObject 64}
    {sender : Option (WifiNetworkObject 64)} {datagram : List UInt8}
    (placed : Placed receiverObject.buffer) (nonempty : datagram ≠ [])
    (short : datagram.length ≤ receivingBufferSize)
    (stores : Stores timeDiff call receiverObject sender datagram) {fuel : ℕ}
    {drained : Drained 64}
    (found : drain E fuel (receive timeDiff call receiverObject sender).receiverObject =
      some drained)
    (ended : drained.result = .bufferEmpty)
    (holdHeaders : ∀ message ∈ drained.messages, offsetofDataPtr ≤ message.size.toNat)
    (asNew : QueueAsNew senderObject) {calls : List (PushCall 64)}
    (same : calls.map PushCall.content = drained.messages)
    (room : RoomForAll E senderObject calls) :
    (pushAll E senderObject calls).1 = calls.map (fun _ => .default) ∧
      (pushAll E senderObject calls).2.window = datagram := by
  have walks := receive_walks placed nonempty short stores
  obtain ⟨holds, cursor⟩ := receive_holds placed nonempty short stores
  have start :
      (receive timeDiff call receiverObject sender).receiverObject.position = 0 := by
    rw [WifiNetworkObject.position, cursor, receive_buffer, Nat.sub_self]
  have splits := walks.splits_of_drain E (by decide) holds.window found ended holdHeaders
  rw [start, List.drop_zero, ← same] at splits
  have spelled := splits.encodeAll_append
  rw [List.append_nil] at spelled
  have valid : ∀ call ∈ calls, call.content.WellSized := by
    intro call member
    exact splits.valid _ (List.mem_map_of_mem member)
  obtain ⟨results, queued⟩ := (Queued.of_queueAsNew asNew).pushAll E valid
    (by rw [← spelled]; simpa using short) room
  refine ⟨results, ?_⟩
  rw [queued.window, spelled, List.nil_append]

/-- A datagram of two frames, eight bytes each. -/
theorem pushAll_drained_two :
    let calls : List (PushCall 64) :=
      [⟨.ofList [65, 66], .bytes 0, ⟨1, 2, 3, 8, 0⟩⟩, ⟨.ofList [65, 66], .bytes 0, ⟨1, 2, 4, 8, 1⟩⟩]
    let pushed := pushAll Endianness.littleEndianHost
      ((newSender (.cleared 64) fourGiB).connected 3 (4, 5) 212992) calls
    pushed.1 = calls.map (fun _ => .default) ∧
      pushed.2.window = [1, 2, 3, 8, 0, 0, 0, 65, 1, 2, 4, 8, 0, 0, 0, 66] :=
  pushAll_drained Endianness.littleEndianHost placed_fourGiB (List.cons_ne_nil _ _) (by decide)
    (stores_arrival [1, 2, 3, 8, 0, 0, 0, 65, 1, 2, 4, 8, 0, 0, 0, 66])
    (Option.some_get (show (drain Endianness.littleEndianHost 3 (storedAtFourGiB
      [1, 2, 3, 8, 0, 0, 0, 65, 1, 2, 4, 8, 0, 0, 0, 66])).isSome by decide)).symm
    (by decide) (by decide)
    (queueAsNew_connected (.cleared 64) placed_fourGiB 3 (4, 5) 212992) (by decide)
    ⟨by decide, by decide, trivial⟩

end WifiNetwork

end ARNetworkAL
