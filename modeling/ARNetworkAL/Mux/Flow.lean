import ARNetworkAL.Library.Channel
import ARNetworkAL.Mux.Transport

/-!
# The Mux transport, call by call

Here the calls of `PushFrame` on one side and those of `Receive` and `PopFrame` on the other
come in any order: `Receive` may find the last buffer not popped yet, or its queue destroyed,
and `PopFrame` may find no buffer, or one whose data cannot be read.

Seen as a channel of frames, what is inside is the frame of the buffer in `rxbuf_recv` and
those of the buffers on their way (`Flow.view`). A step loses a frame only where `Receive`
releases a buffer that was not popped, or where the data of one cannot be read. So over a
mux that delivers everything nothing is lost as long as neither happens
(`buffers_transport`).
-/

set_option autoImplicit false

namespace ARNetworkAL

open Library

namespace MuxNetwork

variable {w : ℕ} (E : Endianness)

/-! ## The frame of a buffer -/

/-- The frame that the bytes of a buffer start with, if any. -/
def frameOf (bytes : List UInt8) : List Message := ((decodeFrame E bytes).map Prod.fst).toList

/-- The bytes are those of one frame. -/
def Carries (bytes : List UInt8) : Prop := ∃ message : Message, message.WellSized ∧
  bytes = wire E message

theorem frameOf_wire {message : Message} (sized : message.WellSized) :
    frameOf E (wire E message) = [message] := by
  have decoded := (frameFormat E).decode_encode message [] sized
  rw [List.append_nil] at decoded
  rw [frameOf, show decodeFrame E (wire E message) = some (message, []) from decoded]
  rfl

/-! ## The flow -/

/-- A sender, the buffers on their way, the receiver of the peer, the frames for which
`PushFrame` returned `DEFAULT` and those for which `PopFrame` did. A buffer that is received
is represented by its data. -/
structure Flow (w : ℕ) where
  senderObject : MuxNetworkObject w (Cdata w)
  inFlight : List (List UInt8)
  receiverObject : MuxNetworkObject w (Cdata w)
  accepted : List Message
  popped : List Message

/-- A call of `PushFrame`, a disturbance of the mux that leaves these buffers, a call of
`Receive` with what the queue answers (and the address of a buffer that it hands out), or a
call of `PopFrame` with whether the data can be read. -/
inductive FlowStep (w : ℕ) where
  | push (caller : Mem UInt8) (answers : PushAnswers) (frame : Frame w)
  | network (left : List (List UInt8))
  | receive (answer : QueueAnswer (BitVec w))
  | pop (readable : Bool) (frame : Frame w)

/-- The answer of the queue where these buffers are on their way. -/
def QueueAnswer.fill (inFlight : List (List UInt8)) :
    QueueAnswer (BitVec w) → Option (QueueAnswer (Cdata w))
  | .buffer data => inFlight.head?.map fun bytes => .buffer ⟨data, bytes⟩
  | .epipe => some .epipe
  | .etimedout => some .etimedout
  | .failed => some .failed

namespace Flow

/-- Nothing was sent or received yet. -/
def fresh (senderObject receiverObject : MuxNetworkObject w (Cdata w)) : Flow w :=
  ⟨senderObject, [], receiverObject, [], []⟩

/-- The flow after a step. A queue hands out a buffer only if one is on its way. -/
def next (flow : Flow w) : FlowStep w → Option (Flow w)
  | .push caller answers frame =>
      let outcome := pushFrame E caller answers flow.senderObject frame
      some
        { flow with
          senderObject := outcome.senderObject
          inFlight := flow.inFlight ++ if answers.encode = 0 then outcome.encoded.toList else []
          accepted := flow.accepted ++
            if outcome.result = .default then [frame.content caller] else [] }
  | .network left => some { flow with inFlight := left }
  | .receive answer =>
      (answer.fill flow.inFlight).map fun answer =>
        let outcome := MuxNetwork.receive answer flow.receiverObject
        { flow with
          inFlight := if outcome.result = .default then flow.inFlight.tail else flow.inFlight
          receiverObject := outcome.receiverObject }
  | .pop readable frame =>
      let getCdata := fun cdata => if readable then some cdata else none
      let outcome := popFrame E getCdata flow.receiverObject frame
      some
        { flow with
          receiverObject := outcome.receiverObject
          popped := flow.popped ++
            if outcome.result = .default then (outcome.content getCdata).toList else [] }

/-- Frames count their header and allocations succeed. Unless the medium may lose frames,
`Receive` is called when the last buffer was popped, and the data of a buffer can be read. -/
def Sound (M : Medium) (flow : Flow w) : FlowStep w → Prop
  | .push _ answers frame => offsetofDataPtr ≤ frame.size.toNat ∧ answers.buffer.isSome
  | .network left => M.le left flow.inFlight
  | .receive _ => M.Loses ∨ flow.receiverObject.rxbufRecv = none
  | .pop readable _ => M.Loses ∨ readable = true

/-- The buffers whose frames can still come out, in order. -/
def buffers (flow : Flow w) : List (List UInt8) :=
  flow.receiverObject.rxbufRecv.toList.map Cdata.bytes ++ flow.inFlight

/-- The flow as a channel of frames. -/
def view (flow : Flow w) : Channel Message :=
  ⟨flow.accepted, flow.buffers.flatMap (frameOf E), flow.popped⟩

/-- Each buffer carries one frame, and one slot of the receiver is free. -/
structure Keeps (flow : Flow w) : Prop where
  carries : ∀ bytes ∈ flow.buffers, Carries E bytes
  oneSlot : flow.receiverObject.rxbufRecv = none ∨ flow.receiverObject.rxbufPop = none

end Flow

/-! ## Every step moves the channel -/

/-- **What a push gives to the mux is the frame it accepts, or nothing.** -/
theorem pushFrame_travels (word : 32 ≤ w) {β : Type} (caller : Mem UInt8) {answers : PushAnswers}
    (senderObject : MuxNetworkObject w β) {frame : Frame w}
    (holdsHeader : offsetofDataPtr ≤ frame.size.toNat) (allocated : answers.buffer.isSome) :
    ((pushFrame E caller answers senderObject frame).result = .default ∧ answers.encode = 0 ∧
      (pushFrame E caller answers senderObject frame).encoded =
        some (wire E (frame.content caller))) ∨
    ((pushFrame E caller answers senderObject frame).result ≠ .default ∧
      (if answers.encode = 0 then
        (pushFrame E caller answers senderObject frame).encoded.toList else []) = []) := by
  obtain ⟨raw, allocated⟩ := Option.isSome_iff_exists.mp allocated
  by_cases failed : answers.getData < 0 ∨ answers.setLen < 0
  · obtain ⟨result, _, encoded⟩ := pushFrame_unfilled E caller senderObject frame allocated failed
    refine .inr ⟨?_, ?_⟩
    · rw [result]
      decide
    · rw [encoded]
      exact ite_self _
  · rw [not_or] at failed
    obtain ⟨result, encoded⟩ :=
      pushFrame_filled E caller senderObject frame allocated failed.1 failed.2
    have filled := copyFrame_filled E word caller raw holdsHeader
    rw [filled.off, filled.data] at encoded
    by_cases agreed : answers.encode = 0
    · refine .inl ⟨?_, agreed, encoded⟩
      rw [result, returnOf, if_pos agreed]
    · refine .inr ⟨?_, if_neg agreed⟩
      rw [result, returnOf, if_neg agreed]
      decide

namespace Flow.Keeps

variable {flow after : Flow w} {M : Medium}

/-- A push puts the frame in that it accepts. -/
theorem push (word : 32 ≤ w) (keeps : flow.Keeps E) {caller : Mem UInt8} {answers : PushAnswers}
    {frame : Frame w} (holdsHeader : offsetofDataPtr ≤ frame.size.toNat)
    (allocated : answers.buffer.isSome)
    (taken : flow.next E (.push caller answers frame) = some after) :
    after.Keeps E ∧ Channel.Leads M (flow.view E) (after.view E) := by
  rw [Flow.next, Option.some.injEq] at taken
  subst taken
  simp only [Flow.view, Flow.buffers]
  rcases pushFrame_travels E word caller flow.senderObject holdsHeader allocated with
    ⟨result, agreed, encoded⟩ | ⟨refused, nothing⟩
  · have sized := frame.content_wellSized caller holdsHeader
    rw [result, agreed, encoded]
    refine ⟨⟨?_, keeps.oneSlot⟩, ?_⟩
    · intro bytes member
      simp only [Flow.buffers, if_true, Option.toList_some, ← List.append_assoc] at member
      rcases List.mem_append.mp member with earlier | last
      · exact keeps.carries bytes earlier
      · exact ⟨_, sized, List.mem_singleton.mp last⟩
    · simp only [if_true, Option.toList_some, ← List.append_assoc, List.flatMap_append,
        List.flatMap_singleton, frameOf_wire E sized]
      exact .put _ _ _ _
  · rw [nothing, if_neg refused, List.append_nil, List.append_nil]
    exact ⟨⟨keeps.carries, keeps.oneSlot⟩, .refl _⟩

/-- The mux disturbs the frames as it does the buffers. -/
theorem network (keeps : flow.Keeps E) {left : List (List UInt8)}
    (disturbed : M.le left flow.inFlight) (taken : flow.next E (.network left) = some after) :
    after.Keeps E ∧ Channel.Leads M (flow.view E) (after.view E) := by
  rw [Flow.next, Option.some.injEq] at taken
  subst taken
  have kept : M.le (flow.receiverObject.rxbufRecv.toList.map Cdata.bytes ++ left) flow.buffers :=
    Medium.append_left _ disturbed
  refine ⟨⟨?_, keeps.oneSlot⟩, .disturb (M.flatMap (frameOf E) kept)⟩
  intro bytes member
  exact keeps.carries bytes (M.subset kept member)

/-- `Receive` loses the frame of a buffer that was not popped. -/
theorem receive (keeps : flow.Keeps E) {answer : QueueAnswer (BitVec w)}
    (sound : M.Loses ∨ flow.receiverObject.rxbufRecv = none)
    (taken : flow.next E (.receive answer) = some after) :
    after.Keeps E ∧ Channel.Leads M (flow.view E) (after.view E) := by
  have emptied : M.le flow.inFlight flow.buffers := by
    rcases sound with loses | popped
    · exact loses.drop_left _ _
    · rw [Flow.buffers, popped]
      exact M.refl _
  have same : after.accepted = flow.accepted ∧ after.popped = flow.popped ∧
      after.buffers = flow.inFlight ∧
      (after.receiverObject.rxbufRecv = none ∨ after.receiverObject.rxbufPop = none) := by
    obtain ⟨filled, answered, rfl⟩ := Option.map_eq_some_iff.mp taken
    refine ⟨rfl, rfl, ?_⟩
    simp only [Flow.buffers]
    rcases receive_cases filled flow.receiverObject with
      ⟨_, outcome⟩ | ⟨_, buffer, handed, outcome⟩ | ⟨_, _, disconnected, notified, outcome⟩ |
        ⟨_, _, outcome⟩
    · rw [outcome]
      exact ⟨rfl, .inl rfl⟩
    · rw [outcome]
      refine ⟨?_, .inr rfl⟩
      rw [handed] at answered
      cases answer with
      | buffer data =>
          obtain ⟨bytes, first, named⟩ := Option.map_eq_some_iff.mp answered
          obtain ⟨rest, travelling⟩ := List.head?_eq_some_iff.mp first
          cases named
          rw [travelling]
          rfl
      | epipe => cases answered
      | etimedout => cases answered
      | failed => cases answered
    · rw [outcome]
      exact ⟨rfl, .inl rfl⟩
    · rw [outcome]
      exact ⟨rfl, .inl rfl⟩
  obtain ⟨accepted, popped, buffers, oneSlot⟩ := same
  refine ⟨⟨?_, oneSlot⟩, ?_⟩
  · rw [buffers]
    intro bytes member
    exact keeps.carries bytes (M.subset emptied member)
  · rw [Flow.view, Flow.view, accepted, popped, buffers]
    exact .disturb (M.flatMap (frameOf E) emptied)

/-- `PopFrame` takes the frame of the received buffer out, unless it cannot be read. -/
theorem pop (word : 32 ≤ w) (keeps : flow.Keeps E) {readable : Bool} {frame : Frame w}
    (sound : M.Loses ∨ readable = true)
    (taken : flow.next E (.pop readable frame) = some after) :
    after.Keeps E ∧ Channel.Leads M (flow.view E) (after.view E) := by
  rw [Flow.next, Option.some.injEq] at taken
  subst taken
  cases received : flow.receiverObject.rxbufRecv with
  | none =>
      rw [popFrame_none E _ frame received]
      simp only [reduceCtorEq, if_false, List.append_nil]
      exact ⟨keeps, .refl _⟩
  | some cdata =>
      have free : flow.receiverObject.rxbufPop = none := by
        rcases keeps.oneSlot with none | none
        · rw [received] at none
          cases none
        · exact none
      have inBuffers : flow.buffers = cdata.bytes :: flow.inFlight := by
        rw [Flow.buffers, received]
        rfl
      have others : ∀ bytes ∈ flow.inFlight, Carries E bytes := by
        intro bytes member
        exact keeps.carries bytes (by rw [inBuffers]; exact List.mem_cons_of_mem _ member)
      cases readable with
      | true =>
          obtain ⟨message, sized, bytes⟩ : Carries E cdata.bytes :=
            keeps.carries _ (by rw [inBuffers]; exact List.mem_cons_self)
          have same : cdata = ⟨cdata.data, wire E message⟩ := by rw [← bytes]
          obtain ⟨accepted, content⟩ := readFrame_wire E word cdata.data sized frame
          rw [← same] at accepted content
          have popped := popFrame_some E (fun cdata => if true then some cdata else none) frame
            received free rfl
          rw [popped]
          refine ⟨⟨others, .inl rfl⟩, ?_⟩
          rw [Flow.view, inBuffers, List.flatMap_cons, bytes, frameOf_wire E sized]
          simp only [Flow.view, accepted, PopOutcome.content, content, Flow.buffers, if_true,
            Option.bind_some, Option.map_some, Option.toList_some, Option.toList_none]
          exact .take _ _ _ message
      | false =>
          have loses : M.Loses := sound.resolve_right (by decide)
          have popped : popFrame E (fun cdata => if false then some cdata else none)
              flow.receiverObject frame = ⟨.networkError,
                { flow.receiverObject with rxbufPop := some cdata, rxbufRecv := none }, frame,
                some cdata⟩ := by
            simp [popFrame, received, free]
          rw [popped]
          refine ⟨⟨others, .inl rfl⟩, ?_⟩
          rw [Flow.view, inBuffers]
          simp only [reduceCtorEq, if_false, List.append_nil]
          exact .disturb (M.flatMap (frameOf E) (loses.drop_left [cdata.bytes] _))

/-- **What every step preserves, and how it moves the channel.** -/
theorem next (word : 32 ≤ w) (keeps : flow.Keeps E) {step : FlowStep w}
    (sound : flow.Sound M step) (taken : flow.next E step = some after) :
    after.Keeps E ∧ Channel.Leads M (flow.view E) (after.view E) := by
  cases step with
  | push caller answers frame => exact keeps.push E word sound.1 sound.2 taken
  | network left => exact keeps.network E sound taken
  | receive answer => exact keeps.receive E sound taken
  | pop readable frame => exact keeps.pop E word sound taken

end Flow.Keeps

/-- **For every interleaving of the calls on both sides the transport is a channel of frames
over the medium that the mux is**: if it loses nothing, and every buffer that `Receive` gets is
popped before the next, what was accepted is what was popped and what is still on its way.
Without that the popped frames are at least some of the accepted ones, in order. -/
theorem buffers_transport (word : 32 ≤ w) {M : Medium}
    {senderObject receiverObject : MuxNetworkObject w (Cdata w)}
    (empty : receiverObject.rxbufRecv = none) {steps : List (FlowStep w)} {flow : Flow w}
    (run : Run (restrict (Flow.Sound M) (enabled (Flow.next E)))
      (.fresh senderObject receiverObject) steps flow) :
    Channel.Leads M .empty (flow.view E) ∧
      M.le (flow.popped ++ flow.buffers.flatMap (frameOf E)) flow.accepted := by
  have start : (Flow.fresh senderObject receiverObject).view E = .empty := by
    simp [Flow.view, Flow.buffers, Flow.fresh, empty, Channel.empty]
  have initial : (Flow.fresh senderObject receiverObject).Keeps E :=
    ⟨by simp [Flow.buffers, Flow.fresh, empty], .inl empty⟩
  have moved : flow.Keeps E ∧
      Channel.Leads M ((Flow.fresh senderObject receiverObject).view E) (flow.view E) := by
    refine run.leads (fun flow => flow.Keeps E) (fun flow => flow.view E) ?_ initial
    rintro before step after keeps ⟨sound, taken⟩
    exact keeps.next E word sound taken
  rw [start] at moved
  exact ⟨moved.2, Channel.conserves moved.2⟩

/-- A frame is pushed, received at the second try, and popped. -/
theorem buffers_transport_retried :
    let flow : Flow 64 := ⟨newObject 1 2, [],
      { newObject 3 4 with rxbufPop := some ⟨64, [1, 2, 3, 8, 0, 0, 0, 65]⟩ },
      [⟨1, 2, 3, 8, [65]⟩], [⟨1, 2, 3, 8, [65]⟩]⟩
    Channel.Leads .reliable .empty (flow.view .littleEndianHost) ∧
      flow.popped ++ flow.buffers.flatMap (frameOf .littleEndianHost) = flow.accepted :=
  buffers_transport .littleEndianHost (by decide)
    (show (newObject 3 4 : MuxNetworkObject 64 (Cdata 64)).rxbufRecv = none from rfl)
    (show Run (restrict (Flow.Sound .reliable) (enabled (Flow.next .littleEndianHost)))
        (.fresh (newObject 1 2) (newObject 3 4))
        [.push (fun _ => 65) ⟨some fun _ => 0, 0, 0, 0⟩ ⟨1, 2, 3, 8, 16⟩,
        .receive .failed, .receive (.buffer 64), .pop true (.reset 64)] _ from
      .cons ⟨⟨by decide, rfl⟩, rfl⟩ (.cons ⟨.inr rfl, rfl⟩ (.cons ⟨.inr rfl, rfl⟩
        (.single ⟨.inr rfl, rfl⟩))))

end MuxNetwork

end ARNetworkAL
