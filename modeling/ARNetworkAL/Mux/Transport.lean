import ARNetworkAL.Library.Run
import ARNetworkAL.Mux.Object

/-!
# The Mux transport from end to end

A link joins a sender to the receiver of its peer. Each buffer that `mux_encode` accepts
travels to the receive queue of the peer unmodified and in order. The receiver makes
rounds: one call of `Receive`, then calls of `PopFrame` until one returns something other
than `DEFAULT`.

One buffer holds one frame, and `Receive` empties both slots before it takes the next, so
a round finds exactly one frame (`round_wire`). What is popped over a whole run is what
`PushFrame` accepted, as far as it has travelled (`link_delivers`).
-/

set_option autoImplicit false

namespace ARNetworkAL

open Library

namespace MuxNetwork

variable {w : ℕ} {β : Type} (E : Endianness)

/-! ## A round of the receiver -/

/-- What the calls of `PopFrame` found: the frames taken, the first return other than
`DEFAULT`, and the object afterwards. -/
structure Drained (w : ℕ) (β : Type) where
  messages : List Message
  result : ManagerReturn
  receiverObject : MuxNetworkObject w β

/-- What the frame that a call of `PopFrame` filled says. -/
def PopOutcome.content (getCdata : β → Option (Cdata w)) (outcome : PopOutcome w β) :
    Option Message :=
  (outcome.popped.bind getCdata).map fun cdata => cdata.content outcome.frame

/-- Call `PopFrame` on one frame structure until it returns something other than `DEFAULT`. -/
def drain (getCdata : β → Option (Cdata w)) :
    ℕ → MuxNetworkObject w β → Frame w → Option (Drained w β)
  | 0, _, _ => none
  | fuel + 1, object, frame =>
      let outcome := popFrame E getCdata object frame
      if outcome.result = .default then
        (drain getCdata fuel outcome.receiverObject outcome.frame).map fun drained =>
          { drained with messages := (outcome.content getCdata).toList ++ drained.messages }
      else some ⟨[], outcome.result, outcome.receiverObject⟩

/-- Without a received buffer the first call finds nothing. -/
theorem drain_nothing (getCdata : β → Option (Cdata w)) {object : MuxNetworkObject w β}
    (frame : Frame w) (nothing : object.rxbufRecv = none) (fuel : ℕ) :
    drain E getCdata (fuel + 1) object frame = some ⟨[], .bufferEmpty, object⟩ := by
  rw [drain, popFrame_none E getCdata frame nothing]
  rfl

/-- The bytes of a message are read as that message. -/
theorem readFrame_wire (word : 32 ≤ w) (data : BitVec w) {message : Message}
    (sized : message.WellSized) (frame : Frame w) :
    (readFrame E ⟨data, wire E message⟩ frame).1 = .default ∧
      Cdata.content ⟨data, wire E message⟩ (readFrame E ⟨data, wire E message⟩ frame).2 =
        message := by
  obtain ⟨type, id, seq, size, payload⟩ := message
  have length := length_wire E sized
  have header : readHeader E ⟨data, wire E ⟨type, id, seq, size, payload⟩⟩ frame =
      { frame with type := type, id := id, seq := seq, size := size } := by
    simp [readHeader, wire, ARNetworkAL.header, List.take_left']
  have taken : (readFrame E ⟨data, wire E ⟨type, id, seq, size, payload⟩⟩ frame).1 =
      .default := by
    rw [readFrame_default_iff, header, length, ← show _ = size.toNat from sized]
    exact ⟨Nat.le_add_right _ _, Nat.le_refl _⟩
  refine ⟨taken, ?_⟩
  have small : 7 < 2 ^ w := Nat.lt_of_lt_of_le (by decide : 7 < 2 ^ 32)
    (Nat.pow_le_pow_right Nat.two_pos word)
  have counted : size.toNat - offsetofDataPtr = payload.length := by
    rw [← show _ = size.toNat from sized, Nat.add_sub_cancel_left]
  have rest : (wire E ⟨type, id, seq, size, payload⟩).drop 7 = payload :=
    List.drop_left' (length_header E type id seq size)
  rw [readFrame_of_default E taken, header]
  simp only [Cdata.content, Pointer.toNat_advance_sub data small, rest, counted,
    List.take_length]

/-- **A round on the bytes of a message finds the message, and then nothing.** -/
theorem round_wire (word : 32 ≤ w) {getCdata : β → Option (Cdata w)} {buffer : β}
    {data : BitVec w} {message : Message} (sized : message.WellSized)
    (read : getCdata buffer = some ⟨data, wire E message⟩) {object : MuxNetworkObject w β}
    (queue : object.rxqueue ≠ 0) (frame : Frame w) {fuel : ℕ} (enough : 2 ≤ fuel) :
    (receive (.buffer buffer) object).result = .default ∧
      drain E getCdata fuel (receive (.buffer buffer) object).receiverObject frame =
        some ⟨[message], .bufferEmpty, { object.released with rxbufPop := some buffer }⟩ := by
  obtain ⟨taken, content⟩ := readFrame_wire E word data sized frame
  obtain ⟨fuel, rfl⟩ := Nat.exists_eq_add_of_le' enough
  refine ⟨by rw [receive_buffer buffer queue], ?_⟩
  have first := popFrame_received E getCdata frame queue read
  rw [drain]
  simp only [first, taken, if_true]
  rw [drain_nothing E getCdata _ rfl]
  simp [PopOutcome.content, read, content]

/-! ## The link -/

/-- What a round found: the return of `Receive`, the frames, and the last return. -/
structure Round where
  received : ManagerReturn
  messages : List Message
  result : ManagerReturn
  deriving DecidableEq, Repr

/-- A sender and the receiver of its peer, the buffers on their way, the frames for which
`PushFrame` returned `DEFAULT`, and the rounds of the receiver so far. A buffer that is
received is represented by its data. -/
structure Link (w : ℕ) where
  senderObject : MuxNetworkObject w (Cdata w)
  inFlight : List (List UInt8)
  receiverObject : MuxNetworkObject w (Cdata w)
  accepted : List Message
  rounds : List Round

/-- A call of `PushFrame` with what libpomp and libmux answer, or a round of the receiver
with the address of the buffer it is handed and the frame structure it fills. -/
inductive LinkStep (w : ℕ) where
  | push (caller : Mem UInt8) (answers : PushAnswers) (frame : Frame w)
  | round (data : BitVec w) (frame : Frame w)

/-- The frames popped so far. -/
def Link.popped (link : Link w) : List Message := link.rounds.flatMap Round.messages

/-- The link after a step. No round is made while no buffer is on its way. -/
def Link.next (fuel : ℕ) (link : Link w) : LinkStep w → Option (Link w)
  | .push caller answers frame =>
      let outcome := pushFrame E caller answers link.senderObject frame
      some
        { link with
          senderObject := outcome.senderObject
          inFlight := link.inFlight ++ if answers.encode = 0 then outcome.encoded.toList else []
          accepted := link.accepted ++
            if outcome.result = .default then [frame.content caller] else [] }
  | .round data frame =>
      match link.inFlight with
      | [] => none
      | bytes :: rest =>
          let received := receive (.buffer ⟨data, bytes⟩) link.receiverObject
          (drain E some fuel received.receiverObject frame).map fun drained =>
            { link with
              inFlight := rest
              receiverObject := drained.receiverObject
              rounds := link.rounds ++ [⟨received.result, drained.messages, drained.result⟩] }

/-- The link before anything was pushed. The receiver has a queue. -/
structure LinkAsNew (link : Link w) : Prop where
  queue : link.receiverObject.rxqueue ≠ 0
  inFlight : link.inFlight = []
  accepted : link.accepted = []
  rounds : link.rounds = []

/-- A frame that counts a header, and an allocation that succeeds. -/
def LinkStep.Sound (_ : Link w) : LinkStep w → Prop
  | push _ answers frame => offsetofDataPtr ≤ frame.size.toNat ∧ answers.buffer.isSome
  | round _ _ => True

/-- The receiver has a queue, what is on its way is what was accepted and not popped yet,
and every round found one frame. -/
structure Link.Keeps (link : Link w) : Prop where
  queue : link.receiverObject.rxqueue ≠ 0
  travelling : ∃ pending : List Message, (∀ message ∈ pending, message.WellSized) ∧
    link.accepted = link.popped ++ pending ∧ link.inFlight = pending.map (wire E)
  rounds : ∀ round ∈ link.rounds,
    round.received = .default ∧ round.messages.length = 1 ∧ round.result = .bufferEmpty

namespace Link.Keeps

variable {link : Link w}

/-- A frame is accepted exactly when its bytes go on their way. -/
theorem push (word : 32 ≤ w) (keeps : link.Keeps E) {fuel : ℕ} {caller : Mem UInt8}
    {answers : PushAnswers} {frame : Frame w}
    (holdsHeader : offsetofDataPtr ≤ frame.size.toNat) (allocated : answers.buffer.isSome)
    {after : Link w} (taken : link.next E fuel (.push caller answers frame) = some after) :
    after.Keeps E := by
  obtain ⟨raw, allocated⟩ := Option.isSome_iff_exists.mp allocated
  obtain ⟨pending, valid, accepted, inFlight⟩ := keeps.travelling
  rw [Link.next, Option.some.injEq] at taken
  subst taken
  refine ⟨keeps.queue, ?_, keeps.rounds⟩
  by_cases failed : answers.getData < 0 ∨ answers.setLen < 0
  · obtain ⟨result, _, encoded⟩ :=
      pushFrame_unfilled E caller link.senderObject frame allocated failed
    refine ⟨pending, valid, ?_, ?_⟩
    · simp only [result, accepted, reduceCtorEq, if_false, List.append_nil]
      rfl
    · simp [encoded, inFlight]
  · rw [not_or] at failed
    obtain ⟨result, encoded⟩ :=
      pushFrame_filled E caller link.senderObject frame allocated failed.1 failed.2
    have filled := copyFrame_filled E word caller raw holdsHeader
    rw [filled.off, filled.data] at encoded
    by_cases agreed : answers.encode = 0
    · refine ⟨pending ++ [frame.content caller], ?_, ?_, ?_⟩
      · intro message member
        rcases List.mem_append.mp member with earlier | last
        · exact valid message earlier
        · rw [List.mem_singleton.mp last]
          exact frame.content_wellSized caller holdsHeader
      · simp only [result, returnOf, agreed, if_true, accepted, List.append_assoc]
        rfl
      · simp [encoded, agreed, inFlight]
    · refine ⟨pending, valid, ?_, ?_⟩
      · simp only [result, returnOf, if_neg agreed, accepted, reduceCtorEq, if_false,
          List.append_nil]
        rfl
      · simp [agreed, inFlight]

/-- A round finds the first frame on its way. -/
theorem round (word : 32 ≤ w) (keeps : link.Keeps E) {fuel : ℕ} (enough : 2 ≤ fuel)
    (data : BitVec w) (frame : Frame w) (travels : link.inFlight ≠ []) :
    ∃ after, link.next E fuel (.round data frame) = some after ∧ after.Keeps E := by
  obtain ⟨pending, valid, accepted, inFlight⟩ := keeps.travelling
  cases pending with
  | nil => exact absurd inFlight travels
  | cons message pending =>
      obtain ⟨sized, others⟩ := List.forall_mem_cons.mp valid
      obtain ⟨received, drained⟩ := round_wire E word sized
        (show some (⟨data, wire E message⟩ : Cdata w) = some ⟨data, wire E message⟩ from rfl)
        keeps.queue frame enough
      rw [List.map_cons] at inFlight
      simp only [Link.next, inFlight, received, drained, Option.map_some]
      refine ⟨_, rfl, keeps.queue, ⟨pending, others, ?_, rfl⟩, ?_⟩
      · simp [accepted, Link.popped]
      · intro round member
        rcases List.mem_append.mp member with earlier | last
        · exact keeps.rounds round earlier
        · rw [List.mem_singleton.mp last]
          exact ⟨rfl, rfl, rfl⟩

/-- What one step preserves. -/
theorem next (word : 32 ≤ w) (keeps : link.Keeps E) {fuel : ℕ} (enough : 2 ≤ fuel)
    {step : LinkStep w} (sound : step.Sound link) {after : Link w}
    (taken : link.next E fuel step = some after) : after.Keeps E := by
  cases step with
  | push caller answers frame => exact keeps.push E word sound.1 sound.2 taken
  | round data frame =>
      have travels : link.inFlight ≠ [] := by
        intro none
        simp only [Link.next, none] at taken
        cases taken
      obtain ⟨after', taken', kept⟩ := keeps.round E word enough data frame travels
      rw [taken', Option.some.injEq] at taken
      rw [← taken]
      exact kept

end Link.Keeps

theorem LinkAsNew.keeps {link : Link w} (asNew : LinkAsNew link) : link.Keeps E where
  queue := asNew.queue
  travelling := ⟨[], by simp, by rw [asNew.accepted, Link.popped, asNew.rounds]; rfl,
    asNew.inFlight⟩
  rounds := by simp [asNew.rounds]

/-- What a link does. -/
structure Link.Delivers (fuel : ℕ) (link : Link w) : Prop where
  /-- Each `Receive` is followed by one `DEFAULT` and then `BUFFER_EMPTY`. -/
  rounds : ∀ round ∈ link.rounds,
    round.received = .default ∧ round.messages.length = 1 ∧ round.result = .bufferEmpty
  /-- The popped frames are the first of the accepted ones, and the others travel. -/
  travelling : ∃ pending, link.accepted = link.popped ++ pending ∧
    link.inFlight = pending.map (wire E)
  /-- When all have arrived, they were popped. -/
  arrived : link.inFlight = [] → link.popped = link.accepted
  /-- While one travels, a round can be made. -/
  possible : link.inFlight ≠ [] → ∀ data frame, (link.next E fuel (.round data frame)).isSome

/-- **In every state of a run of pushes and rounds, what was popped is what was accepted, in
order and one frame a round, up to the frames still on their way.** -/
theorem link_delivers (word : 32 ≤ w) {fuel : ℕ} (enough : 2 ≤ fuel) {start link : Link w}
    (asNew : LinkAsNew start) {steps : List (LinkStep w)}
    (run : Run (restrict LinkStep.Sound (enabled (Link.next E fuel))) start steps link) :
    link.Delivers E fuel := by
  have keeps : link.Keeps E := by
    refine Run.invariant (fun link => link.Keeps E) ?_ run (asNew.keeps E)
    rintro before step after keeps ⟨sound, taken⟩
    exact keeps.next E word enough sound taken
  obtain ⟨pending, _, accepted, inFlight⟩ := keeps.travelling
  refine ⟨keeps.rounds, ⟨pending, accepted, inFlight⟩, ?_, ?_⟩
  · intro arrived
    rw [inFlight, List.map_eq_nil_iff] at arrived
    rw [accepted, arrived, List.append_nil]
  · intro travels data frame
    obtain ⟨after, taken, _⟩ := keeps.round E word enough data frame travels
    rw [taken]
    rfl

/-- A frame of eight bytes that is accepted, one that is refused, and a round. -/
theorem link_delivers_eight :
    Link.Delivers Endianness.littleEndianHost 2
      (⟨{ newObject 1 2 with disconnected := 1 }, [],
        { newObject 3 4 with rxbufPop := some ⟨64, [1, 2, 3, 8, 0, 0, 0, 65]⟩ },
        [⟨1, 2, 3, 8, [65]⟩], [⟨.default, [⟨1, 2, 3, 8, [65]⟩], .bufferEmpty⟩]⟩ : Link 64) :=
  link_delivers Endianness.littleEndianHost (by decide) (by decide)
    (show LinkAsNew (⟨newObject 1 2, [], newObject 3 4, [], []⟩ : Link 64) from
      ⟨by decide, rfl, rfl, rfl⟩)
    (show Run (restrict LinkStep.Sound (enabled (Link.next Endianness.littleEndianHost 2))) _
        [.push (fun _ => 65) ⟨some fun _ => 0, 0, 0, 0⟩ ⟨1, 2, 3, 8, 16⟩,
          .push (fun _ => 66) ⟨some fun _ => 0, 0, 0, -1⟩ ⟨1, 2, 4, 8, 16⟩,
          .round 64 (Frame.reset 64)] _ from
      .cons ⟨⟨by decide, rfl⟩, rfl⟩ (.cons ⟨⟨by decide, rfl⟩, rfl⟩ (.single ⟨trivial, rfl⟩)))

end MuxNetwork

end ARNetworkAL
