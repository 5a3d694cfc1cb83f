import ARNetworkAL.Wifi.Delivery
import ARNetworkAL.Wifi.SendQueue

/-!
# The WiFi transport from end to end

A `Ledger` is what someone would write down who sees the answers of `PushFrame` and
of the socket: the frames taken since the last `Send` that emptied the queue, and the
earlier batches with their fate. A batch leaves in one datagram or, when the socket
is full, is dropped whole.

The queue of the sender refines the ledger (`Link.Keeps`): its bytes are the encoded
frames that the ledger has queued, and each datagram that left is an encoded batch.
Since the receiver finds the frames of an encoded batch, what is popped is what the
ledger says was sent (`transport_delivers`).
-/

set_option autoImplicit false

namespace ARNetworkAL

open Library

namespace WifiNetwork

variable {w : ℕ} (E : Endianness)

/-! ## The ledger -/

/-- What became of the frames that were queued together. -/
inductive Fate where
  | sent
  | dropped
  deriving DecidableEq, Repr

/-- The batches that are gone, in order, and the frames that are queued. -/
structure Ledger where
  batches : List (Fate × List Message)
  queued : List Message

namespace Ledger

/-- Nothing was taken yet. -/
def blank : Ledger := ⟨[], []⟩

/-- A frame was taken. -/
def take (ledger : Ledger) (message : Message) : Ledger :=
  { ledger with queued := ledger.queued ++ [message] }

/-- The queue is gone. -/
def close (ledger : Ledger) (fate : Fate) : Ledger :=
  ⟨ledger.batches ++ [(fate, ledger.queued)], []⟩

/-- The queue was handed to the socket, which took it, was full, or failed. -/
def send (ledger : Ledger) (answer : SocketSend) : Ledger :=
  if ledger.queued = [] then ledger
  else
    match answer with
    | .sent _ => ledger.close .sent
    | .failed .eagain => ledger.close .dropped
    | .failed _ => ledger

/-- Every frame that was taken, in order. -/
def taken (ledger : Ledger) : List Message := ledger.batches.flatMap Prod.snd ++ ledger.queued

/-- The batches that left, in order. -/
def sentBatches (ledger : Ledger) : List (List Message) :=
  (ledger.batches.filter fun batch => batch.1 = .sent).map Prod.snd

/-- The frames that left, in order. -/
def sentMessages (ledger : Ledger) : List Message := ledger.sentBatches.flatten

theorem send_empty {ledger : Ledger} (answer : SocketSend) (empty : ledger.queued = []) :
    ledger.send answer = ledger :=
  if_pos empty

theorem send_sent {ledger : Ledger} (bytes : ℕ) (some : ledger.queued ≠ []) :
    ledger.send (.sent bytes) = ledger.close .sent :=
  if_neg some

theorem send_eagain {ledger : Ledger} (some : ledger.queued ≠ []) :
    ledger.send (.failed .eagain) = ledger.close .dropped :=
  if_neg some

/-- Another error leaves the queue. -/
theorem send_error (ledger : Ledger) {err : Errno} (other : err ≠ .eagain) :
    ledger.send (.failed err) = ledger := by
  cases err with
  | eagain => exact absurd rfl other
  | enxio => exact ite_self ledger
  | eacces => exact ite_self ledger
  | other code => exact ite_self ledger

theorem taken_take (ledger : Ledger) (message : Message) :
    (ledger.take message).taken = ledger.taken ++ [message] :=
  (List.append_assoc _ _ _).symm

theorem taken_close (ledger : Ledger) (fate : Fate) : (ledger.close fate).taken = ledger.taken := by
  simp [close, taken]

theorem sentBatches_close_sent (ledger : Ledger) :
    (ledger.close .sent).sentBatches = ledger.sentBatches ++ [ledger.queued] := by
  simp [close, sentBatches]

theorem sentBatches_close_dropped (ledger : Ledger) :
    (ledger.close .dropped).sentBatches = ledger.sentBatches := by
  simp [close, sentBatches]

end Ledger

/-! ## The sender and what is seen of it -/

/-- A sender, the ledger, the frames for which `PushFrame` returned `DEFAULT`, and the
datagrams that left. -/
structure Link (w : ℕ) where
  senderObject : WifiNetworkObject w
  ledger : Ledger
  accepted : List Message
  datagrams : List (List UInt8)

/-- The sender before any call. -/
def Link.fresh (senderObject : WifiNetworkObject w) : Link w := ⟨senderObject, .blank, [], []⟩

/-- A call on the sender, and what is seen of it. -/
def Link.next (link : Link w) : SenderCall w → Link w
  | .push caller answer frame =>
      let outcome := pushFrame E caller answer link.senderObject frame
      if outcome.result = .default then
        { link with
          senderObject := outcome.senderObject
          ledger := link.ledger.take (frame.content caller)
          accepted := link.accepted ++ [frame.content caller] }
      else { link with senderObject := outcome.senderObject }
  | .send answer receiverObject =>
      let outcome := send answer link.senderObject receiverObject
      { link with
        senderObject := outcome.senderObject
        ledger := link.ledger.send answer
        datagrams := link.datagrams ++ outcome.datagram.toList }

/-- A frame counts its header and at most the largest payload; a socket that sends
takes the whole queue. -/
def Link.Fair (link : Link w) : SenderCall w → Prop
  | .push _ _ frame =>
      offsetofDataPtr ≤ frame.size.toNat ∧
        frame.size.toNat ≤ maxDataBufferSize + offsetofDataPtr
  | .send (.sent bytes) _ => bytes = link.senderObject.size.toNat
  | .send (.failed _) _ => True

instance (link : Link w) : (call : SenderCall w) → Decidable (link.Fair call)
  | .push _ _ _ => inferInstanceAs (Decidable (_ ∧ _))
  | .send (.sent _) _ => inferInstanceAs (Decidable (_ = _))
  | .send (.failed _) _ => inferInstanceAs (Decidable True)

/-! ## The sender keeps the ledger -/

/-- The queue holds the encoded frames that the ledger has queued, and the datagrams
are the encoded batches that it has sent. -/
structure Link.Keeps (link : Link w) : Prop where
  queue : Queued link.senderObject ((frameFormat E).encodeAll link.ledger.queued)
  valid : ∀ message ∈ link.ledger.queued, message.WellSized
  batches : ∀ messages ∈ link.ledger.sentBatches, Batch E messages
  datagrams : link.datagrams = link.ledger.sentBatches.map (frameFormat E).encodeAll
  accepted : link.accepted = link.ledger.taken

namespace Link.Keeps

variable {link : Link w}

theorem fresh {senderObject : WifiNetworkObject w} (asNew : QueueAsNew senderObject) :
    (Link.fresh senderObject).Keeps E where
  queue := Queued.of_queueAsNew asNew
  valid := by simp [Link.fresh, Ledger.blank]
  batches := by simp [Link.fresh, Ledger.blank, Ledger.sentBatches]
  datagrams := rfl
  accepted := rfl

/-- The queue is empty when the ledger's is. -/
theorem size_eq_zero_iff (keeps : link.Keeps E) :
    link.senderObject.size = 0 ↔ link.ledger.queued = [] := by
  have size := keeps.queue.size
  constructor
  · intro empty
    rw [empty] at size
    by_contra some
    exact encodeAll_ne_nil E some keeps.valid (List.length_eq_zero_iff.mp size.symm)
  · intro empty
    rw [empty] at size
    exact UInt32.toNat_inj.mp size

theorem push (keeps : link.Keeps E) (caller : Mem UInt8) (answer : OutqAnswer) {frame : Frame w}
    (fair : link.Fair (.push caller answer frame)) :
    (link.next E (.push caller answer frame)).Keeps E := by
  obtain ⟨holdsHeader, small⟩ := fair
  have size := keeps.queue.size
  have within := keeps.queue.within
  by_cases admitted : Admits answer link.senderObject frame
  · have room : ((frameFormat E).encodeAll link.ledger.queued).length + frame.size.toNat ≤
        sendingBufferSize := by
      have fits := ((admits_iff answer link.senderObject frame).mp admitted).1
      rw [show maxDataBufferSize + offsetofDataPtr = 65527 from rfl] at small
      rw [sendingBufferSize_eq] at *
      rw [Nat.mod_eq_of_lt (by omega)] at fits
      omega
    have queue := keeps.queue.push_admitted E caller admitted holdsHeader room
    have taken : (pushFrame E caller answer link.senderObject frame).result = .default := by
      rw [pushFrame_result, if_pos admitted]
    rw [Link.next, if_pos taken]
    refine ⟨?_, ?_, keeps.batches, keeps.datagrams, ?_⟩
    · rw [Ledger.take, RecordFormat.encodeAll_append, RecordFormat.encodeAll_cons,
        RecordFormat.encodeAll_nil, List.append_nil]
      exact queue
    · intro message member
      rcases List.mem_append.mp member with earlier | last
      · exact keeps.valid message earlier
      · rw [List.mem_singleton.mp last]
        exact frame.content_wellSized caller holdsHeader
    · rw [Ledger.taken_take, keeps.accepted]
  · have error : (pushFrame E caller answer link.senderObject frame).result ≠ .default := by
      rw [pushFrame_result, if_neg admitted]
      decide
    rw [Link.next, if_neg error]
    exact ⟨keeps.queue.push_refused E caller admitted, keeps.valid, keeps.batches,
      keeps.datagrams, keeps.accepted⟩

theorem send (keeps : link.Keeps E) (answer : SocketSend)
    (receiverObject : Option (WifiNetworkObject w))
    (fair : link.Fair (.send answer receiverObject)) :
    (link.next E (.send answer receiverObject)).Keeps E := by
  have empty_iff := keeps.size_eq_zero_iff E
  rcases send_cases answer link.senderObject receiverObject with
    ⟨empty, outcome⟩ | ⟨some, bytes, rfl, outcome⟩ | ⟨some, rfl, outcome⟩ |
      ⟨_, err, other, rfl, _, _, outcome⟩
  · simp only [Link.next, outcome, Ledger.send_empty answer (empty_iff.mp empty),
      Option.toList_none, List.append_nil]
    exact keeps
  · have queued := empty_iff.not.mp some
    have whole : link.senderObject.window.take bytes =
        (frameFormat E).encodeAll link.ledger.queued := by
      rw [show bytes = link.senderObject.size.toNat from fair,
        ← length_window link.senderObject, List.take_length, keeps.queue.window]
    simp only [Link.next, outcome, Ledger.send_sent bytes queued, whole]
    refine ⟨keeps.queue.clearQueue.setBwCurrent _, by simp [Ledger.close], ?_, ?_, ?_⟩
    · rw [Ledger.sentBatches_close_sent]
      intro messages member
      rcases List.mem_append.mp member with earlier | last
      · exact keeps.batches messages earlier
      · rw [List.mem_singleton.mp last]
        exact ⟨queued, keeps.valid, keeps.queue.within⟩
    · rw [Ledger.sentBatches_close_sent, List.map_append, keeps.datagrams]
      rfl
    · rw [Ledger.taken_close, keeps.accepted]
  · simp only [Link.next, outcome, Ledger.send_eagain (empty_iff.not.mp some),
      Option.toList_none, List.append_nil]
    refine ⟨keeps.queue.clearQueue, by simp [Ledger.close], ?_, ?_, ?_⟩
    · rw [Ledger.sentBatches_close_dropped]
      exact keeps.batches
    · rw [Ledger.sentBatches_close_dropped, keeps.datagrams]
    · rw [Ledger.taken_close, keeps.accepted]
  · simp only [Link.next, outcome, Ledger.send_error link.ledger other, Option.toList_none,
      List.append_nil]
    exact ⟨keeps.queue.setDisconnected _, keeps.valid, keeps.batches, keeps.datagrams,
      keeps.accepted⟩

/-- What every fair call preserves. -/
theorem next (keeps : link.Keeps E) {call : SenderCall w} (fair : link.Fair call) :
    (link.next E call).Keeps E := by
  cases call with
  | push caller answer frame => exact keeps.push E caller answer fair
  | send answer receiverObject => exact keeps.send E answer receiverObject fair

end Link.Keeps

/-! ## What the receiver finds -/

/-- What the datagrams of a link deliver to a receiver, and what becomes of the rest. -/
structure Delivers (timeDiff : TimeDiff) (fuel : ℕ) (link : Link w)
    (receiverObject : WifiNetworkObject w)
    (arrivals : List (ReceiveCall × Option (WifiNetworkObject w))) : Prop where
  /-- Every drain ends with `BUFFER_EMPTY`, and the frames popped are those sent. -/
  popped : ∃ drains, deliver E timeDiff fuel receiverObject arrivals = some drains ∧
    (∀ drained ∈ drains, drained.result = .bufferEmpty) ∧
    drains.flatMap Drained.messages = link.ledger.sentMessages
  /-- The frames taken are those of the batches sent and dropped, and those queued. -/
  accepted : link.accepted = link.ledger.batches.flatMap Prod.snd ++ link.ledger.queued
  /-- The queue is the frames that neither left nor were dropped. -/
  queued : link.senderObject.window = (frameFormat E).encodeAll link.ledger.queued
  /-- A frame that is refused leaves the queue. -/
  refused : ∀ caller answer frame,
    (pushFrame E caller answer link.senderObject frame).result = .bufferFull →
      SameQueue link.senderObject (pushFrame E caller answer link.senderObject frame).senderObject
  /-- So does an error of the socket other than `EAGAIN`. -/
  failed : ∀ err receiverObject, err ≠ .eagain →
    SameQueue link.senderObject
      (send (.failed err) link.senderObject receiverObject).senderObject

theorem sameQueue_of_bufferFull {caller : Mem UInt8} {answer : OutqAnswer}
    {object : WifiNetworkObject w} {frame : Frame w}
    (full : (pushFrame E caller answer object frame).result = .bufferFull) :
    SameQueue object (pushFrame E caller answer object frame).senderObject := by
  have refused : ¬ Admits answer object frame := by
    intro admitted
    rw [pushFrame_result, if_pos admitted] at full
    cases full
  obtain ⟨_, outcome⟩ := pushFrame_refused E caller refused
  rw [outcome]
  exact ⟨rfl, rfl, rfl, rfl⟩

theorem sameQueue_of_error {err : Errno} (other : err ≠ .eagain) (object : WifiNetworkObject w)
    (receiverObject : Option (WifiNetworkObject w)) :
    SameQueue object (send (.failed err) object receiverObject).senderObject := by
  by_cases empty : object.size = 0
  · rw [send_empty _ _ empty]
    exact ⟨rfl, rfl, rfl, rfl⟩
  · obtain ⟨_, _, outcome⟩ := send_error receiverObject other empty
    rw [outcome]
    exact ⟨rfl, rfl, rfl, rfl⟩

/-- **Whatever is pushed and sent, the receiver pops the frames of the datagrams that
left: every frame that was taken, in order and once, but those still queued and those of
the batches that a full socket dropped.** -/
theorem transport_delivers {start : WifiNetworkObject w} (asNew : QueueAsNew start)
    {calls : List (SenderCall w)} {link : Link w}
    (run : Run (restrict Link.Fair (follows (Link.next E))) (.fresh start) calls link)
    {receiverObject : WifiNetworkObject w} (placed : Placed receiverObject.buffer)
    {timeDiff : TimeDiff} {fuel : ℕ} (enough : receivingBufferSize / offsetofDataPtr < fuel)
    {arrivals : List (ReceiveCall × Option (WifiNetworkObject w))}
    (stores : StoresEach E timeDiff fuel receiverObject arrivals link.datagrams) :
    Delivers E timeDiff fuel link receiverObject arrivals := by
  have keeps : link.Keeps E := by
    refine Run.invariant (Link.Keeps E) ?_ run (Link.Keeps.fresh E asNew)
    rintro before call after keeps ⟨fair, rfl⟩
    exact keeps.next E fair
  rw [keeps.datagrams] at stores
  obtain ⟨drains, delivered, ended, found⟩ := deliver_batches E enough placed keeps.batches stores
  refine ⟨⟨drains, delivered, ended, ?_⟩, keeps.accepted, keeps.queue.window, ?_, ?_⟩
  · rw [Ledger.sentMessages, ← found, List.flatMap_def]
  · intro caller answer frame full
    exact sameQueue_of_bufferFull E full
  · intro err receiverObject other
    exact sameQueue_of_error other _ receiverObject

/-- A frame that a full socket drops, two that are sent, and one that is queued. -/
def droppedThenSent : List (SenderCall 64) :=
  [.push (fun _ => 65) (.bytes 0) ⟨1, 2, 3, 8, 16⟩, .send (.failed .eagain) none,
    .push (fun _ => 66) (.bytes 0) ⟨1, 2, 4, 8, 16⟩,
    .push (fun _ => 67) (.bytes 8) ⟨1, 2, 5, 9, 16⟩, .send (.sent 17) none,
    .push (fun _ => 68) (.bytes 0) ⟨1, 2, 6, 7, 16⟩]

theorem transport_delivers_two :
    Delivers Endianness.littleEndianHost exactDiff 9362
      (droppedThenSent.foldl (Link.next Endianness.littleEndianHost)
        (.fresh ((newSender (.cleared 64) fourGiB).connected 3 (4, 5) 212992)))
      newAtFourGiB
      [(arrival [1, 2, 4, 8, 0, 0, 0, 66, 1, 2, 5, 9, 0, 0, 0, 67, 67], none)] :=
  transport_delivers Endianness.littleEndianHost
    (queueAsNew_connected (.cleared 64) placed_fourGiB 3 (4, 5) 212992)
    (show Run (restrict Link.Fair (follows (Link.next Endianness.littleEndianHost)))
        (.fresh ((newSender (.cleared 64) fourGiB).connected 3 (4, 5) 212992)) droppedThenSent
        _ from
      .cons ⟨by decide, rfl⟩ (.cons ⟨trivial, rfl⟩ (.cons ⟨by decide, rfl⟩
        (.cons ⟨by decide, rfl⟩ (.cons ⟨rfl, rfl⟩ (.single ⟨by decide, rfl⟩))))))
    placed_fourGiB (by decide) ⟨⟨rfl, by decide⟩, fun _ _ => trivial⟩

end WifiNetwork

end ARNetworkAL
