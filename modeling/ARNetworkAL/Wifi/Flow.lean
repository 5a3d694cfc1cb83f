import ARNetworkAL.Library.Channel
import ARNetworkAL.Wifi.FlushedData
import ARNetworkAL.Wifi.Transport

/-!
# The WiFi transport over an unreliable network

A `Flow` is a sender, the datagrams on their way, and the receiver of the peer. `PushFrame`
and `Send` on one side, `Receive` and `PopFrame` on the other, and the network take steps in
any order. What the network does to the datagrams on their way is a `Medium` of datagrams:
it may lose them, or also repeat and reorder them.

Seen as a channel of frames, what is inside is what `PopFrame` has left in the receiver's
buffer, then the frames of the datagrams on their way, then the queue of the sender
(`Flow.view`). Every step moves that channel over the same medium (`Flow.Keeps.next`), so
what is popped is what the medium may make of what was accepted (`flow_transports`).
-/

set_option autoImplicit false

namespace ARNetworkAL

open Library

namespace WifiNetwork

variable {w : ℕ} (E : Endianness)

/-! ## The frames of a datagram -/

/-- The frames at the head of a byte string. -/
def framesOf (bytes : List UInt8) : List Message := (frameFormat E).decodeAll bytes.length bytes

@[simp] theorem framesOf_nil : framesOf E [] = [] := rfl

theorem framesOf_encodeAll {messages : List Message}
    (valid : ∀ message ∈ messages, message.WellSized) :
    framesOf E ((frameFormat E).encodeAll messages) = messages := by
  apply RecordFormat.decodeAll_encodeAll (frameFormat E) valid
  have long := length_encodeAll E valid
  rw [offsetofDataPtr_eq] at long
  omega

/-- The frames that `PopFrame` has left in the buffer. -/
def WifiNetworkObject.framesLeft (object : WifiNetworkObject w) : List Message :=
  framesOf E (object.window.drop object.position)

/-- The cursor is before these frames. -/
structure Reading (object : WifiNetworkObject w) (messages : List Message) : Prop
    extends InWindow object where
  valid : ∀ message ∈ messages, message.WellSized
  bytes : object.window.drop object.position = (frameFormat E).encodeAll messages

namespace Reading

variable {object : WifiNetworkObject w} {messages : List Message}

theorem framesLeft (reading : Reading E object messages) : object.framesLeft E = messages := by
  rw [WifiNetworkObject.framesLeft, reading.bytes, framesOf_encodeAll E reading.valid]

theorem walks (reading : Reading E object messages) : Walks object.window object :=
  ⟨reading.toInWindow, .inl rfl⟩

/-- Nothing is in use. -/
theorem of_empty (window : InWindow object) (empty : object.size = 0) :
    Reading E object [] := by
  refine ⟨window, by simp, ?_⟩
  have nothing : object.window = [] := by
    rw [← List.length_eq_zero_iff, length_window, empty]
    rfl
  rw [nothing, List.drop_nil]
  rfl

/-- `PopFrame` takes the first frame. -/
theorem pop {message : Message} {rest : List Message}
    (reading : Reading E object (message :: rest)) :
    (popFrame E object).result = .default ∧
      (popFrame E object).frame.content (popFrame E object).receiverObject.heap = message ∧
      Reading E (popFrame E object).receiverObject rest := by
  obtain ⟨sized, others⟩ := List.forall_mem_cons.mp reading.valid
  have decoded := (frameFormat E).decode_encode message ((frameFormat E).encodeAll rest) sized
  rw [← RecordFormat.encodeAll_cons, ← reading.bytes] at decoded
  obtain ⟨taken, content, onward, still, left⟩ :=
    (reading.walks E).popFrame_decodes E rfl decoded
  rw [← still] at left
  exact ⟨taken, content, onward.toInWindow, others, left⟩

/-- Without a frame it finds the end. -/
theorem pop_nothing (reading : Reading E object []) :
    (popFrame E object).result = .bufferEmpty ∧
      Reading E (popFrame E object).receiverObject [] := by
  have ended := (reading.walks E).popFrame_atEnd E rfl reading.bytes
  refine ⟨ended, .of_empty E (popFrame_inWindow E reading.toInWindow ?_) ?_⟩
  · intro header
    have lower := reading.lower
    have none := congrArg List.length reading.bytes
    rw [List.length_drop, length_window, RecordFormat.encodeAll_nil, List.length_nil] at none
    simp only [WifiNetworkObject.finish, WifiNetworkObject.position, offsetofDataPtr_eq] at *
    omega
  · rcases popFrame_cases E reading.placed reading.sized with
      ⟨_, outcome⟩ | ⟨_, _, outcome⟩ | ⟨_, _, outcome⟩
    · rw [outcome]
      rfl
    · rw [outcome]
      rfl
    · rw [outcome] at ended
      cases ended

end Reading

/-! ## What a call of Receive takes from the network -/

/-- The datagrams that the socket hands out before it has another answer. -/
def datagrams : List SocketRecv → List (List UInt8)
  | .data datagram :: answers => datagram :: datagrams answers
  | _ => []

/-- The datagrams that a call reads. -/
def ReceivePath.consumed : ReceivePath → List SocketRecv → List (List UInt8)
  | read, answers => (datagrams answers).take 1
  | flushed, answers => datagrams answers
  | selectError, _ => []
  | notReady, _ => []

/-- Those of them that it leaves in the buffer. -/
def ReceivePath.stored : ReceivePath → List SocketRecv → List (List UInt8)
  | read, answers => (datagrams answers).take 1
  | flushed, _ => []
  | selectError, _ => []
  | notReady, _ => []

/-- What is not stored is lost. -/
theorem ReceivePath.exists_lost (path : ReceivePath) (answers : List SocketRecv) :
    ∃ lost, path.consumed answers = lost ++ path.stored answers := by
  cases path with
  | read => exact ⟨[], rfl⟩
  | flushed => exact ⟨datagrams answers, (List.append_nil _).symm⟩
  | selectError => exact ⟨[], rfl⟩
  | notReady => exact ⟨[], rfl⟩

theorem ReceivePath.consumed_prefix (path : ReceivePath) (answers : List SocketRecv) :
    path.consumed answers <+: datagrams answers := by
  cases path with
  | read => exact List.take_prefix 1 _
  | flushed => exact List.prefix_refl _
  | selectError => exact List.nil_prefix
  | notReady => exact List.nil_prefix

/-- A socket that has no datagram to hand out leaves nothing in use. -/
theorem receive_nothing {timeDiff : TimeDiff} {call : ReceiveCall} {object : WifiNetworkObject w}
    {senderObject : Option (WifiNetworkObject w)}
    (path : (receive timeDiff call object senderObject).path = .read)
    (none : datagrams call.recvs = []) :
    (receive timeDiff call object senderObject).bytesRead = 0 := by
  simp only [receive] at path ⊢
  rcases receiveReady_cases timeDiff call (startReception call.clock.first object) senderObject
    with ⟨_, outcome⟩ | ⟨_, _, outcome⟩ | ⟨_, _, _, outcome⟩ | ⟨_, _, _, outcome⟩
  · rw [outcome]
  · rw [outcome]
  · rw [outcome] at path
    cases path
  · rw [outcome]
    cases answers : call.recvs with
    | nil => rfl
    | cons answer rest =>
        cases answer with
        | data datagram =>
            rw [answers] at none
            cases none
        | failed err => rfl

/-- The datagram is an encoded batch. -/
def Encodes (datagram : List UInt8) : Prop :=
  ∃ messages, Batch E messages ∧ datagram = (frameFormat E).encodeAll messages

/-- **After a `Receive` the receiver reads what the call stored**, if what the socket hands
out are encoded batches and no flush runs over bytes in use. -/
theorem receive_reading {timeDiff : TimeDiff} {call : ReceiveCall} {object : WifiNetworkObject w}
    {senderObject : Option (WifiNetworkObject w)} (buffered : Buffered object)
    (encoded : ∀ datagram ∈ datagrams call.recvs, Encodes E datagram)
    (drained : (receive timeDiff call object senderObject).path = .flushed → object.size = 0) :
    Reading E (receive timeDiff call object senderObject).receiverObject
      (((receive timeDiff call object senderObject).path.stored call.recvs).flatMap
        (framesOf E)) := by
  have window := receive_inWindow buffered timeDiff call senderObject
  have size := receive_size timeDiff call object senderObject
  cases path : (receive timeDiff call object senderObject).path with
  | selectError =>
      rw [path] at size
      exact .of_empty E window (UInt32.toNat_inj.mp size)
  | notReady =>
      rw [path] at size
      exact .of_empty E window (UInt32.toNat_inj.mp size)
  | flushed =>
      rw [path, drained path] at size
      exact .of_empty E window (UInt32.toNat_inj.mp size)
  | read =>
      cases answers : call.recvs with
      | nil =>
          rw [path, receive_nothing path (by rw [answers]; rfl)] at size
          exact .of_empty E window (UInt32.toNat_inj.mp size)
      | cons answer rest =>
          cases answer with
          | failed err =>
              rw [path, receive_nothing path (by rw [answers]; rfl)] at size
              exact .of_empty E window (UInt32.toNat_inj.mp size)
          | data datagram =>
              obtain ⟨messages, batch, same⟩ : Encodes E datagram := by
                apply encoded
                rw [answers]
                exact List.mem_cons_self
              have some := encodeAll_ne_nil E batch.nonempty batch.valid
              have short := batch.short
              rw [← same] at some short
              have stores : Stores timeDiff call object senderObject datagram :=
                ⟨path, by rw [answers]; rfl⟩
              obtain ⟨holds, cursor⟩ := receive_holds buffered.placed some short stores
              have start :
                  (receive timeDiff call object senderObject).receiverObject.position = 0 := by
                rw [WifiNetworkObject.position, cursor, receive_buffer, Nat.sub_self]
              have frames : framesOf E datagram = messages := by
                rw [same, framesOf_encodeAll E batch.valid]
              refine ⟨window, ?_, ?_⟩
              · simpa [ReceivePath.stored, datagrams, frames] using batch.valid
              · rw [holds.window, start, List.drop_zero, same]
                simp [ReceivePath.stored, datagrams, framesOf_encodeAll E batch.valid]

/-! ## The flow -/

/-- A sender with its ledger, the datagrams on their way, the receiver of the peer, whether
it was called yet, and the frames for which `PopFrame` returned `DEFAULT`. -/
structure Flow (w : ℕ) where
  link : Link w
  inFlight : List (List UInt8)
  receiverObject : WifiNetworkObject w
  opened : Bool
  popped : List Message

/-- A call on the sender, a disturbance of the network that leaves these datagrams, or a
call on the receiver. -/
inductive FlowStep (w : ℕ) where
  | send (call : SenderCall w)
  | network (left : List (List UInt8))
  | receive (call : ReceiveCall) (senderObject : Option (WifiNetworkObject w))
  | pop

namespace Flow

/-- Nothing was sent or received yet. -/
def fresh (senderObject receiverObject : WifiNetworkObject w) : Flow w :=
  ⟨.fresh senderObject, [], receiverObject, false, []⟩

/-- The flow after a step. -/
def next (timeDiff : TimeDiff) (flow : Flow w) : FlowStep w → Flow w
  | .send call =>
      let link := flow.link.next E call
      { flow with
        link := link
        inFlight := flow.inFlight ++ link.datagrams.drop flow.link.datagrams.length }
  | .network left => { flow with inFlight := left }
  | .receive call senderObject =>
      let outcome := WifiNetwork.receive timeDiff call flow.receiverObject senderObject
      { flow with
        inFlight := flow.inFlight.drop (outcome.path.consumed call.recvs).length
        receiverObject := outcome.receiverObject
        opened := true }
  | .pop =>
      let outcome := popFrame E flow.receiverObject
      { flow with
        receiverObject := outcome.receiverObject
        popped := flow.popped ++
          if outcome.result = .default then
            [outcome.frame.content outcome.receiverObject.heap]
          else [] }

/-- Frames count their header and at most the largest payload, and a socket that sends takes
the whole queue. The socket hands out what is on its way, in that order. No flush runs over
frames that are still in the buffer, and `Receive` is called before `PopFrame`. -/
def Sound (M : Medium) (timeDiff : TimeDiff) (flow : Flow w) : FlowStep w → Prop
  | .send call => flow.link.Fair call
  | .network left => M.le left flow.inFlight
  | .receive call senderObject =>
      datagrams call.recvs <+: flow.inFlight ∧
        ((WifiNetwork.receive timeDiff call flow.receiverObject senderObject).path = .flushed →
          flow.receiverObject.size = 0)
  | .pop => flow.opened = true

/-- The frames that can still come out, in order. -/
def inside (flow : Flow w) : List Message :=
  flow.receiverObject.framesLeft E ++ flow.inFlight.flatMap (framesOf E) ++
    flow.link.ledger.queued

/-- The flow as a channel of frames. -/
def view (flow : Flow w) : Channel Message :=
  ⟨flow.link.accepted, flow.inside E, flow.popped⟩

/-- The sender keeps its ledger, the datagrams on their way are encoded batches, and once
`Receive` was called the receiver reads frames. -/
structure Keeps (flow : Flow w) : Prop where
  link : flow.link.Keeps E
  inFlight : ∀ datagram ∈ flow.inFlight, Encodes E datagram
  buffered : Buffered flow.receiverObject
  reading : flow.opened = true → ∃ messages, Reading E flow.receiverObject messages
  unopened : flow.opened = false → flow.receiverObject.size = 0

end Flow

/-! ## A call on the sender -/

/-- **A fair call by what becomes of the queue**: a frame joins it, it leaves in a datagram,
it is dropped, or nothing changes. -/
theorem Link.Keeps.next_cases {link : Link w} (keeps : link.Keeps E) {call : SenderCall w}
    (fair : link.Fair call) :
    (∃ message, (link.next E call).accepted = link.accepted ++ [message] ∧
      (link.next E call).ledger.queued = link.ledger.queued ++ [message] ∧
      (link.next E call).datagrams = link.datagrams) ∨
    (link.ledger.queued ≠ [] ∧ (link.next E call).accepted = link.accepted ∧
      (link.next E call).ledger.queued = [] ∧
      (link.next E call).datagrams =
        link.datagrams ++ [(frameFormat E).encodeAll link.ledger.queued]) ∨
    ((link.next E call).accepted = link.accepted ∧ (link.next E call).ledger.queued = [] ∧
      (link.next E call).datagrams = link.datagrams) ∨
    ((link.next E call).accepted = link.accepted ∧
      (link.next E call).ledger.queued = link.ledger.queued ∧
      (link.next E call).datagrams = link.datagrams) := by
  cases call with
  | push caller answer frame =>
      by_cases taken : (pushFrame E caller answer link.senderObject frame).result = .default
      · rw [Link.next, if_pos taken]
        exact .inl ⟨_, rfl, rfl, rfl⟩
      · rw [Link.next, if_neg taken]
        exact .inr (.inr (.inr ⟨rfl, rfl, rfl⟩))
  | send answer receiverObject =>
      have empty_iff := keeps.size_eq_zero_iff E
      rcases send_cases answer link.senderObject receiverObject with
        ⟨empty, outcome⟩ | ⟨some, bytes, rfl, outcome⟩ | ⟨some, rfl, outcome⟩ |
          ⟨_, err, other, rfl, _, _, outcome⟩
      · refine .inr (.inr (.inr ?_))
        simp [Link.next, outcome, Ledger.send_empty answer (empty_iff.mp empty)]
      · have queued := empty_iff.not.mp some
        have whole : link.senderObject.window.take bytes =
            (frameFormat E).encodeAll link.ledger.queued := by
          rw [show bytes = link.senderObject.size.toNat from fair,
            ← length_window link.senderObject, List.take_length, keeps.queue.window]
        refine .inr (.inl ⟨queued, ?_⟩)
        simp [Link.next, outcome, Ledger.send_sent bytes queued, whole, Ledger.close]
      · refine .inr (.inr (.inl ?_))
        simp [Link.next, outcome, Ledger.send_eagain (empty_iff.not.mp some), Ledger.close]
      · refine .inr (.inr (.inr ?_))
        simp [Link.next, outcome, Ledger.send_error link.ledger other]

/-! ## Every step moves the channel -/

namespace Flow.Keeps

variable {flow : Flow w} {M : Medium} {timeDiff : TimeDiff}

/-- A call on the sender puts a frame in, or loses the queue, or nothing. -/
theorem send (keeps : flow.Keeps E) (loses : M.Loses) {call : SenderCall w}
    (fair : flow.link.Fair call) :
    (flow.next E timeDiff (.send call)).Keeps E ∧
      Channel.Leads M (flow.view E) ((flow.next E timeDiff (.send call)).view E) := by
  have link := keeps.link.next E fair
  have batches : ∀ datagram ∈ (flow.next E timeDiff (.send call)).inFlight,
      Encodes E datagram := by
    intro datagram member
    rcases List.mem_append.mp member with travelling | sent
    · exact keeps.inFlight datagram travelling
    · have among := List.mem_of_mem_drop sent
      rw [link.datagrams] at among
      obtain ⟨messages, batch, rfl⟩ := List.mem_map.mp among
      exact ⟨messages, link.batches messages batch, rfl⟩
  refine ⟨⟨link, batches, keeps.buffered, keeps.reading, keeps.unopened⟩, ?_⟩
  simp only [Flow.view, Flow.inside, Flow.next]
  rcases keeps.link.next_cases E fair with
    ⟨message, accepted, queued, sent⟩ | ⟨_, accepted, queued, sent⟩ | ⟨accepted, queued, sent⟩ |
      ⟨accepted, queued, sent⟩
  · rw [accepted, queued, sent, List.drop_length, List.append_nil, ← List.append_assoc]
    exact .put _ _ _ message
  · rw [accepted, queued, sent, List.drop_left, List.flatMap_append, List.append_nil,
      List.flatMap_singleton, framesOf_encodeAll E keeps.link.valid, ← List.append_assoc]
    exact .refl _
  · rw [accepted, queued, sent, List.drop_length, List.append_nil flow.inFlight]
    exact .disturb (Medium.append_left _ (loses flow.link.ledger.queued))
  · rw [accepted, queued, sent, List.drop_length, List.append_nil]
    exact .refl _

/-- The network disturbs the frames as it does the datagrams. -/
theorem network (keeps : flow.Keeps E) {left : List (List UInt8)}
    (disturbed : M.le left flow.inFlight) :
    (flow.next E timeDiff (.network left)).Keeps E ∧
      Channel.Leads M (flow.view E) ((flow.next E timeDiff (.network left)).view E) := by
  have batches : ∀ datagram ∈ left, Encodes E datagram := by
    intro datagram member
    exact keeps.inFlight datagram (M.subset disturbed member)
  refine ⟨⟨keeps.link, batches, keeps.buffered, keeps.reading, keeps.unopened⟩, ?_⟩
  exact .disturb
    (Medium.append_right (Medium.append_left _ (M.flatMap (framesOf E) disturbed))
      flow.link.ledger.queued)

/-- `Receive` loses the frames that were left in the buffer, and those it flushes. -/
theorem receive (keeps : flow.Keeps E) (loses : M.Loses) {call : ReceiveCall}
    {senderObject : Option (WifiNetworkObject w)}
    (sound : flow.Sound M timeDiff (.receive call senderObject)) :
    (flow.next E timeDiff (.receive call senderObject)).Keeps E ∧
      Channel.Leads M (flow.view E)
        ((flow.next E timeDiff (.receive call senderObject)).view E) := by
  obtain ⟨⟨travelling, offered⟩, drained⟩ := sound
  have encoded : ∀ datagram ∈ datagrams call.recvs, Encodes E datagram := by
    intro datagram member
    apply keeps.inFlight
    rw [← offered]
    exact List.mem_append_left _ member
  have reading := receive_reading E keeps.buffered encoded drained
  simp only [Flow.next, Flow.view, Flow.inside]
  generalize (WifiNetwork.receive timeDiff call flow.receiverObject senderObject) = outcome at *
  obtain ⟨rest, order⟩ : outcome.path.consumed call.recvs <+: flow.inFlight :=
    (outcome.path.consumed_prefix call.recvs).trans ⟨travelling, offered⟩
  obtain ⟨lost, parted⟩ := outcome.path.exists_lost call.recvs
  have remaining : flow.inFlight.drop (outcome.path.consumed call.recvs).length = rest := by
    rw [← order, List.drop_left]
  refine ⟨⟨keeps.link, ?_, reading.toBuffered, fun _ => ⟨_, reading⟩, ?_⟩, ?_⟩
  · intro datagram member
    exact keeps.inFlight datagram (List.mem_of_mem_drop member)
  · intro closed
    cases closed
  · rw [remaining, reading.framesLeft]
    apply Channel.Leads.disturb
    apply Medium.append_right
    rw [← order, parted, List.append_assoc, List.flatMap_append, List.flatMap_append,
      ← List.append_assoc]
    exact loses.drop_left _ _

/-- `PopFrame` takes the first frame out, or finds none in the buffer. -/
theorem pop (keeps : flow.Keeps E) (opened : flow.opened = true) :
    (flow.next E timeDiff .pop).Keeps E ∧
      Channel.Leads M (flow.view E) ((flow.next E timeDiff .pop).view E) := by
  obtain ⟨messages, reading⟩ := keeps.reading opened
  have closed : ∀ object : WifiNetworkObject w, flow.opened = false → object.size = 0 := by
    intro object unopened
    rw [opened] at unopened
    cases unopened
  cases messages with
  | nil =>
      obtain ⟨ended, after⟩ := reading.pop_nothing E
      refine ⟨⟨keeps.link, keeps.inFlight, after.toBuffered, fun _ => ⟨[], after⟩, closed _⟩, ?_⟩
      simp only [Flow.view, Flow.inside, Flow.next, after.framesLeft, reading.framesLeft, ended,
        reduceCtorEq, if_false, List.append_nil]
      exact .refl _
  | cons message rest =>
      obtain ⟨taken, content, after⟩ := reading.pop E
      refine ⟨⟨keeps.link, keeps.inFlight, after.toBuffered, fun _ => ⟨rest, after⟩, closed _⟩, ?_⟩
      simp only [Flow.view, Flow.inside, Flow.next, after.framesLeft, reading.framesLeft, taken,
        content, if_true, List.cons_append]
      exact .take _ _ _ message

/-- **What every step preserves, and how it moves the channel.** -/
theorem next (keeps : flow.Keeps E) (loses : M.Loses) {step : FlowStep w}
    (sound : flow.Sound M timeDiff step) :
    (flow.next E timeDiff step).Keeps E ∧
      Channel.Leads M (flow.view E) ((flow.next E timeDiff step).view E) := by
  cases step with
  | send call => exact keeps.send E loses sound
  | network left => exact keeps.network E sound
  | receive call senderObject => exact keeps.receive E loses sound
  | pop => exact keeps.pop E sound

/-- Before any call. -/
theorem fresh {senderObject receiverObject : WifiNetworkObject w}
    (queue : QueueAsNew senderObject) (buffered : Buffered receiverObject)
    (empty : receiverObject.size = 0) : (Flow.fresh senderObject receiverObject).Keeps E where
  link := Link.Keeps.fresh E queue
  inFlight := by simp [Flow.fresh]
  buffered := buffered
  reading := by
    intro opened
    cases opened
  unopened := fun _ => empty

end Flow.Keeps

/-- A flow that was just created is an empty channel. -/
theorem Flow.view_fresh {senderObject receiverObject : WifiNetworkObject w}
    (empty : receiverObject.size = 0) :
    (Flow.fresh senderObject receiverObject).view E = .empty := by
  have nothing : receiverObject.window = [] := by
    rw [← List.length_eq_zero_iff, length_window, empty]
    rfl
  simp [Flow.view, Flow.inside, Flow.fresh, Link.fresh, Ledger.blank, Channel.empty,
    WifiNetworkObject.framesLeft, nothing]

/-- **Over a network that loses datagrams, or also repeats and reorders them, and for every
interleaving of the calls on both sides, the transport is a channel of frames over that
medium**: what was popped and what can still come out are what the network may make of the
frames that `PushFrame` accepted. -/
theorem flow_transports {M : Medium} (loses : M.Loses) {timeDiff : TimeDiff}
    {senderObject receiverObject : WifiNetworkObject w} (queue : QueueAsNew senderObject)
    (buffered : Buffered receiverObject) (empty : receiverObject.size = 0)
    {steps : List (FlowStep w)} {flow : Flow w}
    (run : Run (restrict (Flow.Sound M timeDiff) (follows (Flow.next E timeDiff)))
      (.fresh senderObject receiverObject) steps flow) :
    Channel.Leads M .empty (flow.view E) ∧
      M.le (flow.popped ++ flow.inside E) flow.link.accepted := by
  have moved : flow.Keeps E ∧
      Channel.Leads M ((Flow.fresh senderObject receiverObject).view E) (flow.view E) := by
    refine run.leads (fun flow => flow.Keeps E) (fun flow => flow.view E) ?_
      (.fresh E queue buffered empty)
    rintro before step after keeps ⟨sound, rfl⟩
    exact keeps.next E loses sound
  rw [Flow.view_fresh E empty] at moved
  exact ⟨moved.2, Channel.conserves moved.2⟩

/-- A frame is pushed and sent, the network repeats the datagram, and the receiver pops
twice. -/
def repeated : List (FlowStep 64) :=
  let sent : List UInt8 := [1, 2, 3, 8, 0, 0, 0, 65]
  [.send (.push (fun _ => 65) (.bytes 0) ⟨1, 2, 3, 8, 16⟩), .send (.send (.sent 8) none),
    .network [sent, sent], .receive (arrival sent) none, .pop, .receive (arrival sent) none, .pop]

theorem flow_transports_repeated :
    let flow := repeated.foldl (Flow.next .littleEndianHost exactDiff)
      (.fresh ((newSender (.cleared 64) fourGiB).connected 3 (4, 5) 212992) newAtFourGiB)
    Channel.Leads .unordered .empty (flow.view .littleEndianHost) ∧
      Medium.unordered.le (flow.popped ++ flow.inside .littleEndianHost) flow.link.accepted :=
  flow_transports .littleEndianHost Medium.unordered_loses
    (queueAsNew_connected (.cleared 64) placed_fourGiB 3 (4, 5) 212992)
    (buffered_bound (.cleared 64) placed_fourGiB _ _ _) rfl
    (show Run (restrict (Flow.Sound .unordered exactDiff)
        (follows (Flow.next .littleEndianHost exactDiff)))
        (.fresh ((newSender (.cleared 64) fourGiB).connected 3 (4, 5) 212992) newAtFourGiB)
        repeated _ from
      .cons ⟨show _ ∧ _ by decide, rfl⟩ (.cons ⟨rfl, rfl⟩ (.cons
        ⟨show ([_, _] : List _) ⊆ [_] by decide, rfl⟩ (.cons ⟨show _ ∧ _ by decide, rfl⟩
          (.cons ⟨rfl, rfl⟩ (.cons ⟨show _ ∧ _ by decide, rfl⟩ (.single ⟨rfl, rfl⟩)))))))

end WifiNetwork

end ARNetworkAL
