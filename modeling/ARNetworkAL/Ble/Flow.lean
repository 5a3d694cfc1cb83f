import ARNetworkAL.Ble.Transport
import ARNetworkAL.Library.Channel

/-!
# The Bluetooth transport, call by call

Either system can be on either side, and the calls come in any order. A frame that
`PushFrame` accepts was written to a characteristic, and becomes a notification of the
characteristic of the peer that has the same place. `Receive` moves what has arrived to
the end of `recvArray`, and `PopFrame` takes its first notification. A sender may be
disconnected and connected again; a receiver on Android that is disconnected drops what was
not popped.

Seen as a channel of frames, what is inside is what the notifications in `recvArray` and on
their way carry (`Flow.view`).
-/

set_option autoImplicit false

namespace ARNetworkAL

open Library

namespace BleNetwork

variable {w w' : ℕ} {κ κ' : Type}

namespace Platform

/-- `Receive`, with what it reads from libARSAL. -/
def receiveFrom (env : Bool) (read : Option (List Notification)) :
    (platform : Platform) → platform.Object κ → ManagerReturn × platform.Object κ
  | ios, object => Ios.receive read object
  | android, object => Jni.receive env read object

/-- What `disconnect` leaves of the fields that frames pass through: on iOS all of them. -/
def disconnect : (platform : Platform) → platform.Object κ → platform.Object κ
  | ios, object => object
  | android, object => { object with jBLENetwork := Java.cleanup object.jBLENetwork }

/-- What `connect` leaves once it has found the services: the characteristics of the one
that is sent to. -/
def connected (characteristics : List κ) :
    (platform : Platform) → platform.Object κ → platform.Object κ
  | ios, object => { object with sendService := some characteristics }
  | android, object =>
      { object with
        jBLENetwork := { object.jBLENetwork with sendService := some characteristics } }

end Platform

/-! ## One call -/

section

variable (word : 32 ≤ w) {characteristics : List κ} {caller : Mem UInt8} {answers : PushAnswers}
  {frame : Frame w}

/-- A frame with a header that passes the test of the length fits a value. -/
theorem fitsValue_of_short (word : 32 ≤ w) (header : offsetofDataPtr ≤ frame.size.toNat)
    (short : ¬ mediaMtu < (valueLength frame).toNat) : FitsValue frame :=
  ⟨header, ((valueLength_le_iff word frame).mp (Nat.not_lt.mp short)).2⟩

/-- What iOS accepts can be carried out. -/
theorem Ios.written_of_default (word : 32 ≤ w) {network : Network κ}
    (header : offsetofDataPtr ≤ frame.size.toNat)
    (service : network.sendService = some characteristics)
    (accepted : (Ios.pushFrame caller answers network frame).result = some .default) :
    FitsValue frame ∧ frame.id.toNat < characteristics.length ∧ answers.writeData = true := by
  simp only [Ios.pushFrame, service] at accepted
  split at accepted
  · cases accepted
  · rename_i short
    split at accepted
    · rename_i known
      rw [Ios.writeData] at accepted
      split at accepted
      · rename_i written
        exact ⟨fitsValue_of_short word header short, known, written⟩
      · cases accepted
    · cases accepted

/-- What Android accepts can be carried out, and found an environment and an array. -/
theorem Jni.written_of_default (word : 32 ≤ w) {object : Jni.JniObject κ}
    (header : offsetofDataPtr ≤ frame.size.toNat)
    (accepted : (Jni.pushFrame caller answers object frame).result = some .default) :
    FitsValue frame ∧ (∃ characteristics, object.jBLENetwork.sendService = some characteristics ∧
      frame.id.toNat < characteristics.length) ∧ answers = ⟨true, true, true⟩ := by
  obtain ⟨env, newByteArray, writeData⟩ := answers
  simp only [Jni.pushFrame] at accepted
  split at accepted
  · cases accepted
  · rename_i attached
    split at accepted
    · cases accepted
    · rename_i allocated
      split at accepted
      · cases accepted
      · rename_i short
        cases service : object.jBLENetwork.sendService with
        | none => simp [Java.pushFrame, service] at accepted
        | some characteristics =>
            simp only [Java.pushFrame, service] at accepted
            split at accepted
            · rename_i inRange
              split at accepted
              · rename_i written
                rw [not_or] at allocated
                refine ⟨fitsValue_of_short word header short, ⟨_, rfl, by omega⟩, ?_⟩
                simp_all
              · cases accepted
            · cases accepted

end

section

variable (word : 32 ≤ w) {platform : Platform} {object : platform.Object κ}

/-- **A push writes the packet of the frame that it accepts.** -/
theorem push_default (word : 32 ≤ w) {call : PushCall w}
    (header : offsetofDataPtr ≤ call.frame.size.toNat)
    (service : platform = .ios → (platform.network object).sendService ≠ none)
    (accepted : (platform.push object call).result = some .default) :
    (platform.push object call).writes = [call.write] := by
  cases platform with
  | ios =>
      obtain ⟨characteristics, service⟩ := Option.ne_none_iff_exists'.mp (service rfl)
      obtain ⟨fits, known, written⟩ := Ios.written_of_default word header service accepted
      exact (Ios.pushFrame_fits word call.caller written fits service known).2.1
  | android =>
      obtain ⟨fits, ⟨others, service, known⟩, answers⟩ :=
        Jni.written_of_default word header accepted
      exact (Jni.pushFrame_fits word call.caller (by rw [answers]) (by rw [answers])
        (by rw [answers]) fits service known).2.1

end

/-! ## The flow -/

/-- A sender, the notifications on their way, the receiver of the peer, the frames for which
`PushFrame` returned `DEFAULT` and those for which `PopFrame` did. -/
structure Flow (sender receiver : Platform) (κ κ' : Type) where
  senderObject : sender.Object κ
  inFlight : List Notification
  receiverObject : receiver.Object κ'
  accepted : List Message
  popped : List Message

/-- A call on the sender, of `PushFrame` with the notification that the value becomes, or of
`connect` or `disconnect`; a disturbance of the link that leaves these notifications; or a
call on the receiver, of `Receive` with the number of notifications it reads, if any, of
`PopFrame` or of `disconnect`. -/
inductive FlowStep (w w' : ℕ) (κ : Type) where
  | push (call : PushCall w) (notification : Notification)
  | connect (characteristics : List κ)
  | disconnect
  | network (left : List Notification)
  | receive (env : Bool) (count : Option ℕ)
  | pop (call : PopCall w')
  | receiverDisconnect

namespace Flow

variable {sender receiver : Platform}

/-- Nothing was sent or received yet. -/
def fresh (senderObject : sender.Object κ) (receiverObject : receiver.Object κ') :
    Flow sender receiver κ κ' :=
  ⟨senderObject, [], receiverObject, [], []⟩

/-- The flow after a step. -/
def next (flow : Flow sender receiver κ κ') : FlowStep w w' κ → Flow sender receiver κ κ'
  | .push call notification =>
      let outcome := sender.push flow.senderObject call
      { flow with
        senderObject := outcome.object
        inFlight := flow.inFlight ++
          if outcome.result = some .default then outcome.writes.map fun _ => notification else []
        accepted := flow.accepted ++
          if outcome.result = some .default then [call.content] else [] }
  | .connect characteristics =>
      { flow with senderObject := sender.connected characteristics flow.senderObject }
  | .disconnect => { flow with senderObject := sender.disconnect flow.senderObject }
  | .network left => { flow with inFlight := left }
  | .receive env count =>
      let read := count.map flow.inFlight.take
      let (result, receiverObject) := receiver.receiveFrom env read flow.receiverObject
      { flow with
        inFlight := if result = .default then flow.inFlight.drop (count.getD 0) else flow.inFlight
        receiverObject := receiverObject }
  | .pop call =>
      let outcome := receiver.pop flow.receiverObject call
      { flow with
        receiverObject := outcome.object
        popped := flow.popped ++
          if outcome.result = some .default then [outcome.content call.placement] else [] }
  | .receiverDisconnect =>
      { flow with receiverObject := receiver.disconnect flow.receiverObject }

/-- Frames count their header. A value that is written to a characteristic is notified by the
one in its place, and iOS has a service to send to. A receiver on Android is not disconnected
before everything was popped, unless the medium may lose frames. -/
def Sound (M : Medium) (flow : Flow sender receiver κ κ') : FlowStep w w' κ → Prop
  | .push call notification =>
      offsetofDataPtr ≤ call.frame.size.toNat ∧
        (∀ write ∈ (sender.push flow.senderObject call).writes, Delivered write notification) ∧
        (sender = .ios → (sender.network flow.senderObject).sendService ≠ none)
  | .network left => M.le left flow.inFlight
  | .receiverDisconnect =>
      M.Loses ∨ receiver = .ios ∨ (receiver.network flow.receiverObject).recvArray = []
  | _ => True

/-- The notifications whose frames can still come out, in order. -/
def notifications (flow : Flow sender receiver κ κ') : List Notification :=
  (receiver.network flow.receiverObject).recvArray ++ flow.inFlight

/-- What a notification carries. -/
def carried (notification : Notification) : List Message := notification.message?.toList

/-- The flow as a channel of frames. -/
def view (flow : Flow sender receiver κ κ') : Channel Message :=
  ⟨flow.accepted, flow.notifications.flatMap carried, flow.popped⟩

/-- Each notification carries a frame. -/
def Keeps (flow : Flow sender receiver κ κ') : Prop :=
  ∀ notification ∈ flow.notifications, ∃ message, Carries message notification

end Flow

/-! ## Every step moves the channel -/

theorem Carries.carried {message : Message} {notification : Notification}
    (carries : Carries message notification) : Flow.carried notification = [message] := by
  rw [Flow.carried, carries.message]
  rfl

/-- `PopFrame` gives the frame that the first notification carries, and removes it. Without an
environment on Android, and on an empty queue, it gives none and leaves the queue. -/
theorem pop_cases (word : 32 ≤ w) {platform : Platform} {object : platform.Object κ}
    (carries : ∀ notification ∈ (platform.network object).recvArray,
      ∃ message, Carries message notification) (call : PopCall w) :
    (∃ notification rest message, (platform.network object).recvArray = notification :: rest ∧
      Carries message notification ∧ (platform.pop object call).result = some .default ∧
      (platform.pop object call).content call.placement = message ∧
      (platform.network (platform.pop object call).object).recvArray = rest) ∨
    ((platform.pop object call).result ≠ some .default ∧
      (platform.network (platform.pop object call).object).recvArray =
        (platform.network object).recvArray) := by
  cases queue : (platform.network object).recvArray with
  | nil =>
      refine .inr ?_
      cases platform with
      | ios =>
          rw [Platform.network] at queue
          simp [Platform.pop, Ios.popFrame, queue, Platform.network]
      | android =>
          rw [Platform.network] at queue
          cases env : call.env with
          | false => simp [Platform.pop, Jni.popFrame, env, queue, Platform.network]
          | true =>
              simp [Platform.pop, Jni.popFrame, Java.popFrame, env, queue, Platform.network,
                Java.DataPop.new]
  | cons notification rest =>
      obtain ⟨message, first⟩ := carries notification (by rw [queue]; exact List.mem_cons_self)
      have readable : ∀ notification ∈ (platform.network object).recvArray.head?,
          notification.Readable := by
        rintro other head
        rw [queue] at head
        cases head
        exact first.readable
      have nonempty : (platform.network object).recvArray ≠ [] := by
        rw [queue]
        exact List.cons_ne_nil _ _
      have taken (popped : Pops (popQueue (platform.network object).recvArray)
          (platform.pop object call) call.placement
          (platform.network (platform.pop object call).object).recvArray) :
          (platform.pop object call).result = some .default ∧
            (platform.pop object call).content call.placement = message ∧
            (platform.network (platform.pop object call).object).recvArray = rest := by
        rw [queue, popQueue] at popped
        simp only [first.message] at popped
        exact ⟨popped.result, popped.content, popped.remaining⟩
      cases platform with
      | ios =>
          have popped := taken (Ios.popFrame_pops word call.placement readable call.frame)
          exact .inl ⟨notification, rest, message, rfl, first, popped⟩
      | android =>
          cases env : call.env with
          | true =>
              have popped := taken (pop_pops word nonempty readable env)
              exact .inl ⟨notification, rest, message, rfl, first, popped⟩
          | false =>
              refine .inr ?_
              rw [Platform.network] at queue
              simp [Platform.pop, Jni.popFrame, env, queue, Platform.network]

namespace Flow.Keeps

variable {sender receiver : Platform} {flow : Flow sender receiver κ κ'} {M : Medium}

/-- A push puts the frame in that it accepts. -/
theorem push (word : 32 ≤ w) (keeps : flow.Keeps) {call : PushCall w}
    {notification : Notification}
    (sound : flow.Sound M (.push call notification : FlowStep w w' κ)) :
    (flow.next (.push call notification : FlowStep w w' κ)).Keeps ∧
      Channel.Leads M flow.view (flow.next (.push call notification : FlowStep w w' κ)).view := by
  obtain ⟨header, delivered, service⟩ := sound
  simp only [Flow.view, Flow.notifications, Flow.next]
  by_cases accepted : (sender.push flow.senderObject call).result = some .default
  · have writes := push_default word header service accepted
    have carries : Carries call.content notification :=
      (delivered call.write (by rw [writes]; exact List.mem_singleton_self _)).carries header
    have inside : (flow.notifications ++ [notification]).flatMap Flow.carried =
        flow.notifications.flatMap Flow.carried ++ [call.content] := by
      rw [List.flatMap_append, List.flatMap_singleton, carries.carried]
    rw [Flow.notifications] at inside
    rw [if_pos accepted, if_pos accepted, writes, ← List.append_assoc, List.map_singleton, inside]
    refine ⟨?_, .put _ _ _ _⟩
    intro other member
    rw [Flow.notifications, ← List.append_assoc] at member
    rcases List.mem_append.mp member with earlier | last
    · exact keeps other earlier
    · rw [List.mem_singleton.mp last]
      exact ⟨_, carries⟩
  · rw [if_neg accepted, if_neg accepted, List.append_nil, List.append_nil]
    exact ⟨keeps, .refl _⟩

/-- What is dropped of the notifications in `recvArray` and on their way is lost. -/
theorem disturbed (keeps : flow.Keeps) {after : Flow sender receiver κ κ'}
    (kept : M.le after.notifications flow.notifications) (accepted : after.accepted = flow.accepted)
    (popped : after.popped = flow.popped) :
    after.Keeps ∧ Channel.Leads M flow.view after.view := by
  refine ⟨?_, ?_⟩
  · intro notification member
    exact keeps notification (M.subset kept member)
  · rw [Flow.view, Flow.view, accepted, popped]
    exact .disturb (M.flatMap Flow.carried kept)

/-- `Receive` moves what has arrived. -/
theorem receive (keeps : flow.Keeps) (env : Bool) (count : Option ℕ) :
    (flow.next (.receive env count : FlowStep w w' κ)).Keeps ∧
      Channel.Leads M flow.view (flow.next (.receive env count : FlowStep w w' κ)).view := by
  have same : (flow.next (.receive env count : FlowStep w w' κ)).notifications =
      flow.notifications := by
    cases receiver with
    | ios =>
        cases count with
        | none => rfl
        | some count =>
            simp [Flow.notifications, Flow.next, Platform.receiveFrom, Ios.receive,
              Platform.network]
    | android =>
        cases env with
        | false => rfl
        | true =>
            cases count with
            | none => rfl
            | some count =>
                simp [Flow.notifications, Flow.next, Platform.receiveFrom, Jni.receive,
                  Java.receive, Platform.network]
  refine keeps.disturbed ?_ rfl rfl
  rw [same]
  exact M.refl _

/-- `PopFrame` takes the frame of the first notification out. -/
theorem pop (word : 32 ≤ w') (keeps : flow.Keeps) (call : PopCall w') :
    (flow.next (.pop call : FlowStep w w' κ)).Keeps ∧
      Channel.Leads M flow.view (flow.next (.pop call : FlowStep w w' κ)).view := by
  have carries : ∀ notification ∈ (receiver.network flow.receiverObject).recvArray,
      ∃ message, Carries message notification := by
    intro notification member
    exact keeps notification (List.mem_append_left _ member)
  rcases pop_cases word carries call with
    ⟨notification, rest, message, queue, first, taken, content, remaining⟩ | ⟨refused, remaining⟩
  · have before : flow.notifications = notification :: (rest ++ flow.inFlight) := by
      rw [Flow.notifications, queue, List.cons_append]
    refine ⟨?_, ?_⟩
    · intro other member
      simp only [Flow.notifications, Flow.next, remaining] at member
      exact keeps other (by rw [before]; exact List.mem_cons_of_mem _ member)
    · rw [Flow.view, before, List.flatMap_cons, first.carried]
      simp only [Flow.view, Flow.notifications, Flow.next, remaining, taken, content, if_true]
      exact .take _ _ _ message
  · refine keeps.disturbed ?_ rfl ?_
    · simp only [Flow.notifications, Flow.next, remaining]
      exact M.refl _
    · simp only [Flow.next, if_neg refused, List.append_nil]

/-- A receiver on Android that is disconnected loses what was not popped. -/
theorem receiverDisconnect (keeps : flow.Keeps)
    (sound : flow.Sound M (.receiverDisconnect : FlowStep w w' κ)) :
    (flow.next (.receiverDisconnect : FlowStep w w' κ)).Keeps ∧
      Channel.Leads M flow.view (flow.next (.receiverDisconnect : FlowStep w w' κ)).view := by
  refine keeps.disturbed ?_ rfl rfl
  cases receiver with
  | ios => exact M.refl _
  | android =>
      rcases sound with loses | ios | empty
      · exact loses.drop_left _ _
      · cases ios
      · simp only [Flow.notifications, Flow.next, empty]
        exact M.refl _

/-- **What every step preserves, and how it moves the channel.** -/
theorem next (word : 32 ≤ w) (word' : 32 ≤ w') (keeps : flow.Keeps) {step : FlowStep w w' κ}
    (sound : flow.Sound M step) :
    (flow.next step).Keeps ∧ Channel.Leads M flow.view (flow.next step).view := by
  cases step with
  | push call notification => exact keeps.push word sound
  | connect characteristics => exact ⟨keeps, .refl _⟩
  | disconnect => exact ⟨keeps, .refl _⟩
  | network left => exact keeps.disturbed (Medium.append_left _ sound) rfl rfl
  | receive env count => exact keeps.receive env count
  | pop call => exact keeps.pop word' call
  | receiverDisconnect => exact keeps.receiverDisconnect sound

end Flow.Keeps

/-- **For every interleaving of the calls on both sides, whichever systems they are, the
transport is a channel of frames over the medium that the link is**: what was popped, what
waits in `recvArray` and what is on its way are what the link may make of the frames that
`PushFrame` accepted. -/
theorem notifications_transport (word : 32 ≤ w) (word' : 32 ≤ w') {M : Medium}
    {sender receiver : Platform} {senderObject : sender.Object κ}
    {receiverObject : receiver.Object κ'}
    (empty : (receiver.network receiverObject).recvArray = [])
    {steps : List (FlowStep w w' κ)} {flow : Flow sender receiver κ κ'}
    (run : Run (restrict (Flow.Sound M) (follows Flow.next)) (.fresh senderObject receiverObject)
      steps flow) :
    Channel.Leads M .empty flow.view ∧
      M.le (flow.popped ++ flow.notifications.flatMap Flow.carried) flow.accepted := by
  have start : (Flow.fresh senderObject receiverObject).view = .empty := by
    simp [Flow.view, Flow.notifications, Flow.fresh, empty, Channel.empty]
  have initial : (Flow.fresh senderObject receiverObject).Keeps := by
    intro notification member
    simp [Flow.notifications, Flow.fresh, empty] at member
  have moved : flow.Keeps ∧
      Channel.Leads M (Flow.fresh senderObject receiverObject).view flow.view := by
    refine run.leads Flow.Keeps Flow.view ?_ initial
    rintro before step after keeps ⟨sound, rfl⟩
    exact keeps.next word word' sound
  rw [start] at moved
  exact ⟨moved.2, Channel.conserves moved.2⟩

/-- A frame goes from iOS to Android, where the sender disconnects before it is popped. -/
theorem notifications_transport_one :
    let steps : List (FlowStep 64 64 Unit) :=
      [.connect [(), ()], .push oneByte ⟨['f', 'a', '0', '1'], [2, 7, 65]⟩, .disconnect,
        .receive true (some 1), .pop ⟨⟨16, fun _ => 0⟩, true, .reset 64⟩]
    let flow : Flow .ios .android Unit Unit :=
      steps.foldl Flow.next (.fresh ⟨none, [], 0, 0⟩ ⟨⟨none, [], 0, 0⟩, none⟩)
    Channel.Leads .reliable .empty flow.view ∧
      flow.popped ++ flow.notifications.flatMap Flow.carried = flow.accepted :=
  notifications_transport (by decide) (by decide) rfl
    (show Run (restrict (Flow.Sound .reliable) (follows Flow.next))
        (.fresh ⟨none, [], 0, 0⟩ ⟨⟨none, [], 0, 0⟩, none⟩ : Flow .ios .android Unit Unit)
        [.connect [(), ()], .push oneByte ⟨['f', 'a', '0', '1'], [2, 7, 65]⟩, .disconnect,
          .receive true (some 1), .pop ⟨⟨16, fun _ => 0⟩, true, .reset 64⟩] _ from
      .cons ⟨trivial, rfl⟩ (.cons ⟨⟨by decide, by
          intro write member
          rw [List.mem_singleton.mp (show write ∈ [_] from member)]
          exact ⟨rfl, by decide, rfl⟩, fun _ => by decide⟩, rfl⟩
        (.cons ⟨trivial, rfl⟩ (.cons ⟨trivial, rfl⟩ (.single ⟨trivial, rfl⟩)))))

end BleNetwork

end ARNetworkAL
