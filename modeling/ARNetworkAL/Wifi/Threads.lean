import ARNetworkAL.Library.Announce
import ARNetworkAL.Wifi.ReceiveWindow
import ARNetworkAL.Wifi.SendQueue

/-!
# Two threads and one disconnection

A sender thread calls `PushFrame` and `Send`, a receiver thread `Receive` and `PopFrame`,
on the two objects of one manager. Either of them may find that the link is lost. It then
sets its own `isDisconnected`, reads that of the other, and calls the callback if that
one is not set.

`Threads` is the state of both, each with its own program point, and `Threads.next` takes
one atomic step: an access to a flag, the callback, or a part of a call that neither
reads nor writes what the other thread uses. A thread that is left alone does what the
functions do (`send_alone`, `receive_alone`).

The two of them run the protocol of `Library.Announce` (`Threads.next_step`). The callback
is never called twice (`callback_at_most_once`). It is not called at all when both threads
set their flags before either has read the other's (`disconnection_notified_iff`).
-/

set_option autoImplicit false

namespace ARNetworkAL

open Library

namespace WifiNetwork

variable {w : ℕ}

/-! ## The state of two threads -/

/-- Where a thread is. Inside a call it keeps what the call still needs. -/
inductive CallPoint (locals : Type) where
  | betweenCalls
  | beforeOwnTest (kept : locals)
  | beforeOwnSet
  | beforeOtherTest
  | beforeCallback
  deriving DecidableEq, Repr

/-- What `Receive` keeps for its test of the disconnection: whether the wake-up pipe was
written, and the date that the test reads. -/
structure QuietSocket where
  fifoReady : Bool
  lostCheck : Timespec
  deriving DecidableEq, Repr

/-- The objects of a manager, the two threads that use them, and how often the
disconnection callback was called. -/
structure Threads (w : ℕ) where
  senderObject : WifiNetworkObject w
  receiverObject : WifiNetworkObject w
  sender : CallPoint Unit
  receiver : CallPoint QuietSocket
  callbacks : ℕ

namespace Threads

/-- Neither thread is in a call and the callback was not called. -/
def start (senderObject receiverObject : WifiNetworkObject w) : Threads w :=
  ⟨senderObject, receiverObject, .betweenCalls, .betweenCalls, 0⟩

/-- Both threads are between calls. -/
def BetweenCalls (threads : Threads w) : Prop :=
  threads.sender = .betweenCalls ∧ threads.receiver = .betweenCalls

/-- At least one of the two flags is 1. -/
def Disconnected (threads : Threads w) : Prop :=
  threads.senderObject.isDisconnected = 1 ∨ threads.receiverObject.isDisconnected = 1

end Threads

/-- One step of a thread: a call that begins, with what the operating system answers to
it, or the next step of the call that is under way. -/
inductive Action (w : ℕ) where
  | push (caller : Mem UInt8) (answer : OutqAnswer) (frame : Frame w)
  | send (answer : SocketSend)
  | senderGoesOn
  | receive (call : ReceiveCall)
  | pop
  | receiverGoesOn

/-! ## Steps -/

/-- The socket refused the queue, and not because it is full. -/
def SocketSend.IsError : SocketSend → Prop
  | sent _ => False
  | failed err => err ≠ .eagain

instance (answer : SocketSend) : Decidable answer.IsError :=
  match answer with
  | .sent _ => inferInstanceAs (Decidable False)
  | .failed err => inferInstanceAs (Decidable (err ≠ .eagain))

/-- The last assignment of `Receive`. -/
def WifiNetworkObject.rewind (object : WifiNetworkObject w) : WifiNetworkObject w :=
  { object with currentFrame := object.buffer }

/-- The receiver once `select` has found nothing on the socket. -/
def quietReceiver (first : Timespec) (receiverObject : WifiNetworkObject w) :
    WifiNetworkObject w :=
  { startReception first receiverObject with size := 0 }

variable (E : Endianness) (timeDiff : TimeDiff)

namespace Threads

/-- `Send` up to its first access to a flag, or to its end. -/
def beginSend (answer : SocketSend) (threads : Threads w) : Threads w :=
  if threads.senderObject.size ≠ 0 ∧ answer.IsError then
    { threads with sender := .beforeOwnTest () }
  else
    { threads with
      senderObject :=
        (WifiNetwork.send answer threads.senderObject (some threads.receiverObject)).senderObject }

/-- The rest of `Send`, one access to a flag at a time. -/
def continueSend (threads : Threads w) : Option (Threads w) :=
  match threads.sender with
  | .betweenCalls => none
  | .beforeOwnTest _ =>
      if threads.senderObject.isDisconnected = 0 then
        some { threads with sender := .beforeOwnSet }
      else some { threads with sender := .betweenCalls }
  | .beforeOwnSet =>
      some { threads with
        senderObject := { threads.senderObject with isDisconnected := 1 }
        sender := .beforeOtherTest }
  | .beforeOtherTest =>
      if threads.senderObject.onDisconnect ≠ 0 ∧ threads.receiverObject.isDisconnected = 0 then
        some { threads with sender := .beforeCallback }
      else some { threads with sender := .betweenCalls }
  | .beforeCallback =>
      some { threads with sender := .betweenCalls, callbacks := threads.callbacks + 1 }

/-- `Receive` up to its first access to a flag, or to its end. -/
def beginReceive (call : ReceiveCall) (threads : Threads w) : Threads w :=
  match call.select with
  | .ready false fifoReady =>
      { threads with
        receiverObject := quietReceiver call.clock.first threads.receiverObject
        receiver := .beforeOwnTest ⟨fifoReady, call.clock.lostCheck⟩ }
  | _ =>
      { threads with
        receiverObject :=
          (WifiNetwork.receive timeDiff call threads.receiverObject
            (some threads.senderObject)).receiverObject }

/-- The rest of `Receive`, one access to a flag at a time. -/
def continueReceive (threads : Threads w) : Option (Threads w) :=
  match threads.receiver with
  | .betweenCalls => none
  | .beforeOwnTest quiet =>
      if threads.receiverObject.isDisconnected ≠ 1 ∧ quiet.fifoReady = false ∧
          IsTooLongWithoutReceive timeDiff threads.receiverObject quiet.lostCheck then
        some { threads with receiver := .beforeOwnSet }
      else
        some { threads with
          receiverObject := threads.receiverObject.rewind
          receiver := .betweenCalls }
  | .beforeOwnSet =>
      some { threads with
        receiverObject := { threads.receiverObject with isDisconnected := 1 }
        receiver := .beforeOtherTest }
  | .beforeOtherTest =>
      if threads.receiverObject.onDisconnect ≠ 0 ∧ threads.senderObject.isDisconnected = 0 then
        some { threads with receiver := .beforeCallback }
      else
        some { threads with
          receiverObject := threads.receiverObject.rewind
          receiver := .betweenCalls }
  | .beforeCallback =>
      some { threads with
        receiverObject := threads.receiverObject.rewind
        receiver := .betweenCalls
        callbacks := threads.callbacks + 1 }

/-- One step of either thread. A call begins between calls. -/
def next (threads : Threads w) : Action w → Option (Threads w)
  | .push caller answer frame =>
      if threads.sender = .betweenCalls then
        some { threads with
          senderObject := (pushFrame E caller answer threads.senderObject frame).senderObject }
      else none
  | .send answer =>
      if threads.sender = .betweenCalls then some (threads.beginSend answer) else none
  | .senderGoesOn => threads.continueSend
  | .receive call =>
      if threads.receiver = .betweenCalls then some (threads.beginReceive timeDiff call) else none
  | .pop =>
      if threads.receiver = .betweenCalls then
        some { threads with
          receiverObject := (popFrame E threads.receiverObject).receiverObject }
      else none
  | .receiverGoesOn => threads.continueReceive timeDiff

/-! ## One thread alone -/

/-- The test that precedes the callback, where the other object exists. -/
theorem notified_some (onDisconnect : BitVec w) (other : WifiNetworkObject w) :
    (onDisconnect ≠ 0 && (some other).all fun object => object.isDisconnected == 0) =
      decide (onDisconnect ≠ 0 ∧ other.isDisconnected = 0) := by
  rw [Bool.decide_and]
  rfl

section

variable {E timeDiff} {threads : Threads w}

/-- **A sender thread that is not interrupted does what `Send` does.** -/
theorem send_alone (between : threads.sender = .betweenCalls) (answer : SocketSend) :
    let outcome :=
      WifiNetwork.send answer threads.senderObject (some threads.receiverObject)
    ∃ turns, Run (enabled (next E timeDiff)) threads
      (.send answer :: List.replicate turns .senderGoesOn)
      { threads with
        senderObject := outcome.senderObject
        callbacks := threads.callbacks + outcome.notified.toNat } := by
  intro outcome
  by_cases breaks : threads.senderObject.size ≠ 0 ∧ answer.IsError
  · obtain ⟨bytes, error⟩ := breaks
    cases answer with
    | sent _ => exact error.elim
    | failed err =>
        have begins : next E timeDiff threads (.send (.failed err)) =
            some { threads with sender := .beforeOwnTest () } := by
          simp only [next, if_pos between, beginSend, if_pos (And.intro bytes error)]
        have failed := send_failed (some threads.receiverObject) error bytes
        rw [notified_some] at failed
        by_cases connected : threads.senderObject.isDisconnected = 0
        · rw [if_pos connected] at failed
          by_cases notifies : threads.senderObject.onDisconnect ≠ 0 ∧
              threads.receiverObject.isDisconnected = 0
          · rw [decide_eq_true notifies] at failed
            refine ⟨4, .cons begins (.cons (if_pos connected) (.cons rfl
              (.cons (if_pos notifies) (.single ?_))))⟩
            simp [enabled, next, continueSend, outcome, failed, ← between]
          · rw [decide_eq_false notifies] at failed
            refine ⟨3, .cons begins (.cons (if_pos connected) (.cons rfl (.single ?_)))⟩
            refine (if_neg notifies).trans ?_
            simp [outcome, failed, ← between]
        · rw [if_neg connected] at failed
          refine ⟨1, .cons begins (.single ?_)⟩
          simp [enabled, next, continueSend, outcome, failed, connected, ← between]
  · refine ⟨0, .single ?_⟩
    have silent : outcome.notified = false := by
      rcases send_cases answer threads.senderObject (some threads.receiverObject) with
        ⟨_, sent⟩ | ⟨_, _, _, sent⟩ | ⟨_, _, sent⟩ | ⟨bytes, _, error, rfl, _⟩
      · exact congrArg SendOutcome.notified sent
      · exact congrArg SendOutcome.notified sent
      · exact congrArg SendOutcome.notified sent
      · exact absurd ⟨bytes, error⟩ breaks
    simp [enabled, next, between, beginSend, breaks, silent, outcome]

/-- **A receiver thread that is not interrupted does what `Receive` does.** -/
theorem receive_alone (between : threads.receiver = .betweenCalls) (call : ReceiveCall) :
    let outcome :=
      WifiNetwork.receive timeDiff call threads.receiverObject (some threads.senderObject)
    ∃ turns, Run (enabled (next E timeDiff)) threads
      (.receive call :: List.replicate turns .receiverGoesOn)
      { threads with
        receiverObject := outcome.receiverObject
        callbacks := threads.callbacks + outcome.notified.toNat } := by
  intro outcome
  have notified : outcome.notified = (receiveReady timeDiff call
      (startReception call.clock.first threads.receiverObject)
      (some threads.senderObject)).notified := rfl
  rcases receiveReady_cases timeDiff call (startReception call.clock.first threads.receiverObject)
      (some threads.senderObject) with
    ⟨select, ready⟩ | ⟨fifoReady, select, quiet⟩ | ⟨_, select, _, ready⟩ | ⟨_, select, _, ready⟩
  · have silent : outcome.notified = false := notified.trans (congrArg _ ready)
    refine ⟨0, .single ?_⟩
    simp [enabled, next, between, beginReceive, select, silent, outcome]
  · have begins : next E timeDiff threads (.receive call) = some { threads with
        receiverObject := quietReceiver call.clock.first threads.receiverObject
        receiver := .beforeOwnTest ⟨fifoReady, call.clock.lostCheck⟩ } := by
      simp only [next, if_pos between, beginReceive, select]
    rw [← quietReceiver, checkDisconnection, notified_some] at quiet
    generalize quietReceiver call.clock.first threads.receiverObject = object at begins quiet
    by_cases lost : object.isDisconnected ≠ 1 ∧ fifoReady = false ∧
        IsTooLongWithoutReceive timeDiff object call.clock.lostCheck
    · rw [if_pos lost] at quiet
      by_cases notifies : object.onDisconnect ≠ 0 ∧ threads.senderObject.isDisconnected = 0
      · rw [decide_eq_true notifies] at quiet
        refine ⟨4, .cons begins (.cons (if_pos lost) (.cons rfl
          (.cons (if_pos notifies) (.single ?_))))⟩
        simp [enabled, next, continueReceive, WifiNetworkObject.rewind, outcome, receive, quiet,
          ← between]
      · rw [decide_eq_false notifies] at quiet
        refine ⟨3, .cons begins (.cons (if_pos lost) (.cons rfl (.single ?_)))⟩
        refine (if_neg notifies).trans ?_
        simp [WifiNetworkObject.rewind, outcome, receive, quiet, ← between]
    · rw [if_neg lost] at quiet
      refine ⟨1, .cons begins (.single ?_)⟩
      refine (if_neg lost).trans ?_
      simp [WifiNetworkObject.rewind, outcome, receive, quiet, ← between]
  · have silent : outcome.notified = false := notified.trans (congrArg _ ready)
    refine ⟨0, .single ?_⟩
    simp [enabled, next, between, beginReceive, select, silent, outcome]
  · have silent : outcome.notified = false := notified.trans (congrArg _ ready)
    refine ⟨0, .single ?_⟩
    simp [enabled, next, between, beginReceive, select, silent, outcome]

end

/-! ## The protocol of the two flags -/

end Threads

/-- What the detection of a disconnection uses of an object. -/
structure SameLink (object other : WifiNetworkObject w) : Prop where
  isDisconnected : other.isDisconnected = object.isDisconnected
  onDisconnect : other.onDisconnect = object.onDisconnect

theorem pushFrame_sameLink (caller : Mem UInt8) (answer : OutqAnswer)
    (object : WifiNetworkObject w) (frame : Frame w) :
    SameLink object (pushFrame E caller answer object frame).senderObject := by
  by_cases admitted : Admits answer object frame
  · obtain ⟨_, outcome⟩ := pushFrame_admitted E caller admitted
    rw [outcome]
    exact ⟨rfl, rfl⟩
  · obtain ⟨_, outcome⟩ := pushFrame_refused E caller admitted
    rw [outcome]
    exact ⟨rfl, rfl⟩

theorem popFrame_sameLink (object : WifiNetworkObject w) :
    SameLink object (popFrame E object).receiverObject := by
  obtain ⟨_, _, popped⟩ := popFrame_object E object
  rw [popped]
  exact ⟨rfl, rfl⟩

/-- `Send` uses its flag only when the socket refuses the queue for good. -/
theorem send_sameLink {answer : SocketSend} {object : WifiNetworkObject w}
    (receiverObject : Option (WifiNetworkObject w))
    (passes : ¬ (object.size ≠ 0 ∧ answer.IsError)) :
    SameLink object (send answer object receiverObject).senderObject := by
  rcases send_cases answer object receiverObject with
    ⟨_, outcome⟩ | ⟨_, _, _, outcome⟩ | ⟨_, _, outcome⟩ | ⟨bytes, _, error, rfl, _⟩
  · rw [outcome]
    exact ⟨rfl, rfl⟩
  · rw [outcome]
    exact ⟨rfl, rfl⟩
  · rw [outcome]
    exact ⟨rfl, rfl⟩
  · exact absurd ⟨bytes, error⟩ passes

theorem SameLink.trans {first second third : WifiNetworkObject w} (before : SameLink first second)
    (after : SameLink second third) : SameLink first third :=
  ⟨after.isDisconnected.trans before.isDisconnected, after.onDisconnect.trans before.onDisconnect⟩

theorem startReception_sameLink (first : Timespec) (object : WifiNetworkObject w) :
    SameLink object (startReception first object) := by
  obtain ⟨_, same⟩ := startReception_object first object
  rw [same]
  exact ⟨rfl, rfl⟩

theorem quietReceiver_sameLink (first : Timespec) (object : WifiNetworkObject w) :
    SameLink object (quietReceiver first object) := by
  obtain ⟨flag, callback⟩ := startReception_sameLink first object
  exact ⟨flag, callback⟩

theorem flushReceiveSocket_sameLink (object : WifiNetworkObject w) (answers : List SocketRecv) :
    SameLink object (flushReceiveSocket object answers).1 := by
  obtain ⟨_, _, flushed⟩ := flushReceiveSocket_object object answers
  rw [flushed]
  exact ⟨rfl, rfl⟩

theorem readAndDate_sameLink (clock : ReceiveClock) (object : WifiNetworkObject w)
    (answer : SocketRecv) :
    SameLink object (saveReceptionDate timeDiff clock (readSocket object answer).2.1) := by
  obtain ⟨_, saved⟩ := saveReceptionDate_object timeDiff clock (readSocket object answer).2.1
  obtain ⟨_, _, _, _, read⟩ := readSocket_object object answer
  rw [saved, read]
  exact ⟨rfl, rfl⟩

/-- `Receive` uses its flag only where `select` finds nothing on the socket. -/
theorem receive_sameLink {call : ReceiveCall}
    (busy : ∀ fifoReady, call.select ≠ .ready false fifoReady) (object : WifiNetworkObject w)
    (senderObject : Option (WifiNetworkObject w)) :
    SameLink object (receive timeDiff call object senderObject).receiverObject := by
  have started := startReception_sameLink call.clock.first object
  have ready : SameLink (startReception call.clock.first object)
      (receiveReady timeDiff call (startReception call.clock.first object)
        senderObject).receiverObject := by
    rcases receiveReady_cases timeDiff call (startReception call.clock.first object)
        senderObject with
      ⟨_, outcome⟩ | ⟨fifoReady, select, _⟩ | ⟨_, _, _, outcome⟩ | ⟨_, _, _, outcome⟩
    · rw [outcome]
      exact ⟨rfl, rfl⟩
    · exact absurd select (busy fifoReady)
    · rw [outcome]
      exact flushReceiveSocket_sameLink _ _
    · rw [outcome]
      exact readAndDate_sameLink timeDiff _ _ _
  obtain ⟨flag, callback⟩ := started.trans ready
  exact ⟨flag, callback⟩

namespace Threads

/-- The point of the protocol where a thread is. -/
def point {locals : Type} : CallPoint locals → Announce.Point
  | .betweenCalls => .rest
  | .beforeOwnTest _ => .noticed
  | .beforeOwnSet => .raising
  | .beforeOtherTest => .testing
  | .beforeCallback => .announcing

/-- The protocol in the state of the two threads. The sender is the party `false`. -/
def view (threads : Threads w) : Announce.State where
  point party := bif party then point threads.receiver else point threads.sender
  raised party :=
    bif party then threads.receiverObject.isDisconnected != 0
    else threads.senderObject.isDisconnected != 0
  announced := threads.callbacks

end Threads

/-- The thread that takes a step. -/
def Action.party : Action w → Bool
  | push .. => false
  | send _ => false
  | senderGoesOn => false
  | receive _ => true
  | pop => true
  | receiverGoesOn => true

namespace Threads

/-- The flags are 0 or 1, and if somebody listens both objects have a callback. -/
structure Armed (listened : Prop) (threads : Threads w) : Prop where
  senderFlag : threads.senderObject.isDisconnected = 0 ∨ threads.senderObject.isDisconnected = 1
  receiverFlag :
    threads.receiverObject.isDisconnected = 0 ∨ threads.receiverObject.isDisconnected = 1
  registered : listened →
    threads.senderObject.onDisconnect ≠ 0 ∧ threads.receiverObject.onDisconnect ≠ 0

section

variable {E timeDiff} {listened : Prop} {s t : Threads w}

/-- The view is a state when both parties agree on it. -/
theorem view_eq {threads : Threads w} {state : Announce.State}
    (sender : point threads.sender = state.point false ∧
      (threads.senderObject.isDisconnected != 0) = state.raised false)
    (receiver : point threads.receiver = state.point true ∧
      (threads.receiverObject.isDisconnected != 0) = state.raised true)
    (callbacks : threads.callbacks = state.announced) : threads.view = state := by
  refine Announce.State.ext ?_ ?_ callbacks
  · funext party
    cases party with
    | false => exact sender.1
    | true => exact receiver.1
  · funext party
    cases party with
    | false => exact sender.2
    | true => exact receiver.2

theorem view_sameLink {senderObject receiverObject : WifiNetworkObject w}
    (sender : SameLink s.senderObject senderObject)
    (receiver : SameLink s.receiverObject receiverObject) :
    view { s with senderObject := senderObject, receiverObject := receiverObject } = view s := by
  simp only [view, sender.isDisconnected, receiver.isDisconnected]

theorem view_sender (s : Threads w) (sender : CallPoint Unit) :
    view { s with sender := sender } = (view s).goto false (point sender) :=
  view_eq ⟨rfl, rfl⟩ ⟨rfl, rfl⟩ rfl

theorem view_receiver {receiverObject : WifiNetworkObject w}
    (link : SameLink s.receiverObject receiverObject) (receiver : CallPoint QuietSocket) :
    view { s with receiverObject := receiverObject, receiver := receiver } =
      (view s).goto true (point receiver) :=
  view_eq ⟨rfl, rfl⟩ ⟨rfl, congrArg (· != 0) link.isDisconnected⟩ rfl

theorem rewind_sameLink (object : WifiNetworkObject w) : SameLink object object.rewind := ⟨rfl, rfl⟩

theorem Armed.of_sameLink (armed : Armed listened s)
    (sender : SameLink s.senderObject t.senderObject)
    (receiver : SameLink s.receiverObject t.receiverObject) : Armed listened t where
  senderFlag := by
    rw [sender.isDisconnected]
    exact armed.senderFlag
  receiverFlag := by
    rw [receiver.isDisconnected]
    exact armed.receiverFlag
  registered := by
    rw [sender.onDisconnect, receiver.onDisconnect]
    exact armed.registered

theorem continueSend_step (armed : Armed listened s) (taken : s.continueSend = some t) :
    Armed listened t ∧ Announce.Step listened s.view false t.view := by
  rw [continueSend] at taken
  cases here : s.sender with
  | betweenCalls =>
      rw [here] at taken
      cases taken
  | beforeOwnTest =>
      have there : s.view.point false = .noticed := congrArg point here
      simp only [here] at taken
      by_cases connected : s.senderObject.isDisconnected = 0
      · rw [if_pos connected] at taken
        cases taken
        refine ⟨armed.of_sameLink ⟨rfl, rfl⟩ ⟨rfl, rfl⟩, ?_⟩
        rw [view_sender s .beforeOwnSet]
        exact .resolve there (by simp [view, connected])
      · rw [if_neg connected] at taken
        cases taken
        refine ⟨armed.of_sameLink ⟨rfl, rfl⟩ ⟨rfl, rfl⟩, ?_⟩
        rw [view_sender s .betweenCalls]
        exact .leave there
  | beforeOwnSet =>
      have there : s.view.point false = .raising := congrArg point here
      simp only [here] at taken
      cases taken
      refine ⟨⟨.inr rfl, armed.receiverFlag, armed.registered⟩, ?_⟩
      convert Announce.Step.raise there using 1
      exact view_eq ⟨rfl, rfl⟩ ⟨rfl, rfl⟩ rfl
  | beforeOtherTest =>
      have there : s.view.point false = .testing := congrArg point here
      simp only [here] at taken
      by_cases notifies : s.senderObject.onDisconnect ≠ 0 ∧ s.receiverObject.isDisconnected = 0
      · rw [if_pos notifies] at taken
        cases taken
        refine ⟨armed.of_sameLink ⟨rfl, rfl⟩ ⟨rfl, rfl⟩, ?_⟩
        rw [view_sender s .beforeCallback]
        exact .claim there (by simp [view, notifies])
      · rw [if_neg notifies] at taken
        cases taken
        refine ⟨armed.of_sameLink ⟨rfl, rfl⟩ ⟨rfl, rfl⟩, ?_⟩
        rw [view_sender s .betweenCalls]
        refine .giveWay there ?_
        intro listens
        have disconnected : s.receiverObject.isDisconnected ≠ 0 := by
          intro connected
          exact notifies ⟨(armed.registered listens).1, connected⟩
        simp [view, disconnected]
  | beforeCallback =>
      have there : s.view.point false = .announcing := congrArg point here
      simp only [here] at taken
      cases taken
      refine ⟨armed.of_sameLink ⟨rfl, rfl⟩ ⟨rfl, rfl⟩, ?_⟩
      convert Announce.Step.announce there using 1
      exact view_eq ⟨rfl, rfl⟩ ⟨rfl, rfl⟩ rfl

theorem continueReceive_step (armed : Armed listened s)
    (taken : s.continueReceive timeDiff = some t) :
    Armed listened t ∧ Announce.Step listened s.view true t.view := by
  rw [continueReceive] at taken
  have rewound := rewind_sameLink s.receiverObject
  cases here : s.receiver with
  | betweenCalls =>
      rw [here] at taken
      cases taken
  | beforeOwnTest quiet =>
      have there : s.view.point true = .noticed := congrArg point here
      simp only [here] at taken
      by_cases lost : s.receiverObject.isDisconnected ≠ 1 ∧ quiet.fifoReady = false ∧
          IsTooLongWithoutReceive timeDiff s.receiverObject quiet.lostCheck
      · rw [if_pos lost] at taken
        cases taken
        have connected := armed.receiverFlag.resolve_right lost.1
        refine ⟨armed.of_sameLink ⟨rfl, rfl⟩ ⟨rfl, rfl⟩, ?_⟩
        rw [view_receiver (s := s) ⟨rfl, rfl⟩ .beforeOwnSet]
        exact .resolve there (by simp [view, connected])
      · rw [if_neg lost] at taken
        cases taken
        refine ⟨armed.of_sameLink ⟨rfl, rfl⟩ rewound, ?_⟩
        rw [view_receiver rewound .betweenCalls]
        exact .leave there
  | beforeOwnSet =>
      have there : s.view.point true = .raising := congrArg point here
      simp only [here] at taken
      cases taken
      refine ⟨⟨armed.senderFlag, .inr rfl, armed.registered⟩, ?_⟩
      convert Announce.Step.raise there using 1
      exact view_eq ⟨rfl, rfl⟩ ⟨rfl, rfl⟩ rfl
  | beforeOtherTest =>
      have there : s.view.point true = .testing := congrArg point here
      simp only [here] at taken
      by_cases notifies : s.receiverObject.onDisconnect ≠ 0 ∧ s.senderObject.isDisconnected = 0
      · rw [if_pos notifies] at taken
        cases taken
        refine ⟨armed.of_sameLink ⟨rfl, rfl⟩ ⟨rfl, rfl⟩, ?_⟩
        rw [view_receiver (s := s) ⟨rfl, rfl⟩ .beforeCallback]
        exact .claim there (by simp [view, notifies])
      · rw [if_neg notifies] at taken
        cases taken
        refine ⟨armed.of_sameLink ⟨rfl, rfl⟩ rewound, ?_⟩
        rw [view_receiver rewound .betweenCalls]
        refine .giveWay there ?_
        intro listens
        have disconnected : s.senderObject.isDisconnected ≠ 0 := by
          intro connected
          exact notifies ⟨(armed.registered listens).2, connected⟩
        simp [view, disconnected]
  | beforeCallback =>
      have there : s.view.point true = .announcing := congrArg point here
      simp only [here] at taken
      cases taken
      refine ⟨armed.of_sameLink ⟨rfl, rfl⟩ rewound, ?_⟩
      convert Announce.Step.announce there using 1
      exact view_eq ⟨rfl, rfl⟩ ⟨rfl, rfl⟩ rfl

/-- **Every step of a thread is a step of the protocol.** -/
theorem next_step (armed : Armed listened s) {action : Action w}
    (taken : next E timeDiff s action = some t) :
    Armed listened t ∧ Announce.Step listened s.view action.party t.view := by
  cases action with
  | push caller answer frame =>
      obtain ⟨between, pushed⟩ := Option.ite_none_right_eq_some.mp taken
      have link := pushFrame_sameLink E caller answer s.senderObject frame
      cases pushed
      refine ⟨armed.of_sameLink link ⟨rfl, rfl⟩, ?_⟩
      rw [view_sameLink (s := s) link ⟨rfl, rfl⟩]
      exact .stay (congrArg point between)
  | send answer =>
      obtain ⟨between, begun⟩ := Option.ite_none_right_eq_some.mp taken
      have there : s.view.point false = .rest := congrArg point between
      cases begun
      rw [beginSend]
      by_cases breaks : s.senderObject.size ≠ 0 ∧ answer.IsError
      · rw [if_pos breaks, view_sender s (.beforeOwnTest ())]
        exact ⟨armed.of_sameLink ⟨rfl, rfl⟩ ⟨rfl, rfl⟩, .notice there⟩
      · have link := send_sameLink (some s.receiverObject) breaks
        rw [if_neg breaks, view_sameLink (s := s) link ⟨rfl, rfl⟩]
        exact ⟨armed.of_sameLink link ⟨rfl, rfl⟩, .stay there⟩
  | senderGoesOn => exact continueSend_step armed taken
  | receive call =>
      obtain ⟨between, begun⟩ := Option.ite_none_right_eq_some.mp taken
      have there : s.view.point true = .rest := congrArg point between
      cases begun
      rw [beginReceive]
      split
      · rename_i fifoReady select
        have link := quietReceiver_sameLink call.clock.first s.receiverObject
        rw [view_receiver link]
        exact ⟨armed.of_sameLink ⟨rfl, rfl⟩ link, .notice there⟩
      · rename_i busy
        have link := receive_sameLink timeDiff busy s.receiverObject (some s.senderObject)
        rw [view_sameLink (s := s) ⟨rfl, rfl⟩ link]
        exact ⟨armed.of_sameLink ⟨rfl, rfl⟩ link, .stay there⟩
  | pop =>
      obtain ⟨between, popped⟩ := Option.ite_none_right_eq_some.mp taken
      have link := popFrame_sameLink E s.receiverObject
      cases popped
      refine ⟨armed.of_sameLink ⟨rfl, rfl⟩ link, ?_⟩
      rw [view_sameLink (s := s) ⟨rfl, rfl⟩ link]
      exact .stay (congrArg point between)
  | receiverGoesOn => exact continueReceive_step armed taken

end

/-! ## Runs of the two threads -/

/-- The link as `New` leaves it: neither object is disconnected. -/
structure LinkAsNew (senderObject receiverObject : WifiNetworkObject w) : Prop where
  sender : senderObject.isDisconnected = 0
  receiver : receiverObject.isDisconnected = 0

theorem linkAsNew_init (rawSender rawReceiver : WifiNetworkObject w)
    (sendingBuffer receivingBuffer : BitVec w) (socket socket' : ℤ) (fifo fifo' : ℤ × ℤ)
    (socketBufferSize : ℤ) (timeoutSec : UInt32) :
    LinkAsNew ((newSender rawSender sendingBuffer).connected socket fifo socketBufferSize)
      ((newReceiver rawReceiver receivingBuffer).bound socket' fifo' timeoutSec) :=
  ⟨rfl, rfl⟩

section

variable {E timeDiff} {senderObject receiverObject : WifiNetworkObject w}
  {actions : List (Action w)} {threads : Threads w}

theorem LinkAsNew.setOnDisconnect (asNew : LinkAsNew senderObject receiverObject)
    (onDisconnectCallback customData : BitVec w) :
    LinkAsNew (senderObject.setOnDisconnect onDisconnectCallback customData)
      (receiverObject.setOnDisconnect onDisconnectCallback customData) :=
  ⟨asNew.sender, asNew.receiver⟩

theorem LinkAsNew.armed (asNew : LinkAsNew senderObject receiverObject) {listened : Prop}
    (registered : listened → senderObject.onDisconnect ≠ 0 ∧ receiverObject.onDisconnect ≠ 0) :
    Armed listened (start senderObject receiverObject) :=
  ⟨.inl asNew.sender, .inl asNew.receiver, registered⟩

theorem LinkAsNew.view_start (asNew : LinkAsNew senderObject receiverObject) :
    view (start senderObject receiverObject) = .start := by
  refine view_eq ⟨rfl, ?_⟩ ⟨rfl, ?_⟩ rfl
  · rw [start, asNew.sender]
    rfl
  · rw [start, asNew.receiver]
    rfl

/-- A run of the threads is a run of the protocol. -/
theorem view_run {listened : Prop} {s t : Threads w} (armed : Armed listened s)
    {actions : List (Action w)} (run : Run (enabled (next E timeDiff)) s actions t) :
    Armed listened t ∧
      Run (Announce.Step listened) s.view (actions.map Action.party) t.view := by
  refine run.simulate (Armed listened) view Action.party ?_ armed
  intro before action after armed taken
  exact next_step armed taken

/-- **The disconnection callback is called at most once**, however the calls of the two
threads interleave. -/
theorem callback_at_most_once (asNew : LinkAsNew senderObject receiverObject)
    (run : Run (enabled (next E timeDiff)) (start senderObject receiverObject) actions threads) :
    threads.callbacks ≤ 1 := by
  have armed : Armed False (start senderObject receiverObject) := asNew.armed False.elim
  obtain ⟨-, viewed⟩ := view_run armed run
  rw [asNew.view_start] at viewed
  exact Announce.announced_le_one viewed

/-- A sender object on a 64-bit target, connected. -/
def connectedSender : WifiNetworkObject 64 :=
  (newSender (.cleared 64) fourGiB).connected 3 (4, 5) 212992

theorem linkAsNew_connectedSender : LinkAsNew connectedSender newAtFourGiB :=
  linkAsNew_init (.cleared 64) (.cleared 64) fourGiB fourGiB 3 3 (4, 5) (4, 5) 212992 1

/-- The threads of a new manager whose callback is at address 16. -/
def registeredThreads : Threads 64 :=
  start (connectedSender.setOnDisconnect 16 0) (newAtFourGiB.setOnDisconnect 16 0)

/-- The socket refuses a frame, and nobody else notices. -/
def refusedActions : List (Action 64) :=
  [.push (fun _ => 65) (.bytes 0) ⟨1, 2, 3, 8, 32⟩, .send (.failed (.other 111)),
    .senderGoesOn, .senderGoesOn, .senderGoesOn, .senderGoesOn]

theorem callback_at_most_once_refused :
    ∃ threads, refusedActions.foldlM (next .littleEndianHost exactDiff) registeredThreads =
      some threads ∧ threads.callbacks ≤ 1 := by
  have run : Run (enabled (next .littleEndianHost exactDiff)) registeredThreads refusedActions _ :=
    Run.enabled_iff.mpr rfl
  exact ⟨_, rfl, callback_at_most_once (linkAsNew_connectedSender.setOnDisconnect 16 0) run⟩

/-! ## The callback that is never called -/

/-- A thread does not set its flag while the other has set its own and not yet read this one. -/
def Apart (threads : Threads w) : Action w → Prop
  | .senderGoesOn => ¬ (threads.sender = .beforeOwnSet ∧ threads.receiver = .beforeOtherTest)
  | .receiverGoesOn => ¬ (threads.receiver = .beforeOwnSet ∧ threads.sender = .beforeOtherTest)
  | _ => True

instance (threads : Threads w) (action : Action w) : Decidable (threads.Apart action) :=
  match action with
  | .senderGoesOn => inferInstanceAs (Decidable (¬ (_ ∧ _)))
  | .receiverGoesOn => inferInstanceAs (Decidable (¬ (_ ∧ _)))
  | .push .. => isTrue trivial
  | .send _ => isTrue trivial
  | .receive _ => isTrue trivial
  | .pop => isTrue trivial

theorem point_eq_raising_iff {locals : Type} {here : CallPoint locals} :
    point here = .raising ↔ here = .beforeOwnSet := by
  cases here <;> simp [point]

theorem point_eq_testing_iff {locals : Type} {here : CallPoint locals} :
    point here = .testing ↔ here = .beforeOtherTest := by
  cases here <;> simp [point]

/-- It is the condition of the protocol. -/
theorem apart_iff {s t : Threads w} {action : Action w}
    (taken : next E timeDiff s action = some t) :
    Apart s action ↔ Announce.Apart s.view action.party := by
  have atRest {locals : Type} {here : CallPoint locals} (between : here = .betweenCalls) :
      point here ≠ .raising := by
    intro there
    subst between
    cases there
  cases action with
  | push =>
      obtain ⟨between, -⟩ := Option.ite_none_right_eq_some.mp taken
      exact iff_of_true trivial fun together => atRest between together.1
  | send =>
      obtain ⟨between, -⟩ := Option.ite_none_right_eq_some.mp taken
      exact iff_of_true trivial fun together => atRest between together.1
  | senderGoesOn =>
      exact not_congr (and_congr point_eq_raising_iff point_eq_testing_iff).symm
  | receive =>
      obtain ⟨between, -⟩ := Option.ite_none_right_eq_some.mp taken
      exact iff_of_true trivial fun together => atRest between together.1
  | pop =>
      obtain ⟨between, -⟩ := Option.ite_none_right_eq_some.mp taken
      exact iff_of_true trivial fun together => atRest between together.1
  | receiverGoesOn =>
      exact not_congr (and_congr point_eq_raising_iff point_eq_testing_iff).symm

theorem view_atRest {threads : Threads w} (between : threads.BetweenCalls) :
    threads.view.AtRest := by
  intro party
  cases party with
  | false => exact congrArg point between.1
  | true => exact congrArg point between.2

theorem Armed.disconnected_iff {listened : Prop} {threads : Threads w}
    (armed : Armed listened threads) :
    threads.Disconnected ↔ ∃ party, threads.view.raised party = true := by
  have binary {flag : UInt8} (zeroOrOne : flag = 0 ∨ flag = 1) : flag = 1 ↔ (flag != 0) = true := by
    rcases zeroOrOne with rfl | rfl <;> decide
  rw [Bool.exists_bool]
  exact or_congr (binary armed.senderFlag) (binary armed.receiverFlag)

/-- **A disconnection is notified exactly in the runs where the two threads never set their
flags together**, in every state with both threads between calls that such a run reaches. -/
theorem disconnection_notified_iff (asNew : LinkAsNew senderObject receiverObject)
    {onDisconnectCallback : BitVec w} (registered : onDisconnectCallback ≠ 0)
    (customData : BitVec w)
    (run : Run (enabled (next E timeDiff))
      (start (senderObject.setOnDisconnect onDisconnectCallback customData)
        (receiverObject.setOnDisconnect onDisconnectCallback customData)) actions threads)
    (between : threads.BetweenCalls) :
    (threads.Disconnected → 1 ≤ threads.callbacks) ↔
      Run (restrict Apart (enabled (next E timeDiff)))
        (start (senderObject.setOnDisconnect onDisconnectCallback customData)
          (receiverObject.setOnDisconnect onDisconnectCallback customData)) actions threads := by
  have callback := asNew.setOnDisconnect onDisconnectCallback customData
  have armed : Armed True (start (senderObject.setOnDisconnect onDisconnectCallback customData)
      (receiverObject.setOnDisconnect onDisconnectCallback customData)) :=
    callback.armed fun _ => ⟨registered, registered⟩
  have viewStart := callback.view_start
  have disconnected_iff := (view_run armed run).1.disconnected_iff
  constructor
  · intro notified
    rcases run.first_violation Apart with apart | ⟨before, action, after, s, s', -, first,
        together, taken, rest⟩
    · exact apart
    · obtain ⟨armed', viewed⟩ := view_run armed first.of_restrict
      rw [viewStart] at viewed
      obtain ⟨armed'', step⟩ := next_step armed' taken
      have missed := Announce.missed_of_together viewed (mt (apart_iff taken).mpr together) step
        (view_run armed'' rest).2
      have called := notified (disconnected_iff.mpr ⟨true, missed.raised true⟩)
      rw [show threads.callbacks = 0 from missed.silent] at called
      cases called
  · intro apart disconnected
    have viewed : Run (restrict Announce.Apart (Announce.Step True)) .start
        (actions.map Action.party) threads.view := by
      rw [← viewStart]
      refine (apart.simulate (Armed True) view Action.party ?_ armed).2
      rintro before action after armed ⟨apart, taken⟩
      obtain ⟨armed', step⟩ := next_step armed taken
      exact ⟨armed', (apart_iff taken).mp apart, step⟩
    exact Announce.announced_of_apart viewed (view_atRest between)
      (disconnected_iff.mp disconnected)

theorem disconnection_notified_refused :
    ∃ threads, refusedActions.foldlM (next .littleEndianHost exactDiff) registeredThreads =
      some threads ∧ (threads.Disconnected → 1 ≤ threads.callbacks) := by
  have run : Run (restrict Apart (enabled (next .littleEndianHost exactDiff))) registeredThreads
      refusedActions _ :=
    .cons ⟨trivial, rfl⟩ (.cons ⟨trivial, rfl⟩ (.cons ⟨nofun, rfl⟩ (.cons ⟨nofun, rfl⟩
      (.cons ⟨nofun, rfl⟩ (.single ⟨nofun, rfl⟩)))))
  exact ⟨_, rfl, (disconnection_notified_iff linkAsNew_connectedSender (by decide) 0
    run.of_restrict ⟨rfl, rfl⟩).mpr run⟩

/-- The link is silent for six seconds, then the socket refuses a frame while the receiver's
`select` times out. Both threads set their flags before either reads the other's. -/
def togetherActions : List (Action 64) :=
  [.receive ⟨.ready false false, [], .constant ⟨1, 0⟩⟩, .receiverGoesOn,
    .push (fun _ => 65) (.bytes 0) ⟨1, 2, 3, 8, 32⟩, .send (.failed (.other 111)),
    .receive ⟨.ready false false, [], .constant ⟨7, 0⟩⟩, .senderGoesOn, .receiverGoesOn,
    .senderGoesOn, .receiverGoesOn, .senderGoesOn, .receiverGoesOn]

theorem disconnection_lost_together :
    ¬ ∀ (actions : List (Action 64)) (threads : Threads 64),
      Run (enabled (next .littleEndianHost exactDiff)) registeredThreads actions threads →
      threads.BetweenCalls → threads.Disconnected → 1 ≤ threads.callbacks := by
  intro claimed
  have run : Run (enabled (next .littleEndianHost exactDiff)) registeredThreads togetherActions _ :=
    Run.enabled_iff.mpr rfl
  have notified := claimed togetherActions _ run ⟨rfl, rfl⟩ (.inl rfl)
  exact absurd notified (by decide)

end

end Threads

end WifiNetwork

end ARNetworkAL
