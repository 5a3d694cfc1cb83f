import ARNetworkAL.Library.Run
import ARNetworkAL.Wifi.Receiver

/-!
# The date of the last reception

`Receive` keeps a date, `lastDataReceivedDate`, and takes the link for lost when it
is more than five seconds old. It is meant to be the date of the last reception, and
is not always: a read is only dated when the date before it is recent, bytes that are
flushed are not dated, and a read that fails is dated as one that succeeds. The age is
held in an `int32_t`, which wraps around after 24 days.

A `Reception` is a receiver with the history of its calls. `outcome_cases` is what one
call does, `receive_date` what it does to the date, and the two results of this module
are what follows for fresh data (`stored_not_flushed_iff`) and for the verdict on the
link (`disconnected_iff_of_run`).
-/

set_option autoImplicit false

namespace ARNetworkAL

open Library

namespace WifiNetwork

variable {w : ℕ}

/-! ## One call of Receive -/

/-- `select` found the socket readable. -/
def SelectAnswer.socketReady : SelectAnswer → Bool
  | failed => false
  | ready socket _ => socket

/-- An answer of `recv` with bytes. -/
def SocketRecv.hasBytes : SocketRecv → Bool
  | data [] => false
  | data (_ :: _) => true
  | failed _ => false

/-- The first answer of `recv` in a call has bytes. -/
def ReceiveCall.hasData (call : ReceiveCall) : Bool :=
  (call.recvs.headD (.failed .eagain)).hasBytes

/-- A call of `Receive` during which the clock stands still, and the state of the sender. -/
structure TimedCall (w : ℕ) where
  date : Timespec
  select : SelectAnswer
  recvs : List SocketRecv
  senderObject : Option (WifiNetworkObject w)

/-- What the operating system answers to it. -/
def TimedCall.answers (call : TimedCall w) : ReceiveCall :=
  ⟨call.select, call.recvs, .constant call.date⟩

/-- What it returns and does. -/
def TimedCall.outcome (timeDiff : TimeDiff) (object : WifiNetworkObject w) (call : TimedCall w) :
    ReceiveOutcome w :=
  receive timeDiff call.answers object call.senderObject

/-- The date that the call compares with: the one kept, or its own if there is none. -/
def TimedCall.reference (object : WifiNetworkObject w) (call : TimedCall w) : Timespec :=
  (startReception call.date object).lastDataReceivedDate

/-- The test of the code takes that date for more than five seconds old. -/
def TimedCall.Stale (timeDiff : TimeDiff) (object : WifiNetworkObject w) (call : TimedCall w) :
    Prop :=
  IsTooLongWithoutReceive timeDiff (startReception call.date object) call.date

instance (timeDiff : TimeDiff) (object : WifiNetworkObject w) (call : TimedCall w) :
    Decidable (call.Stale timeDiff object) :=
  inferInstanceAs (Decidable (IsTooLongWithoutReceive _ _ _))

theorem startReception_recvIsFlushed (first : Timespec) (object : WifiNetworkObject w) :
    (startReception first object).recvIsFlushed = object.recvIsFlushed := by
  obtain ⟨_, same⟩ := startReception_object first object
  rw [same]

theorem startReception_isDisconnected (first : Timespec) (object : WifiNetworkObject w) :
    (startReception first object).isDisconnected = object.isDisconnected := by
  obtain ⟨_, same⟩ := startReception_object first object
  rw [same]

theorem readSocket_lastDataReceivedDate (object : WifiNetworkObject w) (answer : SocketRecv) :
    (readSocket object answer).2.1.lastDataReceivedDate = object.lastDataReceivedDate := by
  obtain ⟨_, _, _, _, read⟩ := readSocket_object object answer
  rw [read]

theorem checkDisconnection_lastDataReceivedDate (timeDiff : TimeDiff) (lostCheck : Timespec)
    (fifoReady : Bool) (object : WifiNetworkObject w)
    (senderObject : Option (WifiNetworkObject w)) :
    (checkDisconnection timeDiff lostCheck fifoReady object senderObject).1.lastDataReceivedDate =
      object.lastDataReceivedDate := by
  obtain ⟨_, checked⟩ := checkDisconnection_object timeDiff lostCheck fifoReady object senderObject
  rw [checked]

/-- A date that is the time of the call is recent. -/
theorem TimedCall.not_stale_of_eq {timeDiff : TimeDiff} (exact : timeDiff.Exact)
    {object : WifiNetworkObject w} {call : TimedCall w}
    (same : (call.reference object).ms = call.date.ms) : ¬ call.Stale timeDiff object := by
  have zero : call.date.ms - (startReception call.date object).lastDataReceivedDate.ms = 0 :=
    Int.sub_eq_zero.mpr same.symm
  rw [TimedCall.Stale, isTooLong_iff exact (by rw [zero]; decide), zero]
  decide

theorem readSocket_pos_iff (object : WifiNetworkObject w) (answer : SocketRecv) :
    0 < (readSocket object answer).2.2 ↔ answer.hasBytes = true := by
  match answer with
  | .data [] => simp [readSocket, SocketRecv.hasBytes]
  | .data (_ :: _) => simp [readSocket, received, SocketRecv.hasBytes]
  | .failed _ => simp [readSocket, SocketRecv.hasBytes]

theorem readSocket_unflushed (object : WifiNetworkObject w) {answer : SocketRecv}
    (data : answer.hasBytes = true) : (readSocket object answer).2.1.recvIsFlushed = 0 := by
  match answer with
  | .data [] => cases data
  | .data (_ :: _) => rfl
  | .failed _ => cases data

theorem saveReceptionDate_recvIsFlushed (timeDiff : TimeDiff) (clock : ReceiveClock)
    (object : WifiNetworkObject w) :
    (saveReceptionDate timeDiff clock object).recvIsFlushed = object.recvIsFlushed := by
  obtain ⟨_, same⟩ := saveReceptionDate_object timeDiff clock object
  rw [same]

theorem flushReceiveSocket_pos_iff {object : WifiNetworkObject w}
    (unflushed : object.recvIsFlushed = 0) (answers : List SocketRecv) :
    0 < (flushReceiveSocket object answers).2 ↔
      (answers.headD (.failed .eagain)).hasBytes = true := by
  match answers with
  | [] => simp [flushReceiveSocket, unflushed, SocketRecv.hasBytes]
  | .data [] :: _ => simp [flushReceiveSocket, unflushed, SocketRecv.hasBytes]
  | .data (byte :: bytes) :: _ =>
      have some : 0 < (received (byte :: bytes)).length := by simp [received]
      simp [flushReceiveSocket, unflushed, SocketRecv.hasBytes, some]
  | .failed .eagain :: _ => simp [flushReceiveSocket, unflushed, SocketRecv.hasBytes]
  | .failed .enxio :: _ => simp [flushReceiveSocket, unflushed, SocketRecv.hasBytes]
  | .failed .eacces :: _ => simp [flushReceiveSocket, unflushed, SocketRecv.hasBytes]
  | .failed (.other _) :: _ => simp [flushReceiveSocket, unflushed, SocketRecv.hasBytes]

section

variable (timeDiff : TimeDiff) (object : WifiNetworkObject w) (call : TimedCall w)

/-- **What a call does to the detection of a disconnection, by the way it takes**: the
socket is not readable, or it is flushed, or it is read. -/
theorem outcome_cases :
    let outcome := call.outcome timeDiff object
    let date := outcome.receiverObject.lastDataReceivedDate
    (call.select.socketReady = false ∧ outcome.path ≠ .flushed ∧ outcome.path ≠ .read ∧
      outcome.bytesRead = 0 ∧ date = call.reference object) ∨
    (call.select.socketReady = true ∧ (object.recvIsFlushed = 0 ∧ call.Stale timeDiff object) ∧
      outcome.path = .flushed ∧ (0 < outcome.bytesRead ↔ call.answers.hasData = true) ∧
      date = call.reference object) ∨
    (call.select.socketReady = true ∧ ¬ (object.recvIsFlushed = 0 ∧ call.Stale timeDiff object) ∧
      outcome.path = .read ∧ (0 < outcome.bytesRead ↔ call.answers.hasData = true) ∧
      (call.answers.hasData = true → outcome.receiverObject.recvIsFlushed = 0) ∧
      date = if call.Stale timeDiff object then call.reference object else call.date) := by
  have flag := startReception_recvIsFlushed call.date object
  have whole : call.outcome timeDiff object =
      let ready := receiveReady timeDiff call.answers (startReception call.date object)
        call.senderObject
      { ready with
        receiverObject :=
          { ready.receiverObject with currentFrame := ready.receiverObject.buffer } } := rfl
  rcases receiveReady_cases timeDiff call.answers (startReception call.date object)
      call.senderObject with
    ⟨select, outcome⟩ | ⟨_, select, outcome⟩ | ⟨_, select, stale, outcome⟩ |
      ⟨_, select, fresh, outcome⟩
  · have unready : call.select.socketReady = false := congrArg SelectAnswer.socketReady select
    rw [whole, outcome]
    exact .inl ⟨unready, nofun, nofun, rfl, rfl⟩
  · have unready : call.select.socketReady = false := congrArg SelectAnswer.socketReady select
    rw [whole, outcome]
    exact .inl ⟨unready, nofun, nofun, rfl,
      checkDisconnection_lastDataReceivedDate timeDiff _ _ _ _⟩
  · have ready : call.select.socketReady = true := congrArg SelectAnswer.socketReady select
    have dropped := flushReceiveSocket_pos_iff stale.1 call.recvs
    obtain ⟨_, _, flushed⟩ :=
      flushReceiveSocket_object (startReception call.date object) call.answers.recvs
    have date := congrArg WifiNetworkObject.lastDataReceivedDate flushed
    rw [whole, outcome]
    exact .inr (.inl ⟨ready, ⟨flag ▸ stale.1, stale.2⟩, rfl, dropped, date⟩)
  · have ready : call.select.socketReady = true := congrArg SelectAnswer.socketReady select
    have dated := readSocket_lastDataReceivedDate (startReception call.date object)
      (call.recvs.headD (.failed .eagain))
    have tooLong := isTooLong_congr timeDiff dated call.date
    rw [whole, outcome]
    refine .inr (.inr ⟨ready, ?_, rfl, readSocket_pos_iff _ _, ?_, ?_⟩)
    · rintro ⟨unflushed, stale⟩
      exact fresh ⟨flag.trans unflushed, stale⟩
    · intro data
      exact (saveReceptionDate_recvIsFlushed timeDiff _ _).trans (readSocket_unflushed _ data)
    · by_cases stale : call.Stale timeDiff object
      · rw [if_pos stale]
        exact (congrArg _ (if_pos (tooLong.mpr stale))).trans dated
      · rw [if_neg stale]
        exact congrArg WifiNetworkObject.lastDataReceivedDate
          (if_neg fun old => stale (tooLong.mp old))

/-- **The date after a call**: that of the call if the socket was readable and the
date before was recent, and that date otherwise. -/
theorem receive_date :
    (call.outcome timeDiff object).receiverObject.lastDataReceivedDate =
      if call.select.socketReady = true ∧ ¬ call.Stale timeDiff object then call.date
      else call.reference object := by
  rcases outcome_cases timeDiff object call with
    ⟨unready, _, _, _, date⟩ | ⟨_, stale, _, _, date⟩ | ⟨ready, _, _, _, _, date⟩
  · rw [date, if_neg (by simp [unready])]
  · rw [date, if_neg fun recent => recent.2 stale.2]
  · rw [date]
    by_cases stale : call.Stale timeDiff object
    · rw [if_pos stale, if_neg fun recent => recent.2 stale]
    · rw [if_neg stale, if_pos ⟨ready, stale⟩]

/-- The flush path is taken when the socket is readable, the date is old and the socket
was not flushed since the last reception. -/
theorem receive_flushed_iff :
    (call.outcome timeDiff object).path = .flushed ↔
      call.select.socketReady = true ∧ object.recvIsFlushed = 0 ∧ call.Stale timeDiff object := by
  rcases outcome_cases timeDiff object call with
    ⟨unready, path, _⟩ | ⟨ready, stale, path, _⟩ | ⟨_, fresh, path, _⟩
  · exact iff_of_false path (by simp [unready])
  · exact iff_of_true path ⟨ready, stale⟩
  · exact iff_of_false (by simp [path]) fun flushes => fresh flushes.2

/-- Bytes are read when the socket is readable and its first answer has some. -/
theorem receive_pos_iff :
    0 < (call.outcome timeDiff object).bytesRead ↔
      call.select.socketReady = true ∧ call.answers.hasData = true := by
  rcases outcome_cases timeDiff object call with
    ⟨unready, _, _, none, _⟩ | ⟨ready, _, _, bytes, _⟩ | ⟨ready, _, _, bytes, _⟩
  · exact iff_of_false (by simp [none]) (by simp [unready])
  · rw [bytes, and_iff_right ready]
  · rw [bytes, and_iff_right ready]

/-- A datagram that is stored ends a flush. -/
theorem receive_unflushed (read : (call.outcome timeDiff object).path = .read)
    (data : call.answers.hasData = true) :
    call.select.socketReady = true ∧
      (call.outcome timeDiff object).receiverObject.recvIsFlushed = 0 := by
  rcases outcome_cases timeDiff object call with
    ⟨_, _, path, _⟩ | ⟨_, _, path, _⟩ | ⟨ready, _, _, _, unflushed, _⟩
  · exact absurd read path
  · rw [path] at read
    cases read
  · exact ⟨ready, unflushed data⟩

/-- Where nothing can be read, the link is taken for lost when the date is old. -/
theorem receive_isDisconnected_iff (quiet : call.select = .ready false false)
    (connected : object.isDisconnected = 0) :
    (call.outcome timeDiff object).receiverObject.isDisconnected = 1 ↔ call.Stale timeDiff object := by
  have flag := (startReception_isDisconnected call.date object).trans connected
  have apart : (startReception call.date object).isDisconnected ≠ 1 := by
    rw [flag]
    decide
  have started : IsTooLongWithoutReceive timeDiff
      { startReception call.date object with size := 0 } call.date ↔ call.Stale timeDiff object :=
    isTooLong_congr timeDiff rfl call.date
  rw [TimedCall.outcome, receive, receiveReady_notReady timeDiff _ call.senderObject quiet]
  by_cases stale : call.Stale timeDiff object
  · rw [checkDisconnection, if_pos ⟨apart, rfl, started.mpr stale⟩]
    exact iff_of_true rfl stale
  · rw [checkDisconnection, if_neg fun lost => stale (started.mp lost.2.2)]
    exact iff_of_false apart stale

end

/-! ## Runs of Receive -/

/-- A receiver object, and the date and the number of bytes read of each call so far,
the last one first. -/
structure Reception (w : ℕ) where
  receiverObject : WifiNetworkObject w
  history : List (ℤ × ℕ)

/-- What `New` leaves of the state of the disconnection detection. -/
structure ReceiverAsNew (object : WifiNetworkObject w) : Prop where
  never : object.lastDataReceivedDate.IsZero
  connected : object.isDisconnected = 0
  unflushed : object.recvIsFlushed = 0

theorem receiverAsNew_bound (raw : WifiNetworkObject w) (buffer : BitVec w) (socket : ℤ)
    (fifo : ℤ × ℤ) (timeoutSec : UInt32) :
    ReceiverAsNew ((newReceiver raw buffer).bound socket fifo timeoutSec) :=
  ⟨⟨rfl, rfl⟩, rfl, rfl⟩

namespace Reception

/-- Before any call. -/
def fresh (receiverObject : WifiNetworkObject w) : Reception w := ⟨receiverObject, []⟩

/-- After a call. -/
def next (timeDiff : TimeDiff) (reception : Reception w) (call : TimedCall w) : Reception w :=
  let outcome := call.outcome timeDiff reception.receiverObject
  ⟨outcome.receiverObject, (call.date.ms, outcome.bytesRead) :: reception.history⟩

/-- The clock does not show zero, and does not go back. -/
def Clocked (reception : Reception w) (call : TimedCall w) : Prop :=
  ¬ call.date.IsZero ∧ ∀ earlier ∈ reception.history, earlier.1 ≤ call.date.ms

instance (reception : Reception w) (call : TimedCall w) : Decidable (reception.Clocked call) :=
  inferInstanceAs (Decidable (_ ∧ _))

/-- The receiver has a date once it was called. -/
def Started (reception : Reception w) : Prop :=
  reception.receiverObject.lastDataReceivedDate.IsZero ↔ reception.history = []

theorem reference_of_never {object : WifiNetworkObject w} {call : TimedCall w}
    (never : object.lastDataReceivedDate.IsZero) : call.reference object = call.date :=
  congrArg WifiNetworkObject.lastDataReceivedDate (if_pos never)

theorem reference_of_dated {object : WifiNetworkObject w} {call : TimedCall w}
    (dated : ¬ object.lastDataReceivedDate.IsZero) :
    call.reference object = object.lastDataReceivedDate :=
  congrArg WifiNetworkObject.lastDataReceivedDate (if_neg dated)

variable {timeDiff : TimeDiff} {reception : Reception w} {call : TimedCall w}

theorem Started.next (clock : reception.Clocked call) :
    (reception.next timeDiff call).Started := by
  refine iff_of_false ?_ (List.cons_ne_nil _ _)
  have date := receive_date timeDiff reception.receiverObject call
  have reference : ¬ (call.reference reception.receiverObject).IsZero := by
    by_cases never : reception.receiverObject.lastDataReceivedDate.IsZero
    · rw [reference_of_never never]
      exact clock.1
    · rw [reference_of_dated never]
      exact never
  simp only [Reception.next, date]
  split
  · exact clock.1
  · exact reference

/-- The date kept is that of one of the calls. -/
def Kept (reception : Reception w) : Prop :=
  reception.history ≠ [] →
    ∃ earlier ∈ reception.history, reception.receiverObject.lastDataReceivedDate.ms = earlier.1

theorem Kept.next (started : reception.Started) (kept : reception.Kept) :
    (reception.next timeDiff call).Kept := by
  intro _
  have date := receive_date timeDiff reception.receiverObject call
  simp only [Reception.next, date]
  by_cases dates : call.select.socketReady = true ∧ ¬ call.Stale timeDiff reception.receiverObject
  · rw [if_pos dates]
    exact ⟨_, List.mem_cons_self, rfl⟩
  · rw [if_neg dates]
    by_cases first : reception.history = []
    · rw [reference_of_never (started.mpr first)]
      exact ⟨_, List.mem_cons_self, rfl⟩
    · rw [reference_of_dated (started.not.mpr first)]
      obtain ⟨earlier, member, same⟩ := kept first
      exact ⟨earlier, List.mem_cons_of_mem _ member, same⟩

/-- The date that a call compares with is not later than the call. -/
theorem Kept.reference_le (started : reception.Started) (kept : reception.Kept)
    (clock : reception.Clocked call) :
    (call.reference reception.receiverObject).ms ≤ call.date.ms := by
  by_cases first : reception.history = []
  · rw [reference_of_never (started.mpr first)]
  · rw [reference_of_dated (started.not.mpr first)]
    obtain ⟨earlier, member, same⟩ := kept first
    rw [same]
    exact clock.2 earlier member

/-- The states that runs of a new receiver reach. -/
theorem kept_of_run {start : WifiNetworkObject w} (asNew : ReceiverAsNew start)
    {calls : List (TimedCall w)}
    (run : Run (restrict Clocked (follows (Reception.next timeDiff))) (fresh start) calls
      reception) : reception.Started ∧ reception.Kept := by
  refine Run.invariant (fun reception => reception.Started ∧ reception.Kept) ?_ run
    ⟨iff_of_true asNew.never rfl, fun some => absurd rfl some⟩
  rintro before call after ⟨started, kept⟩ ⟨clock, rfl⟩
  exact ⟨Started.next clock, kept.next started⟩

/-! ## Fresh data -/

/-- The date that the storing call finds is recent by the test of the code, at the time of that
call or at the time of the next one. -/
def Recent (timeDiff : TimeDiff) (reception : Reception w) (storing following : TimedCall w) :
    Prop :=
  ¬ storing.Stale timeDiff reception.receiverObject ∨
    ¬ IsTooLongWithoutReceive timeDiff (startReception storing.date reception.receiverObject)
      following.date

instance (timeDiff : TimeDiff) (reception : Reception w) (storing following : TimedCall w) :
    Decidable (reception.Recent timeDiff storing following) :=
  inferInstanceAs (Decidable (¬ _ ∨ ¬ _))

/-- Where the differences fit, the time of the storing call decides. -/
theorem recent_iff (exact : timeDiff.Exact) {storing following : TimedCall w}
    (kept : (storing.reference reception.receiverObject).ms ≤ storing.date.ms)
    (later : storing.date.ms ≤ following.date.ms)
    (fits : following.date.ms - (storing.reference reception.receiverObject).ms < 2 ^ 31) :
    reception.Recent timeDiff storing following ↔
      storing.date.ms - (storing.reference reception.receiverObject).ms ≤
        disconnectTimeoutMs := by
  have first : FitsInt32 (storing.date.ms - (storing.reference reception.receiverObject).ms) :=
    ⟨by omega, by omega⟩
  have second : FitsInt32
      (following.date.ms - (storing.reference reception.receiverObject).ms) :=
    ⟨by omega, fits⟩
  rw [Recent, TimedCall.Stale, isTooLong_iff exact first, isTooLong_iff exact second]
  rw [TimedCall.reference] at *
  omega

end Reception

/-- **In every run of a new receiver, data that a call stores are not flushed by the next
call, at most five seconds later, exactly when the storing call found a recent date.** Where
the difference fits its variable, that is a date at most five seconds old. -/
theorem stored_not_flushed_iff {timeDiff : TimeDiff} (exact : timeDiff.Exact)
    {start : WifiNetworkObject w} (asNew : ReceiverAsNew start) {calls : List (TimedCall w)}
    {reception : Reception w}
    (run : Run (restrict Reception.Clocked (follows (Reception.next timeDiff))) (.fresh start)
      calls reception)
    {storing following : TimedCall w} (clock : reception.Clocked storing)
    (clock' : (reception.next timeDiff storing).Clocked following)
    (read : (storing.outcome timeDiff reception.receiverObject).path = .read)
    (data : storing.answers.hasData = true)
    (soon : following.date.ms ≤ storing.date.ms + disconnectTimeoutMs)
    (readable : following.select.socketReady = true) :
    ((following.outcome timeDiff (reception.next timeDiff storing).receiverObject).path ≠
        .flushed ↔ reception.Recent timeDiff storing following) ∧
      (following.date.ms - (storing.reference reception.receiverObject).ms < 2 ^ 31 →
        (reception.Recent timeDiff storing following ↔
          storing.date.ms - (storing.reference reception.receiverObject).ms ≤
            disconnectTimeoutMs)) := by
  obtain ⟨started, kept⟩ := Reception.kept_of_run asNew run
  have started' : (reception.next timeDiff storing).Started := .next clock
  have later : storing.date.ms ≤ following.date.ms := clock'.2 _ List.mem_cons_self
  refine ⟨?_, fun fits => Reception.recent_iff exact (kept.reference_le started clock) later fits⟩
  obtain ⟨ready, unflushed⟩ :=
    receive_unflushed timeDiff reception.receiverObject storing read data
  have reference : following.reference (reception.next timeDiff storing).receiverObject =
      if storing.Stale timeDiff reception.receiverObject then
        storing.reference reception.receiverObject
      else storing.date := by
    rw [Reception.reference_of_dated (started'.not.mpr (List.cons_ne_nil _ _))]
    simp only [Reception.next, receive_date, ready, true_and, ite_not]
  have stale : following.Stale timeDiff (reception.next timeDiff storing).receiverObject ↔
      ¬ reception.Recent timeDiff storing following := by
    rw [Reception.Recent, not_or, not_not, not_not]
    by_cases old : storing.Stale timeDiff reception.receiverObject
    · rw [if_pos old] at reference
      rw [and_iff_right old]
      exact isTooLong_congr timeDiff reference following.date
    · rw [if_neg old] at reference
      refine iff_of_false ?_ fun both => old both.1
      have fits : FitsInt32 (following.date.ms -
          (following.reference (reception.next timeDiff storing).receiverObject).ms) := by
        rw [reference]
        rw [disconnectTimeoutMs_eq] at soon
        exact ⟨by omega, by omega⟩
      rw [TimedCall.Stale, isTooLong_iff exact fits, Int.not_lt]
      rw [← TimedCall.reference, reference]
      omega
  rw [ne_eq, receive_flushed_iff, stale, not_and, not_and, not_not]
  constructor
  · intro recent
    exact recent readable unflushed
  · intro recent _ _
    exact recent

/-- A call of a receiver without a sender, at a number of seconds. -/
def timedCall (tvSec : ℤ) (select : SelectAnswer) (recvs : List SocketRecv) : TimedCall 64 :=
  ⟨⟨tvSec, 0⟩, select, recvs, none⟩

/-- Three datagrams, two seconds apart. -/
theorem stored_not_flushed_two :
    ((timedCall 5 (.ready true false) [.data [3]]).outcome exactDiff
      (((Reception.fresh newAtFourGiB).next exactDiff
        (timedCall 1 (.ready true false) [.data [1]])).next exactDiff
          (timedCall 3 (.ready true false) [.data [2]])).receiverObject).path ≠ .flushed :=
  (stored_not_flushed_iff exactDiff_exact
    (receiverAsNew_bound (.cleared 64) fourGiB 3 (4, 5) 1)
    (.single ⟨by decide, rfl⟩) (by decide) (by decide) (by decide) rfl (by decide) rfl).1.mpr
      (by decide)

/-- After a silence of six seconds and a flush, a datagram is stored at the eighth second
and the next call, a second later, flushes. -/
theorem stored_then_flushed :
    ¬ ∀ (calls : List (TimedCall 64)) (reception : Reception 64),
      Run (restrict Reception.Clocked (follows (Reception.next exactDiff))) (.fresh newAtFourGiB)
        calls reception →
      ∀ storing following : TimedCall 64, reception.Clocked storing →
        (reception.next exactDiff storing).Clocked following →
        (storing.outcome exactDiff reception.receiverObject).path = .read →
        storing.answers.hasData = true →
        following.date.ms ≤ storing.date.ms + disconnectTimeoutMs →
        following.select.socketReady = true →
        (following.outcome exactDiff
          (reception.next exactDiff storing).receiverObject).path ≠ .flushed := by
  intro claimed
  refine claimed
    [timedCall 1 (.ready false false) [], timedCall 7 (.ready true false) [.data [1]]] _
    (.cons ⟨by decide, rfl⟩ (.single ⟨by decide, rfl⟩))
    (timedCall 8 (.ready true false) [.data [2]]) (timedCall 9 (.ready true false) [.data [3]])
    (by decide) (by decide) (by decide) rfl (by decide) rfl (by decide)

/-! ## The verdict on the link -/

/-- The time of the last call that read bytes, or of the first call if none did, or `now` if
there was no call. -/
def lastReception (now : ℤ) : List (ℤ × ℕ) → ℤ
  | [] => now
  | (time, bytes) :: earlier =>
      if 0 < bytes ∨ earlier = [] then time else lastReception now earlier

theorem lastReception_congr {history : List (ℤ × ℕ)} (some : history ≠ []) (now now' : ℤ) :
    lastReception now history = lastReception now' history := by
  induction history with
  | nil => exact absurd rfl some
  | cons latest earlier ih =>
      rw [lastReception, lastReception]
      split
      · rfl
      · rename_i neither
        apply ih
        intro first
        exact neither (.inr first)

namespace Reception

/-- The date kept is that of the last reception. -/
def Dated (reception : Reception w) : Prop :=
  ∀ now, reception.history ≠ [] →
    reception.receiverObject.lastDataReceivedDate.ms = lastReception now reception.history

/-- Where the socket is readable, there are bytes and the date is recent by the test of the
code, or there are none and the date is old or that of the call. -/
def KeepsDate (timeDiff : TimeDiff) (reception : Reception w) (call : TimedCall w) : Prop :=
  call.select.socketReady = true →
    if call.answers.hasData = true then ¬ call.Stale timeDiff reception.receiverObject
    else call.Stale timeDiff reception.receiverObject ∨
      call.date.ms = (call.reference reception.receiverObject).ms

instance (timeDiff : TimeDiff) (reception : Reception w) (call : TimedCall w) :
    Decidable (reception.KeepsDate timeDiff call) :=
  inferInstanceAs (Decidable (_ → _))

variable {timeDiff : TimeDiff} {reception : Reception w} {call : TimedCall w}

/-- The date that a call compares with is that of the last reception. -/
theorem Dated.reference (dated : reception.Dated) (started : reception.Started) :
    (call.reference reception.receiverObject).ms =
      lastReception call.date.ms reception.history := by
  by_cases first : reception.history = []
  · rw [reference_of_never (started.mpr first), first, lastReception]
  · rw [reference_of_dated (started.not.mpr first)]
    exact dated _ first

/-- **A call keeps the date of the last reception in these cases, and only in these.** -/
theorem Dated.next_iff (exact : timeDiff.Exact) (dated : reception.Dated)
    (started : reception.Started) :
    (reception.next timeDiff call).Dated ↔ reception.KeepsDate timeDiff call := by
  have date := receive_date timeDiff reception.receiverObject call
  have bytes := receive_pos_iff timeDiff reception.receiverObject call
  have reference : (call.reference reception.receiverObject).ms =
      lastReception call.date.ms reception.history := dated.reference started
  have time (now : ℤ) : lastReception now (reception.next timeDiff call).history =
      if call.select.socketReady = true ∧ call.answers.hasData = true then call.date.ms
      else (call.reference reception.receiverObject).ms := by
    simp only [Reception.next, lastReception, bytes]
    by_cases data : call.select.socketReady = true ∧ call.answers.hasData = true
    · rw [if_pos (.inl data), if_pos data]
    · rw [if_neg data, reference]
      by_cases first : reception.history = []
      · rw [if_pos (.inr first), first, lastReception]
      · rw [if_neg fun either => either.elim data first, lastReception_congr first]
  have kept : (reception.next timeDiff call).Dated ↔
      (call.outcome timeDiff reception.receiverObject).receiverObject.lastDataReceivedDate.ms =
        if call.select.socketReady = true ∧ call.answers.hasData = true then call.date.ms
        else (call.reference reception.receiverObject).ms := by
    simp only [Dated, time]
    constructor
    · intro same
      exact same 0 (List.cons_ne_nil _ _)
    · intro same _ _
      exact same
  rw [kept, date, KeepsDate]
  by_cases ready : call.select.socketReady = true
  · by_cases stale : call.Stale timeDiff reception.receiverObject
    · have apart : (call.reference reception.receiverObject).ms ≠ call.date.ms := by
        intro same
        exact TimedCall.not_stale_of_eq exact same stale
      by_cases data : call.answers.hasData = true
      · simp [ready, stale, data, apart]
      · simp [ready, stale, data]
    · by_cases data : call.answers.hasData = true
      · simp [ready, stale, data]
      · simp [ready, stale, data]
  · simp [ready]

end Reception

/-- **In every run of a new receiver whose calls all keep the date of the last reception,
a call that finds nothing to read takes the link for lost exactly when the last reception
is more than five seconds old**, as long as the difference fits its variable. -/
theorem disconnected_iff_of_run {timeDiff : TimeDiff} (exact : timeDiff.Exact)
    {start : WifiNetworkObject w} (asNew : ReceiverAsNew start) {calls : List (TimedCall w)}
    {reception : Reception w}
    (run : Run (restrict
      (fun reception call => reception.Clocked call ∧ reception.KeepsDate timeDiff call)
      (follows (Reception.next timeDiff))) (.fresh start) calls reception)
    {call : TimedCall w} (clock : reception.Clocked call)
    (quiet : call.select = .ready false false)
    (connected : reception.receiverObject.isDisconnected = 0)
    (fits : call.date.ms - lastReception call.date.ms reception.history < 2 ^ 31) :
    (call.outcome timeDiff reception.receiverObject).receiverObject.isDisconnected = 1 ↔
      disconnectTimeoutMs < call.date.ms - lastReception call.date.ms reception.history := by
  obtain ⟨started, kept, dated⟩ : reception.Started ∧ reception.Kept ∧ reception.Dated := by
    refine Run.invariant
      (fun reception => reception.Started ∧ reception.Kept ∧ reception.Dated) ?_ run
      ⟨iff_of_true asNew.never rfl, fun some => absurd rfl some, fun _ some => absurd rfl some⟩
    rintro before call after ⟨started, kept, dated⟩ ⟨⟨clock, keeps⟩, rfl⟩
    exact ⟨.next clock, kept.next started, (dated.next_iff exact started).mpr keeps⟩
  have earlier := kept.reference_le started clock
  rw [← dated.reference started] at fits ⊢
  rw [receive_isDisconnected_iff timeDiff _ call quiet connected]
  exact isTooLong_iff exact ⟨by rw [← TimedCall.reference]; omega, fits⟩

/-- Eight seconds of silence after a datagram. -/
theorem disconnected_eight :
    ((timedCall 9 (.ready false false) []).outcome exactDiff
      ((Reception.fresh newAtFourGiB).next exactDiff
        (timedCall 1 (.ready true false) [.data [1]])).receiverObject).receiverObject.isDisconnected
      = 1 :=
  (disconnected_iff_of_run exactDiff_exact
    (receiverAsNew_bound (.cleared 64) fourGiB 3 (4, 5) 1)
    (.single ⟨⟨by decide, by decide⟩, rfl⟩) (by decide) rfl rfl (by decide)).mpr (by decide)

/-- After a datagram, a read that fails four seconds later hides eight seconds of silence. -/
theorem not_disconnected_eight :
    ¬ ∀ (calls : List (TimedCall 64)) (reception : Reception 64),
      Run (restrict Reception.Clocked (follows (Reception.next exactDiff))) (.fresh newAtFourGiB)
        calls reception →
      ∀ call : TimedCall 64, reception.Clocked call → call.select = .ready false false →
        reception.receiverObject.isDisconnected = 0 →
        ((call.outcome exactDiff reception.receiverObject).receiverObject.isDisconnected = 1 ↔
          disconnectTimeoutMs <
            call.date.ms - lastReception call.date.ms reception.history) := by
  intro claimed
  have verdict := claimed
    [timedCall 1 (.ready true false) [.data [1]],
      timedCall 5 (.ready true false) [.failed (.other 111)]] _
    (.cons ⟨by decide, rfl⟩ (.single ⟨by decide, rfl⟩))
    (timedCall 9 (.ready false false) []) (by decide) rfl (by decide)
  exact absurd (verdict.mpr (by decide)) (by decide)

end WifiNetwork

end ARNetworkAL
