import ARNetworkAL.Library.Pipe
import ARNetworkAL.Library.Run
import ARNetworkAL.Wifi.ReceptionDate

/-!
# Waking a receiver

`Signal` writes a byte to the pipe of the sender and then one to the pipe of the receiver.
`Receive` waits for the second, and reads at most ten bytes from it. Nothing ever reads the
first: it takes as many calls as bytes fit in it, and the call after those waits for good
(`signals_limited`), without having woken anybody.

As many bytes as were written to the pipe of the receiver wake as many calls of `Receive` at
most, and a tenth of them at least (`signals_wake`). A call that a byte woke does not test
whether the link was lost.
-/

set_option autoImplicit false

namespace ARNetworkAL

open Library

namespace WifiNetwork

variable {w capacity : ℕ}

/-! ## Signal -/

/-- The byte that `Signal` writes. -/
def signalByte : UInt8 := 120

/-- The number of bytes that `Receive` reads from its pipe. -/
def dumpSize : ℕ := 10

/-- What `write` does when it does not wait. -/
inductive PipeWrite where
  | written
  | failed
  deriving DecidableEq, Repr

/-- One of the two blocks of `ARNETWORKAL_WifiNetwork_Signal`. There is no pipe if there is no
object or its `fifo[1]` is -1. An error is printed and nothing more. The result is none while
`write` waits. -/
def signalPipe (answer : PipeWrite) :
    Option (Pipe UInt8 capacity) → Option (Option (Pipe UInt8 capacity))
  | none => some none
  | some fifo =>
      match answer with
      | .written => (fifo.write signalByte).map some
      | .failed => some (some fifo)

/-- A receiver, the pipes of both objects, and where the calls of `Signal` are: before the first
block, between the two, or returned. `senderFailed` and `receiverFailed` count the writes that
failed, `woken` the calls of `Receive` that found a byte. -/
structure WakeUp (w capacity : ℕ) where
  receiverObject : WifiNetworkObject w
  senderFifo : Option (Pipe UInt8 capacity)
  receiverFifo : Option (Pipe UInt8 capacity)
  atSender : ℕ
  atReceiver : ℕ
  returned : ℕ
  senderFailed : ℕ
  receiverFailed : ℕ
  woken : ℕ

/-- A call of `Signal` begins, or goes through one of its blocks; or a call of `Receive`. -/
inductive WakeUpAction (w : ℕ) where
  | signal
  | signalSender (answer : PipeWrite)
  | signalReceiver (answer : PipeWrite)
  | receive (call : ReceiveCall) (senderObject : Option (WifiNetworkObject w))

/-- What `select` says of the pipe is so. -/
def SelectAnswer.Agrees (fifo : Option (Pipe UInt8 capacity)) : SelectAnswer → Prop
  | failed => True
  | ready _ fifoReady => fifoReady = fifo.any Pipe.readable

instance (fifo : Option (Pipe UInt8 capacity)) (answer : SelectAnswer) :
    Decidable (answer.Agrees fifo) :=
  match answer with
  | .failed => .isTrue trivial
  | .ready _ _ => inferInstanceAs (Decidable (_ = _))

namespace WakeUp

/-- Both objects were just connected, or not (`none`). -/
def fresh (receiverObject : WifiNetworkObject w)
    (senderFifo receiverFifo : Option (Pipe UInt8 capacity)) : WakeUp w capacity :=
  ⟨receiverObject, senderFifo, receiverFifo, 0, 0, 0, 0, 0, 0⟩

/-- The state after an action, if it is possible. -/
def next (timeDiff : TimeDiff) (state : WakeUp w capacity) :
    WakeUpAction w → Option (WakeUp w capacity)
  | .signal => some { state with atSender := state.atSender + 1 }
  | .signalSender answer =>
      match state.atSender with
      | 0 => none
      | calls + 1 =>
          (signalPipe answer state.senderFifo).map fun senderFifo =>
            { state with
              senderFifo := senderFifo
              atSender := calls
              atReceiver := state.atReceiver + 1
              senderFailed := state.senderFailed + if answer = .failed then 1 else 0 }
  | .signalReceiver answer =>
      match state.atReceiver with
      | 0 => none
      | calls + 1 =>
          (signalPipe answer state.receiverFifo).map fun receiverFifo =>
            { state with
              receiverFifo := receiverFifo
              atReceiver := calls
              returned := state.returned + 1
              receiverFailed := state.receiverFailed + if answer = .failed then 1 else 0 }
  | .receive call senderObject =>
      if call.select.Agrees state.receiverFifo then
        let outcome := WifiNetwork.receive timeDiff call state.receiverObject senderObject
        if outcome.fifoDumped then
          some
            { state with
              receiverObject := outcome.receiverObject
              receiverFifo := state.receiverFifo.map (Pipe.read dumpSize)
              woken := state.woken + 1 }
        else some { state with receiverObject := outcome.receiverObject }
      else none

end WakeUp

/-! ## One block -/

/-- A block that ends has put its byte in the pipe, or failed. -/
theorem length_of_signalPipe {answer : PipeWrite} {fifo : Pipe UInt8 capacity}
    {after : Option (Pipe UInt8 capacity)} (ended : signalPipe answer (some fifo) = some after) :
    ∃ left, after = some left ∧
      left.content.length + (if answer = .failed then 1 else 0) = fifo.content.length + 1 := by
  cases answer with
  | written =>
      obtain ⟨left, written, rfl⟩ := Option.map_eq_some_iff.mp ended
      exact ⟨left, rfl, Pipe.length_of_write written⟩
  | failed =>
      cases ended
      exact ⟨fifo, rfl, rfl⟩

/-- At a full pipe it ends in no other way. -/
theorem signalPipe_full {answer : PipeWrite} {fifo : Pipe UInt8 capacity}
    (full : fifo.content.length = capacity) :
    signalPipe answer (some fifo) = if answer = .failed then some (some fifo) else none := by
  cases answer with
  | written =>
      rw [if_neg (by decide)]
      exact congrArg (Option.map some) (Pipe.write_eq_none_iff.mpr full)
  | failed => rfl

/-! ## A call of Receive that a byte woke -/

theorem receive_fifoDumped (timeDiff : TimeDiff) (call : ReceiveCall)
    (object : WifiNetworkObject w) (senderObject : Option (WifiNetworkObject w)) :
    (receive timeDiff call object senderObject).fifoDumped =
      match call.select with
      | .failed => false
      | .ready _ fifoReady => fifoReady := by
  rw [receive]
  rcases receiveReady_cases timeDiff call (startReception call.clock.first object) senderObject
    with ⟨select, outcome⟩ | ⟨fifoReady, select, outcome⟩ | ⟨fifoReady, select, _, outcome⟩ |
      ⟨fifoReady, select, _, outcome⟩
  · rw [outcome, select]
  · rw [outcome, select]
  · rw [outcome, select]
  · rw [outcome, select]

/-- It does not test whether the link was lost. -/
theorem receive_woken (timeDiff : TimeDiff) {call : ReceiveCall} (object : WifiNetworkObject w)
    (senderObject : Option (WifiNetworkObject w)) {socketReady : Bool}
    (select : call.select = .ready socketReady true) :
    (receive timeDiff call object senderObject).receiverObject.isDisconnected =
      object.isDisconnected := by
  rw [← startReception_isDisconnected call.clock.first object, receive]
  generalize startReception call.clock.first object = started
  rcases receiveReady_cases timeDiff call started senderObject
    with ⟨other, outcome⟩ | ⟨fifoReady, other, outcome⟩ | ⟨fifoReady, _, _, outcome⟩ |
      ⟨fifoReady, _, _, outcome⟩
  · rw [select] at other
    cases other
  · rw [select] at other
    cases other
    rw [outcome]
    simp [checkDisconnection]
  · obtain ⟨_, _, flushed⟩ := flushReceiveSocket_object started call.recvs
    rw [outcome, flushed]
  · obtain ⟨_, _, _, _, read⟩ := readSocket_object started (call.recvs.headD (.failed .eagain))
    obtain ⟨_, saved⟩ := saveReceptionDate_object timeDiff call.clock
      (readSocket started (call.recvs.headD (.failed .eagain))).2.1
    have first := congrArg WifiNetworkObject.isDisconnected read
    have last := congrArg WifiNetworkObject.isDisconnected saved
    rw [outcome]
    exact last.trans first

namespace WakeUp

variable {timeDiff : TimeDiff} {state after : WakeUp w capacity}

/-- **An action by what it is.** -/
theorem next_cases {action : WakeUpAction w} (taken : state.next timeDiff action = some after) :
    (action = .signal ∧ after = { state with atSender := state.atSender + 1 }) ∨
    (∃ answer calls senderFifo, action = .signalSender answer ∧ state.atSender = calls + 1 ∧
      signalPipe answer state.senderFifo = some senderFifo ∧
      after =
        { state with
          senderFifo := senderFifo
          atSender := calls
          atReceiver := state.atReceiver + 1
          senderFailed := state.senderFailed + if answer = .failed then 1 else 0 }) ∨
    (∃ answer calls receiverFifo, action = .signalReceiver answer ∧
      state.atReceiver = calls + 1 ∧
      signalPipe answer state.receiverFifo = some receiverFifo ∧
      after =
        { state with
          receiverFifo := receiverFifo
          atReceiver := calls
          returned := state.returned + 1
          receiverFailed := state.receiverFailed + if answer = .failed then 1 else 0 }) ∨
    (∃ call senderObject socketReady, action = .receive call senderObject ∧
      call.select = .ready socketReady true ∧ state.receiverFifo.any Pipe.readable = true ∧
      after =
        { state with
          receiverObject :=
            (WifiNetwork.receive timeDiff call state.receiverObject senderObject).receiverObject
          receiverFifo := state.receiverFifo.map (Pipe.read dumpSize)
          woken := state.woken + 1 }) ∨
    (∃ call senderObject, action = .receive call senderObject ∧
      (call.select = .failed ∨ state.receiverFifo.any Pipe.readable = false) ∧
      after =
        { state with
          receiverObject :=
            (WifiNetwork.receive timeDiff call state.receiverObject
              senderObject).receiverObject }) := by
  cases action with
  | signal =>
      cases taken
      exact .inl ⟨rfl, rfl⟩
  | signalSender answer =>
      simp only [next] at taken
      split at taken
      · cases taken
      · rename_i calls here
        obtain ⟨senderFifo, ended, rfl⟩ := Option.map_eq_some_iff.mp taken
        exact .inr (.inl ⟨answer, calls, senderFifo, rfl, here, ended, rfl⟩)
  | signalReceiver answer =>
      simp only [next] at taken
      split at taken
      · cases taken
      · rename_i calls here
        obtain ⟨receiverFifo, ended, rfl⟩ := Option.map_eq_some_iff.mp taken
        exact .inr (.inr (.inl ⟨answer, calls, receiverFifo, rfl, here, ended, rfl⟩))
  | receive call senderObject =>
      simp only [next, receive_fifoDumped] at taken
      split at taken
      · rename_i agrees
        cases select : call.select with
        | failed =>
            rw [select] at taken
            cases taken
            exact .inr (.inr (.inr (.inr ⟨call, senderObject, rfl, .inl select, rfl⟩)))
        | ready socketReady fifoReady =>
            rw [select] at taken agrees
            cases fifoReady with
            | true =>
                cases taken
                exact .inr (.inr (.inr (.inl
                  ⟨call, senderObject, socketReady, rfl, select, agrees.symm, rfl⟩)))
            | false =>
                cases taken
                exact .inr (.inr (.inr (.inr
                  ⟨call, senderObject, rfl, .inr agrees.symm, rfl⟩)))
      · cases taken

/-! ## The pipe of the sender -/

/-- The calls that have passed the first block have put their byte in the pipe, or failed. -/
def SenderBooks (state : WakeUp w capacity) : Prop :=
  ∃ fifo, state.senderFifo = some fifo ∧
    state.atReceiver + state.returned = fifo.content.length + state.senderFailed

theorem SenderBooks.step (books : state.SenderBooks) {action : WakeUpAction w}
    (taken : state.next timeDiff action = some after) : after.SenderBooks := by
  obtain ⟨fifo, opened, passed⟩ := books
  rcases next_cases taken with
    ⟨_, rfl⟩ | ⟨answer, calls, senderFifo, _, here, ended, rfl⟩ |
      ⟨answer, calls, receiverFifo, _, here, ended, rfl⟩ | ⟨_, _, _, _, _, _, rfl⟩ |
      ⟨_, _, _, _, rfl⟩
  · exact ⟨fifo, opened, passed⟩
  · rw [opened] at ended
    obtain ⟨left, rfl, counted⟩ := length_of_signalPipe ended
    refine ⟨left, rfl, ?_⟩
    dsimp only
    omega
  · refine ⟨fifo, opened, ?_⟩
    dsimp only
    omega
  · exact ⟨fifo, opened, passed⟩
  · exact ⟨fifo, opened, passed⟩

/-- A pipe that is full stays so. -/
theorem full_step {fifo : Pipe UInt8 capacity} (full : fifo.content.length = capacity)
    (opened : state.senderFifo = some fifo) {action : WakeUpAction w}
    (taken : state.next timeDiff action = some after) : after.senderFifo = some fifo := by
  rcases next_cases taken with
    ⟨_, rfl⟩ | ⟨answer, calls, senderFifo, _, here, ended, rfl⟩ |
      ⟨answer, calls, receiverFifo, _, here, ended, rfl⟩ | ⟨_, _, _, _, _, _, rfl⟩ |
      ⟨_, _, _, _, rfl⟩
  · exact opened
  · rw [opened, signalPipe_full full] at ended
    split at ended
    · exact (Option.some.inj ended).symm
    · cases ended
  · exact opened
  · exact opened
  · exact opened

/-- At a full pipe the next call waits. -/
theorem next_full {fifo : Pipe UInt8 capacity} (full : fifo.content.length = capacity)
    (opened : state.senderFifo = some fifo) :
    state.next timeDiff (.signalSender .written) = none := by
  simp only [next, opened, signalPipe_full full]
  split
  · rfl
  · rfl

end WakeUp

/-- **Over the whole life of a connection no more calls of `Signal` pass their first write than
bytes fit in the pipe, except those whose write fails. When so many have, the write of the
sender's byte never completes again.** -/
theorem signals_limited {timeDiff : TimeDiff} {receiverObject : WifiNetworkObject w}
    {receiverFifo : Option (Pipe UInt8 capacity)} {actions : List (WakeUpAction w)}
    {reached : WakeUp w capacity}
    (run : Run (enabled (WakeUp.next timeDiff))
      (.fresh receiverObject (some (.empty UInt8 capacity)) receiverFifo) actions reached) :
    reached.atReceiver + reached.returned ≤ capacity + reached.senderFailed ∧
      (reached.atReceiver + reached.returned = capacity + reached.senderFailed →
        ∀ {more : List (WakeUpAction w)} {later : WakeUp w capacity},
          Run (enabled (WakeUp.next timeDiff)) reached more later →
            later.next timeDiff (.signalSender .written) = none) := by
  obtain ⟨fifo, opened, passed⟩ : reached.SenderBooks :=
    run.invariant WakeUp.SenderBooks (fun _ _ _ books taken => books.step taken)
      ⟨.empty UInt8 capacity, rfl, rfl⟩
  refine ⟨?_, ?_⟩
  · have within := fifo.within
    omega
  · intro all more later rest
    have full : fifo.content.length = capacity := by omega
    have still : later.senderFifo = some fifo :=
      rest.invariant (fun state => state.senderFifo = some fifo)
        (fun _ _ _ opened taken => WakeUp.full_step full opened taken) opened
    exact WakeUp.next_full full still

/-- A pipe for one byte, and a second call. -/
theorem signals_limited_second :
    let actions := [.signal, .signalSender .written, .signalReceiver .written, .signal]
    ∃ reached, Run (enabled (WakeUp.next exactDiff))
        (.fresh newAtFourGiB (some (.empty UInt8 1)) (some (.empty UInt8 1))) actions reached ∧
      reached.atReceiver + reached.returned ≤ 1 + reached.senderFailed ∧
        (reached.atReceiver + reached.returned = 1 + reached.senderFailed →
          ∀ {more : List (WakeUpAction 64)} {later : WakeUp 64 1},
            Run (enabled (WakeUp.next exactDiff)) reached more later →
              later.next exactDiff (.signalSender .written) = none) :=
  have run := .cons rfl (.cons rfl (.cons rfl (.single rfl)))
  ⟨_, run, signals_limited run⟩

/-! ## The pipe of the receiver -/

/-- The calls of `Receive` that empty a pipe of so many bytes. -/
def callsFor (bytes : ℕ) : ℕ := (bytes + (dumpSize - 1)) / dumpSize

/-- A call of `Receive` in which `select` does not fail. -/
def WakeUpAction.Receives : WakeUpAction w → Prop
  | receive call _ => call.select ≠ .failed
  | signal | signalSender _ | signalReceiver _ => False

namespace WakeUp

variable {timeDiff : TimeDiff} {state after : WakeUp w capacity}

/-- The bytes of the calls that have returned are in the pipe, were read, or were not written;
and every call of `Receive` that a byte woke has read some, and ten at most. -/
def ReceiverBooks (state : WakeUp w capacity) : Prop :=
  ∃ fifo dumped, state.receiverFifo = some fifo ∧
    state.returned = fifo.content.length + dumped + state.receiverFailed ∧
    state.woken ≤ dumped ∧ dumped ≤ dumpSize * state.woken

theorem ReceiverBooks.step (books : state.ReceiverBooks) {action : WakeUpAction w}
    (taken : state.next timeDiff action = some after) : after.ReceiverBooks := by
  obtain ⟨fifo, dumped, opened, written, least, most⟩ := books
  rcases next_cases taken with
    ⟨_, rfl⟩ | ⟨answer, calls, senderFifo, _, here, ended, rfl⟩ |
      ⟨answer, calls, receiverFifo, _, here, ended, rfl⟩ | ⟨_, _, _, _, _, readable, rfl⟩ |
      ⟨_, _, _, _, rfl⟩
  · exact ⟨fifo, dumped, opened, written, least, most⟩
  · exact ⟨fifo, dumped, opened, written, least, most⟩
  · rw [opened] at ended
    obtain ⟨left, rfl, counted⟩ := length_of_signalPipe ended
    refine ⟨left, dumped, rfl, ?_, least, most⟩
    dsimp only
    omega
  · rw [opened, Option.any_some, Pipe.readable_iff] at readable
    refine ⟨fifo.read dumpSize, dumped + min dumpSize fifo.content.length, ?_, ?_, ?_, ?_⟩
    · exact congrArg (Option.map (Pipe.read dumpSize)) opened
    · rw [Pipe.length_read]
      dsimp only
      omega
    · simp only [dumpSize] at most ⊢
      omega
    · simp only [dumpSize] at most ⊢
      omega
  · exact ⟨fifo, dumped, opened, written, least, most⟩

/-- **Without further signals, the calls of `Receive` that the bytes in the pipe wake are as many
as it takes to empty it, and none of these reports a lost link.** -/
theorem woken_of_receives {fifo : Pipe UInt8 capacity} (opened : state.receiverFifo = some fifo)
    {actions : List (WakeUpAction w)} {later : WakeUp w capacity}
    (run : Run (enabled (next timeDiff)) state actions later)
    (receives : ∀ action ∈ actions, action.Receives) :
    later.woken = state.woken + min actions.length (callsFor fifo.content.length) ∧
      (actions.length ≤ callsFor fifo.content.length →
        later.receiverObject.isDisconnected = state.receiverObject.isDisconnected) := by
  induction run generalizing fifo with
  | nil state => exact ⟨by simp, fun _ => rfl⟩
  | @cons state after later action actions taken rest ih =>
      obtain ⟨first, others⟩ := List.forall_mem_cons.mp receives
      rcases next_cases taken with
        ⟨rfl, _⟩ | ⟨_, _, _, rfl, _⟩ | ⟨_, _, _, rfl, _⟩ |
          ⟨call, senderObject, socketReady, rfl, select, readable, rfl⟩ |
          ⟨call, senderObject, rfl, unready, rfl⟩
      · exact first.elim
      · exact first.elim
      · exact first.elim
      · rw [opened, Option.any_some, Pipe.readable_iff] at readable
        obtain ⟨woken, same⟩ := ih (congrArg (Option.map (Pipe.read dumpSize)) opened) others
        rw [Pipe.length_read] at woken same
        rw [List.length_cons]
        simp only [callsFor, dumpSize] at woken same ⊢
        refine ⟨?_, ?_⟩
        · omega
        · intro enough
          exact (same (by omega)).trans (receive_woken timeDiff _ senderObject select)
      · have empty : ¬ fifo.content.length > 0 := by
          have nothing := unready.resolve_left first
          rw [opened, Option.any_some] at nothing
          rw [gt_iff_lt, ← Pipe.readable_iff, nothing]
          exact Bool.false_ne_true
        obtain ⟨woken, _⟩ := ih opened others
        rw [List.length_cons]
        simp only [callsFor, dumpSize] at woken ⊢
        refine ⟨?_, ?_⟩
        · omega
        · intro enough
          omega

end WakeUp

/-- **The calls of `Signal` that have returned have woken as many calls of `Receive` at most, and
a tenth of them at least, up to the bytes that wait in the pipe and those that were not written.
What waits wakes the next calls, as many as it takes to read it, and none of these reports a
lost link.** -/
theorem signals_wake {timeDiff : TimeDiff} {receiverObject : WifiNetworkObject w}
    {senderFifo : Option (Pipe UInt8 capacity)} {actions : List (WakeUpAction w)}
    {reached : WakeUp w capacity}
    (run : Run (enabled (WakeUp.next timeDiff))
      (.fresh receiverObject senderFifo (some (.empty UInt8 capacity))) actions reached) :
    ∃ fifo, reached.receiverFifo = some fifo ∧
      reached.woken + fifo.content.length + reached.receiverFailed ≤ reached.returned ∧
      reached.returned ≤
        dumpSize * reached.woken + fifo.content.length + reached.receiverFailed ∧
      ∀ {more : List (WakeUpAction w)} {later : WakeUp w capacity},
        Run (enabled (WakeUp.next timeDiff)) reached more later →
          (∀ action ∈ more, action.Receives) →
            later.woken = reached.woken + min more.length (callsFor fifo.content.length) ∧
              (more.length ≤ callsFor fifo.content.length →
                later.receiverObject.isDisconnected = reached.receiverObject.isDisconnected) := by
  obtain ⟨fifo, dumped, opened, written, least, most⟩ : reached.ReceiverBooks :=
    run.invariant WakeUp.ReceiverBooks (fun _ _ _ books taken => books.step taken)
      ⟨.empty UInt8 capacity, 0, rfl, rfl, Nat.le_refl 0, Nat.zero_le _⟩
  refine ⟨fifo, opened, by omega, by omega, ?_⟩
  intro more later rest receives
  exact WakeUp.woken_of_receives opened rest receives

/-- A call of `Receive` that one byte wakes. -/
theorem signals_wake_one :
    let actions := [.signal, .signalSender .written, .signalReceiver .written,
      .receive ⟨.ready false true, [], .constant ⟨1, 0⟩⟩ none]
    ∃ reached, Run (enabled (WakeUp.next exactDiff))
        (.fresh newAtFourGiB none (some (.empty UInt8 4096))) actions reached ∧
      ∃ fifo, reached.receiverFifo = some fifo ∧
        reached.woken + fifo.content.length + reached.receiverFailed ≤ reached.returned ∧
        reached.returned ≤
          dumpSize * reached.woken + fifo.content.length + reached.receiverFailed ∧
        ∀ {more : List (WakeUpAction 64)} {later : WakeUp 64 4096},
          Run (enabled (WakeUp.next exactDiff)) reached more later →
            (∀ action ∈ more, action.Receives) →
              later.woken = reached.woken + min more.length (callsFor fifo.content.length) ∧
                (more.length ≤ callsFor fifo.content.length →
                  later.receiverObject.isDisconnected = reached.receiverObject.isDisconnected) :=
  have run := .cons rfl (.cons rfl (.cons rfl (.single rfl)))
  ⟨_, run, signals_wake run⟩

end WifiNetwork

end ARNetworkAL
