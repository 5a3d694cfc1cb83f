import ARNetworkAL.Library.Latch
import ARNetworkAL.Mux.Object

/-!
# Two threads and one flag

A sender thread calls `PushFrame` and a receiver thread `Receive` on the one object of a
Mux transport. `PushFrame` finds the link lost when `mux_encode` fails, `Receive` when the
queue is being destroyed. Either then reads `disconnected`, and if it is zero sets it and
calls the callback.

`Threads.next` takes one atomic step: the part of a call up to its first access to the
flag, an access to the flag, or the callback. A thread that is left alone does what the
functions do (`push_alone`, `receive_alone`). The threads share the flag as the parties of
`Library.Latch` do (`Threads.next_step`), so the callback is called once at most while no
thread finds the flag unset between the other's test and its write
(`notified_at_most_once`). Where one does, the callback can be called twice
(`notified_twice`).
-/

set_option autoImplicit false

namespace ARNetworkAL

open Library

namespace MuxNetwork

variable {w : ℕ} {β : Type}

/-! ## The state of two threads -/

/-- The threads that use a Mux object. -/
inductive Thread where
  | sender
  | receiver
  deriving DecidableEq, Repr

/-- The other one. -/
def Thread.other : Thread → Thread
  | sender => receiver
  | receiver => sender

/-- Where a thread is. -/
inductive CallPoint where
  | betweenCalls
  | beforeTest
  | beforeSet
  | beforeCallback
  deriving DecidableEq, Repr

/-- The object, where the threads are, and how often the callback was called. -/
structure Threads (w : ℕ) (β : Type) where
  object : MuxNetworkObject w β
  point : Thread → CallPoint
  callbacks : ℕ

/-- One step of a thread: a call that begins, with what libpomp and libmux answer to it, or
the next step of the call that is under way. -/
inductive Action (w : ℕ) (β : Type) where
  | push (caller : Mem UInt8) (answers : PushAnswers) (frame : Frame w)
  | receive (answer : QueueAnswer β)
  | goesOn (thread : Thread)

/-- The thread that moves. -/
def Action.thread : Action w β → Thread
  | push _ _ _ => .sender
  | receive _ => .receiver
  | goesOn thread => thread

/-- The new buffer is filled and `mux_encode` fails. -/
def PushAnswers.Lost (answers : PushAnswers) : Prop :=
  answers.buffer.isSome ∧ ¬ answers.getData < 0 ∧ ¬ answers.setLen < 0 ∧ answers.encode < 0

instance (answers : PushAnswers) : Decidable answers.Lost :=
  inferInstanceAs (Decidable (_ ∧ _))

/-- The queue is being destroyed. -/
def QueueAnswer.Lost : QueueAnswer β → Prop
  | epipe => True
  | etimedout => True
  | _ => False

instance : (answer : QueueAnswer β) → Decidable answer.Lost
  | .buffer _ => inferInstanceAs (Decidable False)
  | .epipe => inferInstanceAs (Decidable True)
  | .etimedout => inferInstanceAs (Decidable True)
  | .failed => inferInstanceAs (Decidable False)

variable (E : Endianness)

namespace Threads

/-- No call is under way and the callback was not called. -/
def start (object : MuxNetworkObject w β) : Threads w β := ⟨object, fun _ => .betweenCalls, 0⟩

/-- A thread moves on. -/
def goto (threads : Threads w β) (thread : Thread) (point : CallPoint) : Threads w β :=
  { threads with point := Function.update threads.point thread point }

/-- `PushFrame` up to its test of the flag, or to its end. -/
def beginPush (caller : Mem UInt8) (answers : PushAnswers) (frame : Frame w)
    (threads : Threads w β) : Threads w β :=
  if answers.Lost then threads.goto .sender .beforeTest
  else { threads with object := (pushFrame E caller answers threads.object frame).senderObject }

/-- `Receive` up to its test of the flag, or to its end. -/
def beginReceive (answer : QueueAnswer β) (threads : Threads w β) : Threads w β :=
  if threads.object.rxqueue ≠ 0 ∧ answer.Lost then
    { threads.goto .receiver .beforeTest with
      object := { threads.object.released with rxqueue := 0 } }
  else { threads with object := (MuxNetwork.receive answer threads.object).receiverObject }

/-- The rest of either call, one access to the flag at a time. -/
def goOn (thread : Thread) (threads : Threads w β) : Option (Threads w β) :=
  match threads.point thread with
  | .betweenCalls => none
  | .beforeTest =>
      if threads.object.disconnected = 0 then some (threads.goto thread .beforeSet)
      else some (threads.goto thread .betweenCalls)
  | .beforeSet =>
      some { threads.goto thread .beforeCallback with
        object := { threads.object with disconnected := 1 } }
  | .beforeCallback =>
      some { threads.goto thread .betweenCalls with
        callbacks := threads.callbacks + if threads.object.onDisconnect ≠ 0 then 1 else 0 }

/-- The state after a step. -/
def next (threads : Threads w β) : Action w β → Option (Threads w β)
  | .push caller answers frame =>
      if threads.point .sender = .betweenCalls then
        some (threads.beginPush E caller answers frame)
      else none
  | .receive answer =>
      if threads.point .receiver = .betweenCalls then some (threads.beginReceive answer)
      else none
  | .goesOn thread => threads.goOn thread

end Threads

/-! ## A thread that is left alone -/

section

variable (caller : Mem UInt8) {answers : PushAnswers} (frame : Frame w)
  (object : MuxNetworkObject w β)

/-- A call that does not lose the link leaves the object. -/
theorem pushFrame_of_not_lost (kept : ¬ answers.Lost) :
    (pushFrame E caller answers object frame).senderObject = object ∧
      (pushFrame E caller answers object frame).notified = false := by
  simp only [pushFrame]
  split
  · exact ⟨rfl, rfl⟩
  · rename_i raw allocated
    split
    · exact ⟨rfl, rfl⟩
    · rename_i read
      split
      · exact ⟨rfl, rfl⟩
      · rename_i set
        have encoded : ¬ answers.encode < 0 := by
          intro refused
          exact kept ⟨by rw [allocated]; rfl, read, set, refused⟩
        rw [if_neg encoded]
        exact ⟨rfl, rfl⟩

/-- One that does ends by `disconnect`. -/
theorem pushFrame_of_lost (lost : answers.Lost) :
    (pushFrame E caller answers object frame).senderObject = object.disconnect.1 ∧
      (pushFrame E caller answers object frame).notified = object.disconnect.2 := by
  obtain ⟨allocated, read, set, refused⟩ := lost
  obtain ⟨raw, allocated⟩ := Option.isSome_iff_exists.mp allocated
  simp only [pushFrame, allocated, if_neg read, if_neg set, if_pos refused]
  exact ⟨trivial, trivial⟩

end

/-- `Receive` that loses the link ends by `disconnect` too. -/
theorem receive_of_lost {answer : QueueAnswer β} (object : MuxNetworkObject w β)
    (queue : object.rxqueue ≠ 0) (lost : answer.Lost) :
    (receive answer object).receiverObject = { object.released with rxqueue := 0 }.disconnect.1 ∧
      (receive answer object).notified = { object.released with rxqueue := 0 }.disconnect.2 := by
  have opened : ¬ object.released.rxqueue = 0 := queue
  simp only [receive, if_neg opened]
  cases answer with
  | buffer buffer => exact lost.elim
  | epipe => exact ⟨rfl, rfl⟩
  | etimedout => exact ⟨rfl, rfl⟩
  | failed => exact lost.elim

/-- `Receive` that does not leaves the flag and the callback. -/
theorem receive_of_not_lost {answer : QueueAnswer β} {object : MuxNetworkObject w β}
    (kept : ¬ (object.rxqueue ≠ 0 ∧ answer.Lost)) :
    (receive answer object).receiverObject.disconnected = object.disconnected ∧
      (receive answer object).receiverObject.onDisconnect = object.onDisconnect ∧
      (receive answer object).notified = false := by
  rcases receive_cases answer object with
    ⟨_, outcome⟩ | ⟨_, _, _, outcome⟩ | ⟨queue, which, _⟩ | ⟨_, _, outcome⟩
  · rw [outcome]
    exact ⟨rfl, rfl, rfl⟩
  · rw [outcome]
    exact ⟨rfl, rfl, rfl⟩
  · refine absurd ⟨queue, ?_⟩ kept
    rcases which with rfl | rfl <;> trivial
  · rw [outcome]
    exact ⟨rfl, rfl, rfl⟩

namespace Threads

section

variable (threads : Threads w β) (thread : Thread) (point : CallPoint)

@[simp] theorem goto_point_self : (threads.goto thread point).point thread = point :=
  Function.update_self ..

theorem goto_point_other {other : Thread} (distinct : other ≠ thread) :
    (threads.goto thread point).point other = threads.point other :=
  Function.update_of_ne distinct ..

@[simp] theorem goto_object : (threads.goto thread point).object = threads.object := rfl

@[simp] theorem goto_goto (later : CallPoint) :
    (threads.goto thread point).goto thread later = threads.goto thread later := by
  simp [goto]

end

section

variable {threads : Threads w β} {thread : Thread}

/-- A flag that is set ends the call. -/
theorem goOn_test_set (here : threads.point thread = .beforeTest)
    (set : threads.object.disconnected ≠ 0) :
    threads.goOn thread = some (threads.goto thread .betweenCalls) := by
  simp only [goOn, here, if_neg set]

theorem goOn_test_unset (here : threads.point thread = .beforeTest)
    (unset : threads.object.disconnected = 0) :
    threads.goOn thread = some (threads.goto thread .beforeSet) := by
  simp only [goOn, here, if_pos unset]

theorem goOn_set (here : threads.point thread = .beforeSet) :
    threads.goOn thread =
      some { threads.goto thread .beforeCallback with
        object := { threads.object with disconnected := 1 } } := by
  simp only [goOn, here]

theorem goOn_callback (here : threads.point thread = .beforeCallback) :
    threads.goOn thread =
      some { threads.goto thread .betweenCalls with
        callbacks := threads.callbacks + if threads.object.onDisconnect ≠ 0 then 1 else 0 } := by
  simp only [goOn, here]

end

/-- The steps of a thread from its test of the flag on amount to `disconnect`. -/
theorem disconnect_alone {threads : Threads w β} {thread : Thread}
    (here : threads.point thread = .beforeTest) :
    ∃ actions, Run (enabled (next E)) threads actions
      { threads.goto thread .betweenCalls with
        object := threads.object.disconnect.1
        callbacks := threads.callbacks + threads.object.disconnect.2.toNat } := by
  by_cases unset : threads.object.disconnected = 0
  · have tested := goOn_test_unset here unset
    have set := goOn_set (goto_point_self threads thread .beforeSet)
    have third : { (threads.goto thread .beforeSet).goto thread .beforeCallback with
        object := { threads.object with disconnected := 1 } }.point thread = .beforeCallback :=
      goto_point_self _ thread .beforeCallback
    have called := goOn_callback third
    have notified : (threads.object.disconnect).2.toNat =
        if threads.object.onDisconnect ≠ 0 then 1 else 0 := by
      rw [MuxNetworkObject.disconnect, if_pos unset]
      split
      · rename_i registered
        exact congrArg Bool.toNat (decide_eq_true registered)
      · rename_i none
        exact congrArg Bool.toNat (decide_eq_false none)
    have object : (threads.object.disconnect).1 = { threads.object with disconnected := 1 } := by
      rw [MuxNetworkObject.disconnect, if_pos unset]
    refine ⟨[.goesOn thread, .goesOn thread, .goesOn thread], ?_⟩
    rw [notified, object, ← goto_goto threads thread .beforeCallback,
      ← goto_goto threads thread .beforeSet]
    exact .cons tested (.cons set (.single called))
  · refine ⟨[.goesOn thread], ?_⟩
    rw [MuxNetworkObject.disconnect, if_neg unset]
    exact .single (goOn_test_set here unset)

/-- A sender that is left alone does what `PushFrame` does. -/
theorem push_alone {threads : Threads w β} (between : threads.point .sender = .betweenCalls)
    (caller : Mem UInt8) (answers : PushAnswers) (frame : Frame w) :
    ∃ actions, Run (enabled (next E)) threads (.push caller answers frame :: actions)
      { threads with
        object := (pushFrame E caller answers threads.object frame).senderObject
        callbacks := threads.callbacks +
          (pushFrame E caller answers threads.object frame).notified.toNat } := by
  have begins : threads.next E (.push caller answers frame) =
      some (threads.beginPush E caller answers frame) := if_pos between
  by_cases lost : answers.Lost
  · obtain ⟨object, notified⟩ := pushFrame_of_lost E caller frame threads.object lost
    rw [beginPush, if_pos lost] at begins
    obtain ⟨actions, rest⟩ := disconnect_alone E (goto_point_self threads .sender .beforeTest)
    refine ⟨actions, .cons begins ?_⟩
    rw [goto_goto, goto_object] at rest
    have back : threads.goto .sender .betweenCalls = threads := by
      rw [goto, ← between, Function.update_eq_self]
    rw [back] at rest
    rw [object, notified]
    exact rest
  · obtain ⟨object, notified⟩ := pushFrame_of_not_lost E caller frame threads.object lost
    rw [beginPush, if_neg lost] at begins
    refine ⟨[], ?_⟩
    rw [notified]
    exact .single begins

/-- So does a receiver. -/
theorem receive_alone {threads : Threads w β} (between : threads.point .receiver = .betweenCalls)
    (answer : QueueAnswer β) :
    ∃ actions, Run (enabled (next E)) threads (.receive answer :: actions)
      { threads with
        object := (MuxNetwork.receive answer threads.object).receiverObject
        callbacks := threads.callbacks +
          (MuxNetwork.receive answer threads.object).notified.toNat } := by
  have begins : threads.next E (.receive answer) = some (threads.beginReceive answer) :=
    if_pos between
  by_cases lost : threads.object.rxqueue ≠ 0 ∧ answer.Lost
  · obtain ⟨object, notified⟩ := receive_of_lost threads.object lost.1 lost.2
    rw [beginReceive, if_pos lost] at begins
    have here : ({ threads.goto .receiver .beforeTest with
        object := { threads.object.released with rxqueue := 0 } } : Threads w β).point .receiver =
          .beforeTest := goto_point_self threads .receiver .beforeTest
    obtain ⟨actions, rest⟩ := disconnect_alone E here
    refine ⟨actions, .cons begins ?_⟩
    have back : threads.goto .receiver .betweenCalls = threads := by
      rw [goto, ← between, Function.update_eq_self]
    have point := congrArg Threads.point back
    rw [object, notified]
    simp only [goto, Function.update_idem] at rest point
    rw [point] at rest
    exact rest
  · rw [beginReceive, if_neg lost] at begins
    obtain ⟨_, _, notified⟩ := receive_of_not_lost lost
    refine ⟨[], ?_⟩
    rw [notified]
    exact .single begins

/-! ## One flag -/

/-- Where a thread is with respect to the flag. -/
def latchPoint : CallPoint → Latch.Point
  | .betweenCalls => .rest
  | .beforeTest => .checking
  | .beforeSet => .passed
  | .beforeCallback => .raised

/-- The threads as parties that share a flag. -/
def view (threads : Threads w β) : Latch.State Thread where
  point := fun thread => latchPoint (threads.point thread)
  up := decide (threads.object.disconnected ≠ 0)
  acts := threads.callbacks

theorem view_goto (threads : Threads w β) (thread : Thread) (point : CallPoint) :
    (threads.goto thread point).view = threads.view.goto thread (latchPoint point) := by
  apply Latch.State.ext
  · funext other
    by_cases same : other = thread
    · subst same
      simp [view, goto, Latch.State.goto]
    · simp [view, goto, Latch.State.goto, Function.update_of_ne same]
  · rfl
  · rfl

/-- The thread that moves does not find the flag unset between the test of the other one
and its write. -/
def Alone (threads : Threads w β) : Action w β → Prop
  | .goesOn thread =>
      threads.point thread = .beforeTest → threads.object.disconnected = 0 →
        threads.point thread.other ≠ .beforeSet
  | _ => True

instance (threads : Threads w β) : (action : Action w β) → Decidable (threads.Alone action)
  | .push _ _ _ => inferInstanceAs (Decidable True)
  | .receive _ => inferInstanceAs (Decidable True)
  | .goesOn _ => inferInstanceAs (Decidable (_ → _))

theorem eq_of_latchPoint {here there : CallPoint} (same : latchPoint here = latchPoint there) :
    here = there := by
  cases here <;> cases there <;> first | rfl | cases same

section

variable {threads after : Threads w β}

theorem view_point {thread : Thread} {here : CallPoint} (found : threads.point thread = here) :
    threads.view.point thread = latchPoint here :=
  congrArg latchPoint found

/-- A call that begins brings its thread to the flag, or leaves the flag alone. -/
theorem begin_step {action : Action w β} (between : threads.point action.thread = .betweenCalls)
    (begun : after.view = threads.view ∨
      after.view = (threads.goto action.thread .beforeTest).view) :
    Latch.Step threads.view action.thread after.view := by
  rcases begun with same | arrived
  · rw [same]
    exact .stay (view_point between)
  · rw [arrived, view_goto]
    exact .arrive (view_point between)

theorem goOn_step (registered : threads.object.onDisconnect ≠ 0) {thread : Thread}
    (taken : threads.goOn thread = some after) :
    after.object.onDisconnect ≠ 0 ∧ Latch.Step threads.view thread after.view := by
  rcases here : threads.point thread with _ | _ | _ | _
  · rw [goOn, here] at taken
    cases taken
  · by_cases unset : threads.object.disconnected = 0
    · rw [goOn_test_unset here unset, Option.some.injEq] at taken
      subst taken
      refine ⟨registered, ?_⟩
      rw [view_goto]
      exact .pass (view_point here) (decide_eq_false (not_not.mpr unset))
    · rw [goOn_test_set here unset, Option.some.injEq] at taken
      subst taken
      refine ⟨registered, ?_⟩
      rw [view_goto]
      exact .giveWay (view_point here) (decide_eq_true unset)
  · rw [goOn_set here, Option.some.injEq] at taken
    subst taken
    refine ⟨registered, ?_⟩
    have moved := view_goto threads thread .beforeCallback
    have seen : view { threads.goto thread .beforeCallback with
        object := { threads.object with disconnected := 1 } } =
          { threads.view.goto thread .raised with up := true } := by
      apply Latch.State.ext
      · have point := congrArg Latch.State.point moved
        exact point
      · rfl
      · rfl
    rw [seen]
    exact .raise (view_point here)
  · rw [goOn_callback here, Option.some.injEq] at taken
    subst taken
    refine ⟨registered, ?_⟩
    have moved := view_goto threads thread .betweenCalls
    have seen : view { threads.goto thread .betweenCalls with
        callbacks := threads.callbacks + if threads.object.onDisconnect ≠ 0 then 1 else 0 } =
          { threads.view.goto thread .rest with acts := threads.view.acts + 1 } := by
      apply Latch.State.ext
      · have point := congrArg Latch.State.point moved
        exact point
      · rfl
      · simp only [if_pos registered]
        rfl
    rw [seen]
    exact .act (view_point here)

/-- **Each step is a step of a party that shares the flag**, where a callback is registered. -/
theorem next_step (registered : threads.object.onDisconnect ≠ 0) {action : Action w β}
    (taken : threads.next E action = some after) :
    after.object.onDisconnect ≠ 0 ∧ Latch.Step threads.view action.thread after.view := by
  cases action with
  | push caller answers frame =>
      rw [next] at taken
      split at taken
      · rename_i between
        rw [Option.some.injEq] at taken
        subst taken
        rw [beginPush]
        split
        · exact ⟨registered, begin_step between (.inr rfl)⟩
        · rename_i kept
          rw [(pushFrame_of_not_lost E caller frame threads.object kept).1]
          exact ⟨registered, begin_step between (.inl rfl)⟩
      · cases taken
  | receive answer =>
      rw [next] at taken
      split at taken
      · rename_i between
        rw [Option.some.injEq] at taken
        subst taken
        rw [beginReceive]
        split
        · exact ⟨registered, begin_step between (.inr rfl)⟩
        · rename_i kept
          obtain ⟨disconnected, onDisconnect, _⟩ := receive_of_not_lost kept
          refine ⟨by rw [onDisconnect]; exact registered, begin_step between (.inl ?_)⟩
          simp only [view, disconnected]
      · cases taken
  | goesOn thread => exact goOn_step registered taken

/-- The condition on the threads is the one on the parties. -/
theorem alone_view {action : Action w β} (alone : threads.Alone action)
    (taken : threads.next E action = some after) : threads.view.Alone action.thread := by
  intro checking down other passed
  have checking : latchPoint (threads.point action.thread) = latchPoint .beforeTest := checking
  have passed : latchPoint (threads.point other) = latchPoint .beforeSet := passed
  have testing := eq_of_latchPoint checking
  have setting := eq_of_latchPoint passed
  have unset : threads.object.disconnected = 0 := by simpa [view] using down
  cases action with
  | push caller answers frame =>
      have testing : threads.point .sender = .beforeTest := testing
      rw [next, if_neg (by rw [testing]; decide)] at taken
      cases taken
  | receive answer =>
      have testing : threads.point .receiver = .beforeTest := testing
      rw [next, if_neg (by rw [testing]; decide)] at taken
      cases taken
  | goesOn thread =>
      have away : other ≠ thread := by
        rintro rfl
        rw [show threads.point other = .beforeTest from testing] at setting
        cases setting
      have opposite : other = thread.other := by
        cases other <;> cases thread <;> first | rfl | exact absurd rfl away
      rw [opposite] at setting
      exact alone testing unset setting

/-- No callback was registered, so none is called. -/
theorem next_unregistered {action : Action w β} (none : threads.object.onDisconnect = 0)
    (taken : threads.next E action = some after) :
    after.object.onDisconnect = 0 ∧ after.callbacks = threads.callbacks := by
  cases action with
  | push caller answers frame =>
      rw [next] at taken
      split at taken
      · rw [Option.some.injEq] at taken
        subst taken
        rw [beginPush]
        split
        · exact ⟨none, rfl⟩
        · rename_i kept
          rw [(pushFrame_of_not_lost E caller frame threads.object kept).1]
          exact ⟨none, rfl⟩
      · cases taken
  | receive answer =>
      rw [next] at taken
      split at taken
      · rw [Option.some.injEq] at taken
        subst taken
        rw [beginReceive]
        split
        · exact ⟨none, rfl⟩
        · rename_i kept
          exact ⟨(receive_of_not_lost kept).2.1.trans none, rfl⟩
      · cases taken
  | goesOn thread =>
      rw [next] at taken
      rcases here : threads.point thread with _ | _ | _ | _
      · rw [goOn, here] at taken
        cases taken
      · by_cases unset : threads.object.disconnected = 0
        · rw [goOn_test_unset here unset, Option.some.injEq] at taken
          subst taken
          exact ⟨none, rfl⟩
        · rw [goOn_test_set here unset, Option.some.injEq] at taken
          subst taken
          exact ⟨none, rfl⟩
      · rw [goOn_set here, Option.some.injEq] at taken
        subst taken
        exact ⟨none, rfl⟩
      · rw [goOn_callback here, if_neg (not_not.mpr none), Option.some.injEq] at taken
        subst taken
        exact ⟨none, rfl⟩

end

/-- Before its first call a thread has no part in the flag. -/
theorem once_start (object : MuxNetworkObject w β) : Latch.Once (start object).view := by
  have resting : ∀ thread, (start object).view.point thread = .rest := fun _ => rfl
  have elsewhere : ∀ thread, ∀ {point : Latch.Point}, point ≠ .rest →
      (start object).view.point thread ≠ point := by
    intro thread point moved found
    rw [resting] at found
    exact moved found.symm
  refine ⟨?_, ?_, ?_, Nat.zero_le 1⟩
  · intro _
    refine ⟨rfl, fun thread => elsewhere thread (by decide), ?_⟩
    intro thread other passed
    exact absurd passed (elsewhere thread (by decide))
  · exact fun _ thread => elsewhere thread (by decide)
  · intro thread raised
    exact absurd raised (elsewhere thread (by decide))

/-- **A disconnection is notified once at most**, in every state of every run of the two
threads whose steps leave the flag to one thread at a time. -/
theorem notified_at_most_once (object : MuxNetworkObject w β) (actions : List (Action w β))
    (threads : Threads w β)
    (run : Run (restrict Alone (enabled (next E))) (start object) actions threads) :
    threads.callbacks ≤ 1 := by
  by_cases registered : object.onDisconnect ≠ 0
  · have seen : Run (restrict Latch.State.Alone Latch.Step) (view (start object))
        (actions.map Action.thread) (view threads) := by
      refine (Run.simulate (fun threads => threads.object.onDisconnect ≠ 0) view Action.thread
        ?_ run registered).2
      rintro before action after registered ⟨alone, taken⟩
      obtain ⟨kept, step⟩ := next_step E registered taken
      exact ⟨kept, alone_view E alone taken, step⟩
    exact Latch.acts_le_one (once_start object) seen
  · rw [not_not] at registered
    have silent := Run.invariant
      (fun threads => threads.object.onDisconnect = 0 ∧ threads.callbacks = 0)
      (by
        rintro before action after ⟨none, uncalled⟩ ⟨_, taken⟩
        obtain ⟨kept, same⟩ := next_unregistered E none taken
        exact ⟨kept, same.trans uncalled⟩) run ⟨registered, rfl⟩
    rw [silent.2]
    exact Nat.zero_le 1

/-- The object of a link that is lost. -/
def watched : MuxNetworkObject 64 Unit := { newObject 1 2 with onDisconnect := 16 }

/-- The sender loses the link while the receiver waits. -/
def senderLoses : List (Action 64 Unit) :=
  [.push (fun _ => 0) ⟨some fun _ => 0, 0, 0, -1⟩ { Frame.reset 64 with size := 7 },
    .goesOn .sender, .goesOn .sender, .goesOn .sender, .receive .epipe, .goesOn .receiver]

/-- A link that the sender loses before the receiver does. -/
theorem notified_at_most_once_alone :
    ∃ threads, Run (restrict Alone (enabled (next Endianness.littleEndianHost)))
        (start watched) senderLoses threads ∧ threads.callbacks ≤ 1 := by
  have run : Run (restrict Alone (enabled (next Endianness.littleEndianHost)))
      (start watched) senderLoses _ :=
    .cons ⟨trivial, rfl⟩ (.cons ⟨by decide, rfl⟩ (.cons ⟨by decide, rfl⟩
      (.cons ⟨by decide, rfl⟩ (.cons ⟨trivial, rfl⟩ (.single ⟨by decide, rfl⟩)))))
  exact ⟨_, run, notified_at_most_once Endianness.littleEndianHost watched senderLoses _ run⟩

/-- The threads lose the link at the same time: each tests the flag before the other one
writes it. -/
def bothLose : List (Action 64 Unit) :=
  [.push (fun _ => 0) ⟨some fun _ => 0, 0, 0, -1⟩ { Frame.reset 64 with size := 7 },
    .receive .epipe, .goesOn .sender, .goesOn .receiver, .goesOn .sender, .goesOn .receiver,
    .goesOn .sender, .goesOn .receiver]

/-- Then the callback is called by both. -/
theorem notified_by_both :
    ¬ ∀ (object : MuxNetworkObject 64 Unit) (actions : List (Action 64 Unit))
      (threads : Threads 64 Unit),
      Run (enabled (next Endianness.littleEndianHost)) (start object) actions threads →
        threads.callbacks ≤ 1 := by
  intro once
  have run : Run (enabled (next Endianness.littleEndianHost)) (start watched) bothLose _ :=
    .cons rfl (.cons rfl (.cons rfl (.cons rfl (.cons rfl (.cons rfl (.cons rfl
      (.single rfl)))))))
  have called := once watched bothLose _ run
  exact absurd called (by decide)

/-- **Where a step does not, the callback can be called twice.** -/
theorem notified_twice {threads : Threads w β} (registered : threads.object.onDisconnect ≠ 0)
    {action : Action w β} (shared : ¬ threads.Alone action) :
    ∃ actions after, Run (enabled (next E)) threads (action :: actions) after ∧
      after.callbacks = threads.callbacks + 2 := by
  cases action with
  | push caller answers frame => exact absurd trivial shared
  | receive answer => exact absurd trivial shared
  | goesOn thread =>
      have distinct : thread.other ≠ thread := by cases thread <;> decide
      obtain ⟨testing, rest⟩ := Classical.not_imp.mp shared
      obtain ⟨unset, rest⟩ := Classical.not_imp.mp rest
      have setting := not_not.mp rest
      -- Both write the flag before either calls.
      let first := threads.goto thread .beforeSet
      let second : Threads w β := { first.goto thread.other .beforeCallback with
        object := { first.object with disconnected := 1 } }
      let third : Threads w β := { second.goto thread .beforeCallback with
        object := { second.object with disconnected := 1 } }
      let fourth : Threads w β := { third.goto thread.other .betweenCalls with
        callbacks := third.callbacks + if third.object.onDisconnect ≠ 0 then 1 else 0 }
      have secondPoint : first.point thread.other = .beforeSet := by
        rw [goto_point_other _ _ _ distinct, setting]
      have thirdPoint : second.point thread = .beforeSet :=
        (goto_point_other first _ _ distinct.symm).trans (goto_point_self threads _ _)
      have fourthPoint : third.point thread.other = .beforeCallback :=
        (goto_point_other second _ _ distinct).trans (goto_point_self first _ _)
      have fifthPoint : fourth.point thread = .beforeCallback :=
        (goto_point_other third _ _ distinct.symm).trans (goto_point_self second _ _)
      have once : fourth.callbacks = threads.callbacks + 1 := by
        show threads.callbacks + (if threads.object.onDisconnect ≠ 0 then 1 else 0) = _
        rw [if_pos registered]
      refine ⟨[.goesOn thread.other, .goesOn thread, .goesOn thread.other, .goesOn thread], _,
        .cons (goOn_test_unset testing unset) (.cons (goOn_set secondPoint)
          (.cons (goOn_set thirdPoint) (.cons (goOn_callback fourthPoint)
            (.single (goOn_callback fifthPoint))))), ?_⟩
      show fourth.callbacks + (if threads.object.onDisconnect ≠ 0 then 1 else 0) = _
      rw [once, if_pos registered]

end Threads

end MuxNetwork

end ARNetworkAL
