import ARNetworkAL.Mux.Ownership

/-!
# A Mux session, from Init to Close

`PushFrame` allocates a buffer, fills it, gives it to the mux and releases it before it
returns, whatever fails on the way; its last line tells from `res` whether the frame was
handed over. Only an allocation that fails does not set `res`, so it passes for a frame that
was handed over (`handedOver_iff`).

`Close` releases the context and frees the object. It does not look at the two slots, so a
buffer that was received and not followed by another `Receive` stays referenced
(`closed_balanced_iff`).
-/

set_option autoImplicit false

namespace ARNetworkAL

open Library

namespace MuxNetwork

variable {w : ℕ} {β : Type} (E : Endianness)

/-! ## What PushFrame reports -/

/-- Success means that the mux took one buffer with the bytes of the frame, anything else is
an error of the network, and the new buffer is released. -/
structure HandedOver (caller : Mem UInt8) (answers : PushAnswers)
    (senderObject : MuxNetworkObject w β) (frame : Frame w) : Prop where
  reports : (pushFrame E caller answers senderObject frame).result = .default ↔
    (pushFrame E caller answers senderObject frame).encoded =
        some (wire E (frame.content caller)) ∧ answers.encode = 0
  otherwise : (pushFrame E caller answers senderObject frame).result ≠ .default →
    (pushFrame E caller answers senderObject frame).result = .networkError
  released : (pushFrame E caller answers senderObject frame).unrefs =
    if answers.buffer.isSome then 1 else 0

section

variable (caller : Mem UInt8) (answers : PushAnswers) (senderObject : MuxNetworkObject w β)
  (frame : Frame w)

/-- A buffer that is allocated is released, on every way out. -/
theorem pushFrame_unrefs :
    (pushFrame E caller answers senderObject frame).unrefs =
      if answers.buffer.isSome then 1 else 0 := by
  cases allocated : answers.buffer with
  | none => rw [pushFrame_unallocated E caller senderObject frame allocated]; rfl
  | some raw =>
      simp only [pushFrame, allocated, Option.isSome_some, if_true]
      split
      · rfl
      · split
        · rfl
        · split <;> rfl

theorem returnOf_default_iff (res : ℤ) : returnOf res = .default ↔ res = 0 := by
  simp [returnOf]

theorem returnOf_ne_default {res : ℤ} (failed : returnOf res ≠ .default) :
    returnOf res = .networkError := by
  rw [Ne, returnOf_default_iff] at failed
  exact if_neg failed

end

/-- **`PushFrame` reports what became of the frame exactly if its buffer was allocated.** -/
theorem handedOver_iff (word : 32 ≤ w) (caller : Mem UInt8) (answers : PushAnswers)
    (senderObject : MuxNetworkObject w β) {frame : Frame w}
    (holdsHeader : offsetofDataPtr ≤ frame.size.toNat) :
    HandedOver E caller answers senderObject frame ↔ answers.buffer.isSome := by
  have unrefs := pushFrame_unrefs E caller answers senderObject frame
  cases allocated : answers.buffer with
  | none =>
      refine iff_of_false ?_ (by simp)
      intro handed
      have reports := handed.reports
      rw [pushFrame_unallocated E caller senderObject frame allocated] at reports
      cases (reports.mp rfl).1
  | some raw =>
      refine iff_of_true ?_ rfl
      by_cases failed : answers.getData < 0 ∨ answers.setLen < 0
      · obtain ⟨result, -, unsent⟩ :=
          pushFrame_unfilled E caller senderObject frame allocated failed
        refine ⟨?_, fun _ => result, unrefs⟩
        rw [result, unsent]
        exact iff_of_false (by simp) (by simp)
      · obtain ⟨read, set⟩ := not_or.mp failed
        obtain ⟨result, sent⟩ :=
          pushFrame_filled E caller senderObject frame allocated read set
        have filled := copyFrame_filled E word caller raw holdsHeader
        rw [filled.off, filled.data] at sent
        refine ⟨?_, ?_, unrefs⟩
        · rw [result, sent, returnOf_default_iff]
          exact ⟨fun accepted => ⟨rfl, accepted⟩, fun accepted => accepted.2⟩
        · rw [result]
          exact returnOf_ne_default

/-- The mux refuses a frame with one byte of payload. -/
theorem handedOver_refused :
    HandedOver .littleEndianHost (fun _ => 170) ⟨some fun _ => 0, 0, 0, -32⟩
        (newObject 1 2 : MuxNetworkObject 64 ℕ) ⟨2, 10, 0, 8, 4096⟩ ↔
      (some fun _ => 0 : Option (Mem UInt8)).isSome :=
  handedOver_iff .littleEndianHost (by decide) _ _ _ (by decide)

/-- Without memory for the buffer a frame is lost, and reported as handed over. -/
theorem not_handedOver_unallocated :
    ¬ HandedOver .littleEndianHost (fun _ => 170) ⟨none, 0, 0, 0⟩
      (newObject 1 2 : MuxNetworkObject 64 ℕ) ⟨2, 10, 0, 8, 4096⟩ := by
  intro handed
  cases (handed.reports.mp rfl).1

/-! ## The session -/

/-- A session: the object with the log of the received buffers, and the references to the
buffers that `PushFrame` allocates, numbered in order, and to the context. -/
structure Session (w : ℕ) where
  tracked : Tracked w
  pushed : List (Entry ℕ)
  context : List (Entry (BitVec w))

namespace Session

/-- After a successful `ARNETWORKAL_Manager_InitMuxNetwork`. -/
def opened (ctx rxqueue : BitVec w) : Session w where
  tracked := ⟨newObject ctx rxqueue, []⟩
  pushed := []
  context := [.acquire ctx]

/-- A call during the session, with what libpomp and libmux answer. -/
inductive Call (w : ℕ) where
  | pushFrame (caller : Mem UInt8) (answers : PushAnswers) (frame : Frame w)
  | receive (answer : QueueAnswer Unit)
  | popFrame (cdata : Option (Cdata w)) (frame : Frame w)
  | unlock

/-- The session after a call. `Unlock` closes the channel and touches no reference. -/
def next (session : Session w) : Call w → Session w
  | .pushFrame caller answers frame =>
      let number := (Ledger.acquired session.pushed).length
      let outcome := MuxNetwork.pushFrame E caller answers session.tracked.object frame
      { session with
        tracked := { session.tracked with object := outcome.senderObject }
        pushed :=
          session.pushed ++ (if answers.buffer.isSome then [.acquire number] else []) ++
            List.replicate outcome.unrefs (.release number) }
  | .receive answer => { session with tracked := session.tracked.next E (.receive answer) }
  | .popFrame cdata frame => { session with tracked := session.tracked.next E (.pop cdata frame) }
  | .unlock => session

/-- `ARNETWORKAL_Manager_CloseMuxNetwork`: the context is released and the object is freed
with what is in its slots. -/
def close (session : Session w) : Session w :=
  { session with context := session.context ++ [.release session.tracked.object.ctx] }

/-- Every buffer received or allocated, and the context, were released exactly once. -/
def Balanced (session : Session w) : Prop :=
  Ledger.Balanced (references session.tracked.log) ∧ Ledger.Balanced session.pushed ∧
    Ledger.Balanced session.context

instance (session : Session w) : Decidable session.Balanced :=
  inferInstanceAs (Decidable (_ ∧ _ ∧ _))

/-- What every call keeps. -/
structure Keeps (ctx : BitVec w) (session : Session w) : Prop where
  tracked : session.tracked.Keeps
  names : Ledger.acquired session.pushed = List.range (Ledger.acquired session.pushed).length
  settled : Ledger.settle 0 session.pushed = some 0
  object : session.tracked.object.ctx = ctx
  context : session.context = [.acquire ctx]

theorem keeps_opened (ctx rxqueue : BitVec w) : Keeps ctx (opened ctx rxqueue) where
  tracked := TrackedAsNew.keeps ⟨rfl, rfl, rfl⟩
  names := rfl
  settled := rfl
  object := rfl
  context := rfl

end Session

/-- `PushFrame` touches one flag of the object. -/
theorem pushFrame_object (caller : Mem UInt8) (answers : PushAnswers)
    (object : MuxNetworkObject w β) (frame : Frame w) :
    ∃ disconnected, (pushFrame E caller answers object frame).senderObject =
      { object with disconnected := disconnected } := by
  cases allocated : answers.buffer with
  | none =>
      rw [pushFrame_unallocated E caller object frame allocated]
      exact ⟨object.disconnected, rfl⟩
  | some raw =>
      simp only [pushFrame, allocated]
      split
      · exact ⟨object.disconnected, rfl⟩
      · split
        · exact ⟨object.disconnected, rfl⟩
        · split
          · exact object.disconnect_object
          · exact ⟨object.disconnected, rfl⟩

/-- The flag is no matter of the received buffers. -/
theorem Tracked.Keeps.setDisconnected {tracked : Tracked w} (keeps : tracked.Keeps)
    (disconnected : ℤ) :
    Tracked.Keeps ⟨{ tracked.object with disconnected := disconnected }, tracked.log⟩ where
  oneSlot := keeps.oneSlot
  names := keeps.names
  settled := keeps.settled
  taken := keeps.taken
  old := keeps.old
  free := keeps.free
  closed := keeps.closed
  ordered := keeps.ordered

theorem Tracked.next_ctx (tracked : Tracked w) (call : ReceiverCall w) :
    (tracked.next E call).object.ctx = tracked.object.ctx := by
  cases call with
  | receive answer =>
      rcases receive_cases (answer.name tracked.obtained) tracked.object with
        ⟨_, outcome⟩ | ⟨_, _, _, outcome⟩ | ⟨_, _, _, _, outcome⟩ | ⟨_, _, outcome⟩
      · simp only [Tracked.next, outcome]
        rfl
      · simp only [Tracked.next, outcome]
        rfl
      · simp only [Tracked.next, outcome]
        rfl
      · simp only [Tracked.next, outcome]
        rfl
  | pop cdata frame =>
      rcases (popFrame_cases E (fun _ => cdata) frame :
          (tracked.object.rxbufRecv = none ∧ _) ∨ _) with
        ⟨_, outcome⟩ | ⟨_, _, _, outcome⟩ | ⟨_, _, _, _, _, outcome⟩
      · simp only [Tracked.next, outcome]
      · simp only [Tracked.next, outcome]
      · simp only [Tracked.next, outcome]

namespace Session

variable {ctx : BitVec w} {session : Session w}

/-- What `PushFrame` does to its ledger: a buffer that is allocated is released too. -/
theorem next_pushed (session : Session w) (caller : Mem UInt8) (answers : PushAnswers)
    (frame : Frame w) :
    (session.next E (.pushFrame caller answers frame)).pushed =
      session.pushed ++
        if answers.buffer.isSome then
          [.acquire (Ledger.acquired session.pushed).length,
            .release (Ledger.acquired session.pushed).length]
        else [] := by
  simp only [next, pushFrame_unrefs E caller answers session.tracked.object frame]
  split
  · simp
  · simp

/-- What `PushFrame` keeps. -/
theorem Keeps.pushFrame (keeps : session.Keeps ctx) (caller : Mem UInt8) (answers : PushAnswers)
    (frame : Frame w) : (session.next E (.pushFrame caller answers frame)).Keeps ctx := by
  obtain ⟨disconnected, touched⟩ :=
    pushFrame_object E caller answers session.tracked.object frame
  have pushed := next_pushed E session caller answers frame
  constructor
  · have tracked := keeps.tracked.setDisconnected disconnected
    rw [← touched] at tracked
    exact tracked
  · rw [pushed]
    split
    · rw [Ledger.acquired_append, keeps.names]
      simp [Ledger.acquired, List.range_succ]
    · rw [List.append_nil]
      exact keeps.names
  · rw [pushed]
    refine Ledger.settle_trans keeps.settled ?_
    split
    · rw [Ledger.settle_acquire, Ledger.settle_release, Ledger.settle_nil]
    · rfl
  · simp only [next, touched]
    exact keeps.object
  · exact keeps.context

/-- **What one call keeps.** -/
theorem Keeps.next (keeps : session.Keeps ctx) (call : Call w) :
    (session.next E call).Keeps ctx := by
  cases call with
  | pushFrame caller answers frame => exact keeps.pushFrame E caller answers frame
  | receive answer =>
      exact ⟨Tracked.Keeps.next E keeps.tracked (.receive answer), keeps.names, keeps.settled,
        (Tracked.next_ctx E session.tracked (.receive answer)).trans keeps.object, keeps.context⟩
  | popFrame cdata frame =>
      exact ⟨Tracked.Keeps.next E keeps.tracked (.pop cdata frame), keeps.names, keeps.settled,
        (Tracked.next_ctx E session.tracked (.pop cdata frame)).trans keeps.object, keeps.context⟩
  | unlock => exact keeps

/-- The ledgers of a session balance after `Close` exactly if the slots were empty. -/
theorem Keeps.close_balanced_iff (keeps : session.Keeps ctx) :
    session.close.Balanced ↔
      session.tracked.object.rxbufRecv = none ∧ session.tracked.object.rxbufPop = none := by
  have received : Ledger.Balanced (references session.tracked.log) ↔
      (session.tracked.object.slots : Multiset ℕ) = 0 := by
    refine Ledger.balanced_iff keeps.tracked.settled ?_
    rw [keeps.tracked.names]
    exact List.nodup_range
  have pushed : Ledger.Balanced session.pushed := by
    refine (Ledger.balanced_iff keeps.settled ?_).mpr rfl
    rw [keeps.names]
    exact List.nodup_range
  have context : Ledger.Balanced session.close.context := by
    simp [close, keeps.context, keeps.object, Ledger.Balanced, Ledger.acquired, Ledger.released]
  have empty : (session.tracked.object.slots : Multiset ℕ) = 0 ↔
      session.tracked.object.rxbufRecv = none ∧ session.tracked.object.rxbufPop = none := by
    rw [Multiset.coe_eq_zero, MuxNetworkObject.slots, List.append_eq_nil_iff,
      Option.toList_eq_nil_iff, Option.toList_eq_nil_iff]
  rw [← empty, ← received]
  exact ⟨fun balanced => balanced.1, fun balanced => ⟨balanced, pushed, context⟩⟩

/-- **However a session goes, its references balance when it is closed exactly if no
received buffer is in the slots then.** -/
theorem closed_balanced_iff {ctx rxqueue : BitVec w} {calls : List (Call w)}
    {session : Session w} (run : Run (follows (next E)) (opened ctx rxqueue) calls session) :
    session.close.Balanced ↔
      session.tracked.object.rxbufRecv = none ∧ session.tracked.object.rxbufPop = none := by
  have keeps : session.Keeps ctx := by
    refine run.invariant (Keeps ctx) ?_ (keeps_opened ctx rxqueue)
    rintro before call after keeps rfl
    exact keeps.next E call
  exact keeps.close_balanced_iff

/-- A buffer is received, its frame taken, and the next `Receive` finds the queue closed. -/
theorem closed_balanced_drained :
    let calls := [Call.receive (.buffer ()),
      .popFrame (some ⟨16, [1, 2, 3, 7, 0, 0, 0]⟩) (.reset 64),
      .receive .epipe, .unlock]
    let session := calls.foldl (next .littleEndianHost) (opened (1 : BitVec 64) 2)
    session.close.Balanced ↔
      session.tracked.object.rxbufRecv = none ∧ session.tracked.object.rxbufPop = none := by
  intro calls session
  have run : Run (follows (next .littleEndianHost)) (opened (1 : BitVec 64) 2) calls session :=
    .cons rfl (.cons rfl (.cons rfl (.cons rfl (.nil _))))
  exact closed_balanced_iff .littleEndianHost run

/-- A buffer that is received just before `Close` is never released. -/
theorem closed_not_balanced :
    ¬ ∀ (calls : List (Call 64)) session,
      Run (follows (next .littleEndianHost)) (opened 1 2) calls session →
        session.close.Balanced := by
  intro balanced
  exact absurd (balanced [.receive (.buffer ())] _ (.single rfl)) (by decide)

end Session

end MuxNetwork

end ARNetworkAL
