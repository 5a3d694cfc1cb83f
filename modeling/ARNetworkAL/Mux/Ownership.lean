import ARNetworkAL.Library.Ledger
import ARNetworkAL.Library.Run
import ARNetworkAL.Mux.Object

/-!
# Who owns a received buffer

Every buffer that the queue hands out comes with one reference. `Receive` puts it in
`rxbuf_recv`, `PopFrame` moves it to `rxbuf_pop`, and the next `Receive` releases what it
finds in the two slots.

Buffers are named here in the order in which they are obtained, and a log keeps what a
sequence of calls does with them. The ledger of the log settles on the two slots
(`Tracked.Keeps`): a buffer is released once at most, only while it is in a slot, and only
by `Receive`.
-/

set_option autoImplicit false

namespace ARNetworkAL

open Library

namespace MuxNetwork

variable {w : ℕ} (E : Endianness)

/-! ## The log -/

/-- What the calls do with the buffers and the queue: a reference is obtained or released,
`PopFrame` takes a buffer or finds the other slot occupied, the queue is used, and it
answers that it is being destroyed. -/
inductive Event where
  | reference (entry : Entry ℕ)
  | take (buffer : ℕ)
  | occupied
  | useQueue
  | queueClosed
  deriving DecidableEq, Repr

/-- The references of a log. -/
def references (log : List Event) : List (Entry ℕ) :=
  log.filterMap fun
    | .reference entry => some entry
    | _ => none

/-- The buffers that `PopFrame` took. -/
def takes (log : List Event) : List ℕ :=
  log.filterMap fun
    | .take buffer => some buffer
    | _ => none

@[simp] theorem references_append (first second : List Event) :
    references (first ++ second) = references first ++ references second :=
  List.filterMap_append

@[simp] theorem takes_append (first second : List Event) :
    takes (first ++ second) = takes first ++ takes second :=
  List.filterMap_append

/-- The releases of several buffers. -/
def releases (buffers : List ℕ) : List Event :=
  buffers.map fun buffer => .reference (.release buffer)

@[simp] theorem references_releases (buffers : List ℕ) :
    references (releases buffers) = buffers.map .release := by
  simp [references, releases, List.filterMap_map]

@[simp] theorem takes_releases (buffers : List ℕ) : takes (releases buffers) = [] := by
  simp [takes, releases]

theorem eq_release_of_mem {buffers : List ℕ} {event : Event} (member : event ∈ releases buffers) :
    ∃ buffer, event = .reference (.release buffer) := by
  obtain ⟨buffer, _, same⟩ := List.mem_map.mp member
  exact ⟨buffer, same.symm⟩

/-- A receiver with the log of its calls. -/
structure Tracked (w : ℕ) where
  object : MuxNetworkObject w ℕ
  log : List Event

/-- The number of buffers obtained, which names the next one. -/
def Tracked.obtained (tracked : Tracked w) : ℕ :=
  (Ledger.acquired (references tracked.log)).length

/-! ## The calls -/

/-- A call on the receiver: `Receive` with what the queue answers, or `PopFrame` with what
`pomp_buffer_get_cdata` answers and the frame it fills. -/
inductive ReceiverCall (w : ℕ) where
  | receive (answer : QueueAnswer Unit)
  | pop (cdata : Option (Cdata w)) (frame : Frame w)

/-- The answer with a name for its buffer. -/
def QueueAnswer.name (answer : QueueAnswer Unit) (number : ℕ) : QueueAnswer ℕ :=
  match answer with
  | .buffer _ => .buffer number
  | .epipe => .epipe
  | .etimedout => .etimedout
  | .failed => .failed

/-- What an answer of the queue adds to the log. -/
def QueueAnswer.events : QueueAnswer ℕ → List Event
  | .buffer named => [.reference (.acquire named)]
  | .epipe | .etimedout => [.queueClosed]
  | .failed => []

/-- What a call of `Receive` adds to the log. -/
def ReceiveOutcome.events (outcome : ReceiveOutcome w ℕ) (answer : QueueAnswer ℕ) : List Event :=
  releases outcome.unrefs ++
    if outcome.queueUsed then .useQueue :: answer.events else []

/-- What a call of `PopFrame` adds to the log. -/
def PopOutcome.events (outcome : PopOutcome w ℕ) : List Event :=
  match outcome.popped with
  | some buffer => [.take buffer]
  | none => if outcome.result = .networkError then [.occupied] else []

/-- The receiver after a call. -/
def Tracked.next (tracked : Tracked w) : ReceiverCall w → Tracked w
  | .receive answer =>
      let answer := answer.name tracked.obtained
      let outcome := MuxNetwork.receive answer tracked.object
      ⟨outcome.receiverObject, tracked.log ++ outcome.events answer⟩
  | .pop cdata frame =>
      let outcome := popFrame E (fun _ => cdata) tracked.object frame
      ⟨outcome.receiverObject, tracked.log ++ outcome.events⟩

/-! ## What every call keeps -/

/-- The invariant. -/
structure Tracked.Keeps (tracked : Tracked w) : Prop where
  oneSlot : tracked.object.rxbufRecv = none ∨ tracked.object.rxbufPop = none
  names : Ledger.acquired (references tracked.log) = List.range tracked.obtained
  settled : Ledger.settle 0 (references tracked.log) = some (tracked.object.slots : Multiset ℕ)
  taken : (takes tracked.log ++ tracked.object.rxbufRecv.toList).Nodup
  old : ∀ buffer ∈ takes tracked.log, buffer < tracked.obtained
  free : .occupied ∉ tracked.log
  closed : .queueClosed ∈ tracked.log → tracked.object.rxqueue = 0
  ordered : tracked.log.Pairwise fun earlier later => earlier = .queueClosed → later ≠ .useQueue

/-- A receiver as `InitMuxNetwork` leaves it. -/
structure TrackedAsNew (tracked : Tracked w) : Prop where
  rxbufRecv : tracked.object.rxbufRecv = none
  rxbufPop : tracked.object.rxbufPop = none
  log : tracked.log = []

theorem TrackedAsNew.keeps {tracked : Tracked w} (asNew : TrackedAsNew tracked) :
    tracked.Keeps where
  oneSlot := .inl asNew.rxbufRecv
  names := by simp [Tracked.obtained, asNew.log, references, Ledger.acquired]
  settled := by
    simp [MuxNetworkObject.slots, asNew.log, asNew.rxbufRecv, asNew.rxbufPop, references]
  taken := by simp [asNew.log, asNew.rxbufRecv, takes]
  old := by simp [asNew.log, takes]
  free := by simp [asNew.log]
  closed := by simp [asNew.log]
  ordered := by simp [asNew.log]

namespace Tracked.Keeps

variable {tracked : Tracked w}

/-- A buffer in a slot was obtained. -/
theorem lt_obtained (keeps : tracked.Keeps) {buffer : ℕ} (member : buffer ∈ tracked.object.slots) :
    buffer < tracked.obtained := by
  have same := Ledger.settle_conserves keeps.settled
  rw [Multiset.zero_add, keeps.names] at same
  have found : buffer ∈ (List.range tracked.obtained : Multiset ℕ) := by
    rw [same]
    exact Multiset.mem_add.mpr (.inl (Multiset.mem_coe.mpr member))
  exact List.mem_range.mp (Multiset.mem_coe.mp found)

/-- A buffer is released once at most, and not while it is in a slot. -/
theorem released (keeps : tracked.Keeps) :
    (Ledger.released (references tracked.log)).Nodup ∧
      ∀ buffer ∈ tracked.object.slots, buffer ∉ Ledger.released (references tracked.log) := by
  refine Ledger.released_nodup keeps.settled ?_
  rw [keeps.names]
  exact List.nodup_range

/-- The slots are released. -/
theorem release_slots (keeps : tracked.Keeps) :
    Tracked.Keeps ⟨tracked.object.released, tracked.log ++ releases tracked.object.slots⟩ where
  oneSlot := .inl rfl
  names := by simpa [Tracked.obtained] using keeps.names
  settled := by
    rw [references_append, references_releases, Ledger.settle_append, keeps.settled]
    exact Ledger.settle_releases tracked.object.slots
  taken := by simpa [MuxNetworkObject.released] using List.Nodup.of_append_left keeps.taken
  old := by simpa [Tracked.obtained] using keeps.old
  free := by
    rw [List.mem_append, not_or]
    refine ⟨keeps.free, ?_⟩
    intro member
    obtain ⟨_, same⟩ := eq_release_of_mem member
    cases same
  closed := by
    intro heard
    rcases List.mem_append.mp heard with earlier | member
    · exact keeps.closed earlier
    · obtain ⟨_, same⟩ := eq_release_of_mem member
      cases same
  ordered := by
    refine List.pairwise_append.mpr ⟨keeps.ordered, ?_, ?_⟩
    · refine List.pairwise_of_forall_mem_list ?_
      intro earlier member later _ closed
      obtain ⟨_, same⟩ := eq_release_of_mem member
      rw [closed] at same
      cases same
    · intro earlier _ later member _ used
      obtain ⟨_, same⟩ := eq_release_of_mem member
      rw [used] at same
      cases same

/-- An event that concerns no buffer. -/
theorem unbuffered (keeps : tracked.Keeps) {object : MuxNetworkObject w ℕ}
    (recv : object.rxbufRecv = tracked.object.rxbufRecv)
    (pop : object.rxbufPop = tracked.object.rxbufPop) {event : Event}
    (noReference : references [event] = []) (noTake : takes [event] = [])
    (free : event ≠ .occupied)
    (closed : .queueClosed ∈ tracked.log ++ [event] → object.rxqueue = 0)
    (used : event = .useQueue → .queueClosed ∉ tracked.log) :
    Tracked.Keeps ⟨object, tracked.log ++ [event]⟩ where
  oneSlot := by
    rw [recv, pop]
    exact keeps.oneSlot
  names := by
    rw [Tracked.obtained, references_append, noReference, List.append_nil]
    exact keeps.names
  settled := by
    rw [MuxNetworkObject.slots, references_append, noReference, List.append_nil, recv, pop]
    exact keeps.settled
  taken := by
    rw [takes_append, noTake, List.append_nil, recv]
    exact keeps.taken
  old := by
    rw [Tracked.obtained, takes_append, noTake, references_append, noReference, List.append_nil,
      List.append_nil]
    exact keeps.old
  free := by
    rw [List.mem_append, List.mem_singleton, not_or]
    exact ⟨keeps.free, free.symm⟩
  closed := closed
  ordered := by
    refine List.pairwise_append.mpr ⟨keeps.ordered, List.pairwise_singleton _ _, ?_⟩
    intro earlier member later last heard same
    rw [List.mem_singleton.mp last] at same
    rw [heard] at member
    exact used same member

/-- The queue is used while there is one. -/
theorem useQueue (keeps : tracked.Keeps) (queue : tracked.object.rxqueue ≠ 0) :
    Tracked.Keeps ⟨tracked.object, tracked.log ++ [.useQueue]⟩ := by
  have unheard : .queueClosed ∉ tracked.log := by
    intro heard
    exact queue (keeps.closed heard)
  refine keeps.unbuffered rfl rfl rfl rfl (by decide) ?_ (fun _ => unheard)
  intro heard
  rw [List.mem_append, List.mem_singleton] at heard
  rcases heard with earlier | same
  · exact absurd earlier unheard
  · cases same

/-- The queue answers that it is being destroyed, and is forgotten. -/
theorem close (keeps : tracked.Keeps) (disconnected : ℤ) :
    Tracked.Keeps ⟨{ tracked.object with rxqueue := 0, disconnected := disconnected },
      tracked.log ++ [.queueClosed]⟩ := by
  have recv : { tracked.object with rxqueue := 0, disconnected := disconnected }.rxbufRecv =
      tracked.object.rxbufRecv := rfl
  refine keeps.unbuffered recv rfl rfl rfl (show Event.queueClosed ≠ .occupied by decide)
    (fun _ => rfl) ?_
  intro same
  cases same

/-- A buffer is obtained into a free slot. -/
theorem obtain_buffer (keeps : tracked.Keeps) (recv : tracked.object.rxbufRecv = none)
    (pop : tracked.object.rxbufPop = none) :
    Tracked.Keeps ⟨{ tracked.object with rxbufRecv := some tracked.obtained },
      tracked.log ++ [.reference (.acquire tracked.obtained)]⟩ := by
  have entry : references [.reference (.acquire tracked.obtained)] =
      [.acquire tracked.obtained] := rfl
  have noTake : takes [.reference (.acquire tracked.obtained)] = [] := rfl
  have names := keeps.names
  have settled := keeps.settled
  have empty : tracked.object.slots = [] := by rw [MuxNetworkObject.slots, recv, pop]; rfl
  rw [empty] at settled
  have grown : Tracked.obtained (⟨{ tracked.object with rxbufRecv := some tracked.obtained },
      tracked.log ++ [.reference (.acquire tracked.obtained)]⟩ : Tracked w) =
        tracked.obtained + 1 := by
    rw [Tracked.obtained, references_append, entry, Ledger.acquired_append, List.length_append]
    rfl
  constructor
  · exact .inr pop
  · rw [grown, references_append, entry, Ledger.acquired_append, names, List.range_succ]
    rfl
  · rw [references_append, entry, Ledger.settle_append, settled]
    rw [MuxNetworkObject.slots, pop]
    rfl
  · rw [takes_append, noTake, List.append_nil]
    refine List.Nodup.append (List.Nodup.of_append_left keeps.taken) (List.nodup_singleton _) ?_
    intro buffer earlier last
    have here : buffer = tracked.obtained := by simpa using last
    rw [here] at earlier
    exact absurd (keeps.old _ earlier) (Nat.lt_irrefl _)
  · rw [grown, takes_append, noTake, List.append_nil]
    intro buffer earlier
    exact Nat.lt_succ_of_lt (keeps.old buffer earlier)
  · simpa using keeps.free
  · simpa using keeps.closed
  · refine List.pairwise_append.mpr ⟨keeps.ordered, List.pairwise_singleton _ _, ?_⟩
    simp

/-- What a call of `Receive` preserves. -/
theorem receive (keeps : tracked.Keeps) (answer : QueueAnswer Unit) :
    (tracked.next E (.receive answer)).Keeps := by
  have emptied := keeps.release_slots
  have same : Tracked.obtained (⟨tracked.object.released,
      tracked.log ++ releases tracked.object.slots ++ [.useQueue]⟩ : Tracked w) =
        tracked.obtained := by
    rw [Tracked.obtained, references_append, references_append, references_releases]
    simp [Tracked.obtained, references]
  simp only [Tracked.next]
  rcases receive_cases (answer.name tracked.obtained) tracked.object with
    ⟨_, outcome⟩ | ⟨queue, buffer, named, outcome⟩ | ⟨queue, which, disconnected, _, outcome⟩ |
      ⟨queue, which, outcome⟩
  · simpa [outcome, ReceiveOutcome.events] using emptied
  · have obtained := (emptied.useQueue queue).obtain_buffer rfl rfl
    rw [same] at obtained
    have number : buffer = tracked.obtained := by
      cases answer <;> simp_all [QueueAnswer.name]
    rw [named, number] at outcome
    simpa [outcome, named, number, ReceiveOutcome.events, QueueAnswer.events] using obtained
  · have closed := (emptied.useQueue queue).close disconnected
    have events : (answer.name tracked.obtained).events = [.queueClosed] := by
      rcases which with which | which
      · rw [which]; rfl
      · rw [which]; rfl
    simpa [outcome, ReceiveOutcome.events, events] using closed
  · have used := emptied.useQueue queue
    have events : (answer.name tracked.obtained).events = [] := by
      rw [which]
      rfl
    simpa [outcome, ReceiveOutcome.events, events] using used

/-- What a call of `PopFrame` preserves. -/
theorem pop (keeps : tracked.Keeps) (cdata : Option (Cdata w)) (frame : Frame w) :
    (tracked.next E (.pop cdata frame)).Keeps := by
  simp only [Tracked.next]
  rcases (popFrame_cases E (fun _ => cdata) frame :
      (tracked.object.rxbufRecv = none ∧ _) ∨ _) with
    ⟨nothing, outcome⟩ | ⟨buffer, received, present, outcome⟩ |
      ⟨buffer, received, free, result, filled, outcome⟩
  · simpa [outcome, PopOutcome.events] using keeps
  · rcases keeps.oneSlot with none | none
    · rw [none] at received
      cases received
    · exact absurd none present
  · have noReference : references [.take buffer] = [] := rfl
    have taken : takes [.take buffer] = [buffer] := rfl
    simp only [outcome, PopOutcome.events]
    constructor
    · exact .inl rfl
    · rw [Tracked.obtained, references_append, noReference, List.append_nil]
      exact keeps.names
    · rw [references_append, noReference, List.append_nil, keeps.settled]
      rw [MuxNetworkObject.slots, MuxNetworkObject.slots, received, free]
      rfl
    · have distinct := keeps.taken
      rw [received] at distinct
      simpa [takes_append, taken] using distinct
    · rw [takes_append, taken, Tracked.obtained, references_append, noReference, List.append_nil]
      intro other member
      rcases List.mem_append.mp member with earlier | last
      · exact keeps.old other earlier
      · rw [List.mem_singleton.mp last]
        exact keeps.lt_obtained (by simp [MuxNetworkObject.slots, received])
    · simpa using keeps.free
    · simpa using keeps.closed
    · refine List.pairwise_append.mpr ⟨keeps.ordered, List.pairwise_singleton _ _, ?_⟩
      simp

/-- **What one call preserves.** -/
theorem next (keeps : tracked.Keeps) (call : ReceiverCall w) : (tracked.next E call).Keeps := by
  cases call with
  | receive answer => exact keeps.receive E answer
  | pop cdata frame => exact keeps.pop E cdata frame

end Tracked.Keeps

/-! ## Runs -/

/-- A call of `PopFrame`. -/
def ReceiverCall.IsPop (_ : Tracked w) : ReceiverCall w → Prop
  | receive _ => False
  | pop _ _ => True

/-- A frame that is taken leaves its buffer in the second slot. -/
theorem popFrame_taken {getCdata : ℕ → Option (Cdata w)} {object : MuxNetworkObject w ℕ}
    {frame : Frame w} {buffer : ℕ}
    (popped : (popFrame E getCdata object frame).popped = some buffer) :
    (popFrame E getCdata object frame).receiverObject.rxbufRecv = none ∧
      (popFrame E getCdata object frame).receiverObject.rxbufPop = some buffer := by
  rcases (popFrame_cases E getCdata frame : (object.rxbufRecv = none ∧ _) ∨ _) with
    ⟨_, outcome⟩ | ⟨_, _, _, outcome⟩ | ⟨_, _, _, _, _, outcome⟩
  · rw [outcome] at popped
    cases popped
  · rw [outcome] at popped
    cases popped
  · rw [outcome] at popped ⊢
    exact ⟨rfl, popped⟩

/-- Without a received buffer `PopFrame` does nothing. -/
theorem next_pop_nothing {tracked : Tracked w} (nothing : tracked.object.rxbufRecv = none)
    (cdata : Option (Cdata w)) (frame : Frame w) : tracked.next E (.pop cdata frame) = tracked := by
  rw [Tracked.next, popFrame_none E _ frame nothing]
  simp [PopOutcome.events]

/-- A buffer that is in the second slot stays there while `PopFrame` is called. -/
theorem pops_keep {tracked after : Tracked w} (nothing : tracked.object.rxbufRecv = none)
    {calls : List (ReceiverCall w)}
    (run : Run (restrict ReceiverCall.IsPop (follows (Tracked.next E))) tracked calls after) :
    after = tracked := by
  refine Run.invariant (fun reached => reached = tracked) ?_ run rfl
  rintro before call reached rfl ⟨popping, rfl⟩
  cases call with
  | receive answer => exact popping.elim
  | pop cdata frame => exact next_pop_nothing E nothing cdata frame

/-- The buffers of a receiver are in good hands. -/
structure Tracked.Owned (tracked : Tracked w) : Prop where
  /-- One slot is free. -/
  oneSlot : tracked.object.rxbufRecv = none ∨ tracked.object.rxbufPop = none
  /-- Every buffer has a name of its own. -/
  names : Ledger.acquired (references tracked.log) = List.range tracked.obtained
  /-- Each release was of a buffer held then, and what is held is in the slots. -/
  settled : Ledger.settle 0 (references tracked.log) = some (tracked.object.slots : Multiset ℕ)
  takenOnce : (takes tracked.log).Nodup
  releasedOnce : (Ledger.released (references tracked.log)).Nodup
  /-- A buffer whose frame was taken is not released until the next `Receive`. -/
  exposed : ∀ cdata frame buffer,
    (popFrame E (fun _ => cdata) tracked.object frame).popped = some buffer →
      ∀ pops after,
        Run (restrict ReceiverCall.IsPop (follows (Tracked.next E)))
          (tracked.next E (.pop cdata frame)) pops after →
        after.object.rxbufPop = some buffer ∧
          buffer ∉ Ledger.released (references after.log)
  /-- The second slot was never found occupied. -/
  free : .occupied ∉ tracked.log
  /-- After the queue answered that it is being destroyed, it was not used. -/
  ordered : tracked.log.Pairwise fun earlier later => earlier = .queueClosed → later ≠ .useQueue

/-- **In every state that calls of `Receive` and `PopFrame` reach, whatever the queue answers,
the received buffers are in good hands.** -/
theorem owned_of_run {start tracked : Tracked w} (asNew : TrackedAsNew start)
    {calls : List (ReceiverCall w)} (run : Run (follows (Tracked.next E)) start calls tracked) :
    tracked.Owned E := by
  have keeps : tracked.Keeps := by
    refine Run.invariant Tracked.Keeps ?_ run asNew.keeps
    rintro before call after keeps rfl
    exact keeps.next E call
  refine ⟨keeps.oneSlot, keeps.names, keeps.settled, List.Nodup.of_append_left keeps.taken,
    keeps.released.1, ?_, keeps.free, keeps.ordered⟩
  intro cdata frame buffer popped pops after run
  obtain ⟨nothing, present⟩ := popFrame_taken E popped
  rw [pops_keep E nothing run]
  refine ⟨present, ?_⟩
  refine (keeps.pop E cdata frame).released.2 buffer ?_
  rw [MuxNetworkObject.slots, List.mem_append]
  exact .inr (Option.mem_toList.mpr present)

/-- A buffer is received and popped, and then the queue is destroyed. -/
theorem owned_of_run_closed :
    Tracked.Owned Endianness.littleEndianHost
      ((((Tracked.mk (newObject 1 2 : MuxNetworkObject 64 ℕ) []).next Endianness.littleEndianHost
        (.receive (.buffer ()))).next Endianness.littleEndianHost
          (.pop (some ⟨16, [1, 2, 3, 7, 0, 0, 0]⟩) (Frame.reset 64))).next
            Endianness.littleEndianHost (.receive .epipe)) :=
  owned_of_run Endianness.littleEndianHost ⟨rfl, rfl, rfl⟩
    (.cons rfl (.cons rfl (.single rfl)))

end MuxNetwork

end ARNetworkAL
