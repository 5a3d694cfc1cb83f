import ARNetworkAL.Library.Tally
import ARNetworkAL.Wifi.Shutdown

/-!
# The bandwidth between two statements

`Send` and `Receive` add to `bw_current` in threads of their own, while `BandwidthThread` copies
it to a slot and sets it to zero. No lock keeps them apart. Here an addition is a load and a
store, the thread makes one statement at a time, and all of them come in any order.

What is stored between the copy of a window and its end is never reported, and what was loaded
before the end of a window and is stored after it is reported twice. Nothing else goes wrong:
the slots always hold the windows that were copied, and these make up the bytes that were sent
or stored but for what is gone and what came back (`metered_of_run`).
-/

set_option autoImplicit false

namespace ARNetworkAL

open Library Function

namespace WifiNetwork

variable {w : ℕ} (E : Endianness)

/-! ## Additions -/

/-- What a `Send` adds to `bw_current`, if it gets there. -/
def sendAdds (answer : SocketSend) (senderObject : WifiNetworkObject w) : Option ℕ :=
  if senderObject.size = 0 then none
  else
    match answer with
    | .sent bytes => some bytes
    | .failed _ => none

/-- What a `Receive` adds to `bw_current`, if it gets there. -/
def receiveAdds (timeDiff : TimeDiff) (call : ReceiveCall) (receiverObject : WifiNetworkObject w)
    (senderObject : Option (WifiNetworkObject w)) : Option ℕ :=
  if (receive timeDiff call receiverObject senderObject).path = .read then
    match call.recvs.headD (.failed .eagain) with
    | .data [] => none
    | .data (byte :: bytes) => some (received (byte :: bytes)).length
    | .failed _ => none
  else none

theorem sendAdds_getD (answer : SocketSend) (senderObject : WifiNetworkObject w) :
    (sendAdds answer senderObject).getD 0 = sentBytes answer senderObject := by
  cases answer with
  | sent bytes =>
      simp only [sendAdds, sentBytes]
      split
      · rfl
      · rfl
  | failed err =>
      simp only [sendAdds, sentBytes]
      split
      · rfl
      · rfl

theorem receiveAdds_getD (timeDiff : TimeDiff) (call : ReceiveCall)
    (receiverObject : WifiNetworkObject w) (senderObject : Option (WifiNetworkObject w)) :
    (receiveAdds timeDiff call receiverObject senderObject).getD 0 =
      storedBytes timeDiff call receiverObject senderObject := by
  rw [receiveAdds, storedBytes]
  split
  · cases call.recvs.headD (.failed .eagain) with
    | data bytes =>
        cases bytes with
        | nil => rfl
        | cons byte bytes => rfl
    | failed err => rfl
  · rfl

/-- An object, `bw_current` as its thread has loaded it with the bytes to add, and the tally of
what is counted. -/
structure Metered (w : ℕ) where
  object : WifiNetworkObject w
  loaded : Option (UInt32 × ℕ)
  tally : Tally

/-- A call of the thread that counts, up to the load. It leaves `bw_current`, and is not over if
it adds to it. -/
def Metered.call (metered : Metered w) (after : WifiNetworkObject w) (adds : Option ℕ) :
    Option (Metered w) :=
  match metered.loaded, adds with
  | some _, _ => none
  | none, none => some { metered with object := after }
  | none, some bytes =>
      some
        { object := { after with bwCurrent := metered.object.bwCurrent }
          loaded := some (metered.object.bwCurrent, bytes)
          tally := metered.tally.load bytes }

/-- The store of the call that is under way. -/
def Metered.store (metered : Metered w) : Option (Metered w) :=
  metered.loaded.map fun (loaded, bytes) =>
    { object := { metered.object with bwCurrent := loaded + UInt32.ofNat bytes }
      loaded := none
      tally := metered.tally.store }

/-- A call begins when the one before is over. -/
theorem Metered.call_cases {metered called : Metered w} {after : WifiNetworkObject w}
    {adds : Option ℕ} (taken : metered.call after adds = some called) :
    (metered.loaded = none ∧ adds = none ∧ called = { metered with object := after }) ∨
      ∃ bytes, metered.loaded = none ∧ adds = some bytes ∧
        called =
          { object := { after with bwCurrent := metered.object.bwCurrent }
            loaded := some (metered.object.bwCurrent, bytes)
            tally := metered.tally.load bytes } := by
  unfold call at taken
  split at taken
  · cases taken
  · rename_i idle
    cases taken
    exact .inl ⟨idle, rfl, rfl⟩
  · rename_i bytes idle
    cases taken
    exact .inr ⟨bytes, idle, rfl, rfl⟩

/-- **A call whose store follows its load does what it does in one step.** -/
theorem Metered.call_alone {metered called : Metered w} {after : WifiNetworkObject w}
    {adds : Option ℕ}
    (current : after.bwCurrent = metered.object.bwCurrent + UInt32.ofNat (adds.getD 0))
    (taken : metered.call after adds = some called) :
    called.object = after ∧ called.loaded = none ∨
      ∃ stored, called.store = some stored ∧ stored.object = after ∧ stored.loaded = none := by
  rcases call_cases taken with ⟨idle, rfl, rfl⟩ | ⟨bytes, idle, rfl, rfl⟩
  · exact .inl ⟨rfl, idle⟩
  · refine .inr ⟨_, rfl, ?_, rfl⟩
    rw [Option.getD_some] at current
    simp only [← current]

/-! ## Steps -/

/-- The statement after another one on the same object. -/
def TurnStatement.follower : TurnStatement → Option TurnStatement
  | increment => some wrap
  | wrap => some store
  | store => some clear
  | clear => none

/-- What a statement of the thread does to the tally of its object. -/
def TurnStatement.count : TurnStatement → Tally → Tally
  | increment, tally => tally
  | wrap, tally => tally
  | store, tally => tally.copy
  | clear, tally => tally.clear

/-- What the next step of the thread does to the tally of the object that it accesses. -/
def ThreadPoint.count : ThreadPoint → Tally → Tally
  | turn _ statement, tally => statement.count tally
  | _, tally => tally

/-- The two objects and the thread. -/
structure Metering (w : ℕ) where
  sides : Side → Metered w
  thread : ThreadPoint

/-- A call up to its load, with what the operating system answers, a store, or a step of the
thread. -/
inductive MeteringAction (w : ℕ) where
  | pushFrame (caller : Mem UInt8) (answer : OutqAnswer) (frame : Frame w)
  | popFrame
  | send (answer : SocketSend)
  | receive (call : ReceiveCall)
  | store (side : Side)
  | bandwidthThread

namespace Metering

/-- The thread has loaded the two pointers, and nothing was counted yet. -/
def fresh (senderObject receiverObject : WifiNetworkObject w) : Metering w where
  sides
    | .sender => ⟨senderObject, none, .fresh⟩
    | .receiver => ⟨receiverObject, none, .fresh⟩
  thread := .waitRunning .sender

/-- One side is changed. -/
def setSide (s : Metering w) (side : Side) (metered : Metered w) : Metering w :=
  { s with sides := update s.sides side metered }

/-- The next step of the thread. -/
def threadNext (s : Metering w) : Option (Metering w) :=
  s.thread.accesses.bind fun side =>
    (s.thread.execute (s.sides side).object).map fun (object, after) =>
      { s.setSide side
          { s.sides side with object := object, tally := s.thread.count (s.sides side).tally } with
        thread := after }

/-- The state after a step, if it is possible. -/
def next (timeDiff : TimeDiff) (s : Metering w) : MeteringAction w → Option (Metering w)
  | .pushFrame caller answer frame =>
      ((s.sides .sender).call
        (WifiNetwork.pushFrame E caller answer (s.sides .sender).object frame).senderObject
        none).map (s.setSide .sender)
  | .popFrame =>
      ((s.sides .receiver).call (WifiNetwork.popFrame E (s.sides .receiver).object).receiverObject
        none).map (s.setSide .receiver)
  | .send answer =>
      ((s.sides .sender).call
        (WifiNetwork.send answer (s.sides .sender).object
          (some (s.sides .receiver).object)).senderObject
        (sendAdds answer (s.sides .sender).object)).map (s.setSide .sender)
  | .receive call =>
      ((s.sides .receiver).call
        (WifiNetwork.receive timeDiff call (s.sides .receiver).object
          (some (s.sides .sender).object)).receiverObject
        (receiveAdds timeDiff call (s.sides .receiver).object
          (some (s.sides .sender).object))).map (s.setSide .receiver)
  | .store side => (s.sides side).store.map (s.setSide side)
  | .bandwidthThread => s.threadNext

end Metering

/-! ## What is counted -/

/-- The next statement on an object, if the thread is in a turn on it. -/
def ThreadPoint.on (side : Side) : ThreadPoint → Option TurnStatement
  | turn there statement => if there = side then some statement else none
  | _ => none

/-- `bw_index` before a statement, by that of the slot that was written last. -/
def indexBefore : Option TurnStatement → ℤ → ℤ
  | some .wrap, index => index + 1
  | some .store, index => (index + 1).tmod bwNbElems
  | _, index => index

/-- The counter of an object is that of its tally, and its slots hold the latest ten of the
windows that were copied, before a statement of the thread. -/
structure Metered.Keeps (metered : Metered w) (statement : Option TurnStatement) : Prop where
  pending : metered.loaded = metered.tally.pending.map fun addition =>
    (UInt32.ofNat addition.loaded, addition.amount)
  copied : metered.tally.copied ≠ none ↔ statement = some .clear
  sound : metered.tally.Sound
  counts : ∃ index, metered.object.bwIndex = indexBefore statement index ∧
    Counts { metered.object with bwIndex := index }
      ⟨metered.tally.closed, metered.tally.current⟩

/-- Another count of the open window. -/
theorem Counts.recount {object after : WifiNetworkObject w} {windows : Windows}
    (counts : Counts object windows) {count : ℕ} (index : after.bwIndex = object.bwIndex)
    (elements : after.bwElements = object.bwElements)
    (current : after.bwCurrent = UInt32.ofNat count) :
    Counts after { windows with current := count } where
  current := current
  slots := by
    rw [index, elements]
    exact counts.slots

namespace Metered.Keeps

variable {metered called : Metered w} {statement : Option TurnStatement}

/-- **A call keeps the count up to its load.** -/
theorem call (keeps : metered.Keeps statement) {after : WifiNetworkObject w} {adds : Option ℕ}
    (index : after.bwIndex = metered.object.bwIndex)
    (elements : after.bwElements = metered.object.bwElements)
    (current : after.bwCurrent = metered.object.bwCurrent + UInt32.ofNat (adds.getD 0))
    (taken : metered.call after adds = some called) : called.Keeps statement := by
  obtain ⟨pending, copied, sound, slot, here, counts⟩ := keeps
  have same : metered.object.bwCurrent = UInt32.ofNat metered.tally.current := counts.current
  rcases Metered.call_cases taken with ⟨-, rfl, rfl⟩ | ⟨bytes, -, rfl, rfl⟩
  · refine ⟨pending, copied, sound, slot, index.trans here, counts.recount rfl elements ?_⟩
    rw [current, Option.getD_none, ← same]
    simp
  · refine ⟨?_, copied, sound.load _, slot, index.trans here, counts.recount rfl elements same⟩
    simp only [Tally.load, Option.map_some, ← same]

/-- **A store keeps the count.** -/
theorem store (keeps : metered.Keeps statement) (taken : metered.store = some called) :
    called.Keeps statement := by
  obtain ⟨pending, copied, sound, slot, here, counts⟩ := keeps
  obtain ⟨⟨loaded, bytes⟩, under, rfl⟩ := Option.map_eq_some_iff.mp taken
  rw [pending] at under
  obtain ⟨addition, found, parts⟩ := Option.map_eq_some_iff.mp under
  cases parts
  have kept := sound.store
  simp only [Tally.store, found] at kept ⊢
  exact ⟨rfl, copied, kept, slot, here, counts.recount rfl rfl (UInt32.ofNat_add _ _).symm⟩

/-- **A statement of the thread keeps the count.** -/
theorem turn {statement : TurnStatement} (keeps : metered.Keeps (some statement)) :
    Metered.Keeps ⟨statement.apply metered.object, metered.loaded,
      statement.count metered.tally⟩ statement.follower := by
  obtain ⟨pending, copied, sound, slot, here, counts⟩ := keeps
  cases statement with
  | increment =>
      refine ⟨pending, by simpa [TurnStatement.follower, TurnStatement.count] using copied,
        sound, slot, ?_, counts⟩
      simp only [TurnStatement.apply, TurnStatement.follower, indexBefore, here]
  | wrap =>
      refine ⟨pending, by simpa [TurnStatement.follower, TurnStatement.count] using copied,
        sound, slot, ?_, counts⟩
      simp only [TurnStatement.apply, TurnStatement.follower, indexBefore, here]
  | store =>
      have idle : metered.tally.copied = none := by simpa using copied
      refine ⟨pending, by simp [TurnStatement.count, Tally.copy, TurnStatement.follower],
        sound.copy idle, metered.object.bwIndex, rfl, ?_⟩
      refine counts.closeWindow.recount here ?_ counts.current
      rw [TurnStatement.apply, here]
      rfl
  | clear =>
      obtain ⟨value, there⟩ := Option.ne_none_iff_exists'.mp (copied.mpr rfl)
      have kept := sound.clear
      simp only [TurnStatement.count, Tally.clear, there] at kept ⊢
      refine ⟨?_, by simp [TurnStatement.follower], kept, slot, here, counts.recount rfl rfl rfl⟩
      rw [pending, Option.map_map]
      rfl

/-- A turn on an object begins. -/
theorem begins : metered.Keeps none ↔ metered.Keeps (some .increment) := by
  constructor
  · rintro ⟨pending, copied, sound, counts⟩
    exact ⟨pending, by simpa using copied, sound, counts⟩
  · rintro ⟨pending, copied, sound, counts⟩
    exact ⟨pending, by simpa using copied, sound, counts⟩

/-- Other fields do not matter. -/
theorem same (keeps : metered.Keeps statement) {after : WifiNetworkObject w}
    (index : after.bwIndex = metered.object.bwIndex)
    (elements : after.bwElements = metered.object.bwElements)
    (current : after.bwCurrent = metered.object.bwCurrent) :
    Metered.Keeps { metered with object := after } statement := by
  obtain ⟨pending, copied, sound, slot, here, counts⟩ := keeps
  exact ⟨pending, copied, sound, slot, index.trans here,
    counts.recount rfl elements (current.trans counts.current)⟩

end Metered.Keeps

/-! ## Steps and runs -/

/-- A step of the thread is a statement of a turn, or leaves what is counted where no turn is
under way. -/
theorem ThreadPoint.execute_cases {point after : ThreadPoint} {side : Side}
    {object changed : WifiNetworkObject w} (accessed : point.accesses = some side)
    (executed : point.execute object = some (changed, after)) :
    (∃ statement, point = .turn side statement ∧ changed = statement.apply object ∧
      after = statement.after side) ∨
    ((∀ other, point.on other = none ∧
        (after.on other = none ∨ after.on other = some .increment)) ∧
      (∀ tally, point.count tally = tally) ∧ changed.bwIndex = object.bwIndex ∧
      changed.bwElements = object.bwElements ∧ changed.bwCurrent = object.bwCurrent) := by
  cases point with
  | load there => cases accessed
  | returned => cases accessed
  | waitRunning there =>
      obtain ⟨count, -, same⟩ := Option.map_eq_some_iff.mp executed
      cases same
      refine .inr ⟨fun other => ⟨rfl, .inl ?_⟩, fun _ => rfl, rfl, rfl, rfl⟩
      cases there with
      | sender => rfl
      | receiver => rfl
  | timedwait =>
      simp only [execute] at executed
      split at executed
      · cases executed
        exact .inr ⟨fun other => ⟨rfl, .inl rfl⟩, fun _ => rfl, rfl, rfl, rfl⟩
      · cases executed
        refine .inr ⟨fun other => ⟨rfl, ?_⟩, fun _ => rfl, rfl, rfl, rfl⟩
        cases other with
        | sender => exact .inr rfl
        | receiver => exact .inl rfl
  | turn there statement =>
      cases accessed
      cases executed
      exact .inl ⟨statement, rfl, rfl, rfl⟩
  | postRunning there =>
      cases executed
      refine .inr ⟨fun other => ⟨rfl, .inl ?_⟩, fun _ => rfl, rfl, rfl, rfl⟩
      cases there with
      | sender => rfl
      | receiver => rfl

/-- The thread goes on with the same object, or is between two turns on it. -/
theorem TurnStatement.on_after (statement : TurnStatement) (side : Side) :
    (statement.after side).on side = statement.follower := by
  cases statement with
  | increment => exact if_pos rfl
  | wrap => exact if_pos rfl
  | store => exact if_pos rfl
  | clear =>
      cases side with
      | sender => rfl
      | receiver => rfl

/-- The other object has no turn, or one that is about to begin. -/
theorem TurnStatement.on_other (statement : TurnStatement) {side other : Side}
    (apart : other ≠ side) : (statement.after side).on other = none ∨
      (statement.after side).on other = some .increment := by
  cases statement with
  | increment => exact .inl (if_neg (Ne.symm apart))
  | wrap => exact .inl (if_neg (Ne.symm apart))
  | store => exact .inl (if_neg (Ne.symm apart))
  | clear =>
      cases side with
      | receiver => exact .inl rfl
      | sender =>
          cases other with
          | sender => exact absurd rfl apart
          | receiver => exact .inr rfl

namespace Metering

/-- Both sides are counted. -/
def Keeps (s : Metering w) : Prop := ∀ side, (s.sides side).Keeps (s.thread.on side)

section

variable {s after : Metering w}

@[simp] theorem sides_setSide_self (side : Side) (metered : Metered w) :
    (s.setSide side metered).sides side = metered := update_self _ _ _

theorem sides_setSide_other {side other : Side} (apart : other ≠ side) (metered : Metered w) :
    (s.setSide side metered).sides other = s.sides other := update_of_ne apart _ _

/-- A call that is left alone does what it does in one step. -/
theorem alone {timeDiff : TimeDiff} {side : Side} {object : WifiNetworkObject w}
    {adds : Option ℕ}
    (current : object.bwCurrent = (s.sides side).object.bwCurrent + UInt32.ofNat (adds.getD 0))
    (taken : ((s.sides side).call object adds).map (s.setSide side) = some after) :
    (after.sides side).object = object ∧ (after.sides side).loaded = none ∨
      ∃ stored, after.next E timeDiff (.store side) = some stored ∧
        (stored.sides side).object = object ∧ (stored.sides side).loaded = none := by
  obtain ⟨called, there, rfl⟩ := Option.map_eq_some_iff.mp taken
  rcases Metered.call_alone current there with done | ⟨stored, taken, done⟩
  · rw [sides_setSide_self]
    exact .inl done
  · refine .inr ⟨(s.setSide side called).setSide side stored, ?_, ?_⟩
    · rw [next, sides_setSide_self, taken, Option.map_some]
    · rw [sides_setSide_self]
      exact done

/-- **A `Send` that is left alone is `send`.** -/
theorem send_alone {timeDiff : TimeDiff} {answer : SocketSend}
    (taken : s.next E timeDiff (.send answer) = some after) :
    let object := (WifiNetwork.send answer (s.sides .sender).object
      (some (s.sides .receiver).object)).senderObject
    (after.sides .sender).object = object ∧ (after.sides .sender).loaded = none ∨
      ∃ stored, after.next E timeDiff (.store .sender) = some stored ∧
        (stored.sides .sender).object = object ∧ (stored.sides .sender).loaded = none := by
  obtain ⟨-, -, current⟩ :=
    send_measure (s.sides .sender).object answer (some (s.sides .receiver).object)
  rw [← sendAdds_getD] at current
  exact alone E current taken

/-- **A `Receive` that is left alone is `receive`.** -/
theorem receive_alone {timeDiff : TimeDiff} {call : ReceiveCall}
    (taken : s.next E timeDiff (.receive call) = some after) :
    let object := (WifiNetwork.receive timeDiff call (s.sides .receiver).object
      (some (s.sides .sender).object)).receiverObject
    (after.sides .receiver).object = object ∧ (after.sides .receiver).loaded = none ∨
      ∃ stored, after.next E timeDiff (.store .receiver) = some stored ∧
        (stored.sides .receiver).object = object ∧ (stored.sides .receiver).loaded = none := by
  obtain ⟨-, -, current⟩ :=
    receive_measure (s.sides .receiver).object timeDiff call (some (s.sides .sender).object)
  rw [← receiveAdds_getD] at current
  exact alone E current taken

/-- A step of one side keeps the count if it does so on that side. -/
theorem Keeps.setSide (keeps : s.Keeps) {side : Side} {stepped : Option (Metered w)}
    (here : ∀ metered, stepped = some metered → metered.Keeps (s.thread.on side))
    (taken : stepped.map (s.setSide side) = some after) : after.Keeps := by
  obtain ⟨metered, there, rfl⟩ := Option.map_eq_some_iff.mp taken
  intro other
  by_cases same : other = side
  · subst same
    rw [sides_setSide_self]
    exact here metered there
  · rw [sides_setSide_other same]
    exact keeps other

/-- **A step of the thread keeps the count.** -/
theorem Keeps.threadNext (keeps : s.Keeps) (taken : s.threadNext = some after) :
    after.Keeps := by
  obtain ⟨side, accessed, taken⟩ := Option.bind_eq_some_iff.mp taken
  obtain ⟨⟨changed, point⟩, executed, rfl⟩ := Option.map_eq_some_iff.mp taken
  have resting : ∀ {metered : Metered w} {statement : Option TurnStatement},
      metered.Keeps none → statement = none ∨ statement = some .increment →
        metered.Keeps statement := by
    intro metered statement kept rests
    rcases rests with rfl | rfl
    · exact kept
    · exact Metered.Keeps.begins.mp kept
  rcases ThreadPoint.execute_cases accessed executed with
    ⟨statement, here, rfl, rfl⟩ | ⟨idle, counted, index, elements, current⟩
  · intro other
    by_cases same : other = side
    · subst same
      have kept := keeps other
      rw [here, ThreadPoint.on, if_pos rfl] at kept
      simp only [here, ThreadPoint.count, sides_setSide_self, TurnStatement.on_after]
      exact kept.turn
    · have kept := keeps other
      rw [here, ThreadPoint.on, if_neg (Ne.symm same)] at kept
      simp only [sides_setSide_other same]
      exact resting kept (statement.on_other same)
  · intro other
    obtain ⟨before, rests⟩ := idle other
    have kept := keeps other
    rw [before] at kept
    by_cases same : other = side
    · subst same
      simp only [sides_setSide_self, counted]
      exact resting (kept.same index elements current) rests
    · simp only [sides_setSide_other same]
      exact resting kept rests

/-- **Every step keeps the count.** -/
theorem Keeps.next {timeDiff : TimeDiff} {action : MeteringAction w} (keeps : s.Keeps)
    (taken : s.next E timeDiff action = some after) : after.Keeps := by
  have nothing (current : UInt32) :
      current = current + UInt32.ofNat ((none : Option ℕ).getD 0) := by simp
  cases action with
  | pushFrame caller answer frame =>
      obtain ⟨index, elements, current⟩ :=
        pushFrame_measure E (s.sides .sender).object caller answer frame
      exact keeps.setSide (fun _ => (keeps .sender).call index elements
        (current.trans (nothing _))) taken
  | popFrame =>
      obtain ⟨index, elements, current⟩ := popFrame_measure E (s.sides .receiver).object
      exact keeps.setSide (fun _ => (keeps .receiver).call index elements
        (current.trans (nothing _))) taken
  | send answer =>
      obtain ⟨index, elements, current⟩ :=
        send_measure (s.sides .sender).object answer (some (s.sides .receiver).object)
      rw [← sendAdds_getD] at current
      exact keeps.setSide (fun _ => (keeps .sender).call index elements current) taken
  | receive call =>
      obtain ⟨index, elements, current⟩ :=
        receive_measure (s.sides .receiver).object timeDiff call (some (s.sides .sender).object)
      rw [← receiveAdds_getD] at current
      exact keeps.setSide (fun _ => (keeps .receiver).call index elements current) taken
  | store side => exact keeps.setSide (fun _ => (keeps side).store) taken
  | bandwidthThread => exact keeps.threadNext taken

/-! ## What goes wrong -/

/-- A step makes the count of a side wrong: it stores what was loaded in a window that is over,
or ends a window to which something was stored since it was copied. -/
def Overlaps (side : Side) (s : Metering w) : MeteringAction w → Prop
  | .store there => there = side ∧ (s.sides there).tally.Revives
  | .bandwidthThread => s.thread = .turn side .clear ∧ (s.sides side).tally.Drops
  | _ => False

/-- A step of one side, by what it does to the tally there. -/
theorem inexact_setSide {side there : Side} {stepped : Option (Metered w)} {overlaps : Prop}
    (here : ∀ metered, stepped = some metered →
      (metered.tally.Inexact ↔ (s.sides there).tally.Inexact ∨ overlaps))
    (taken : stepped.map (s.setSide there) = some after) :
    (after.sides side).tally.Inexact ↔
      (s.sides side).tally.Inexact ∨ there = side ∧ overlaps := by
  obtain ⟨metered, found, rfl⟩ := Option.map_eq_some_iff.mp taken
  by_cases same : side = there
  · subst same
    rw [sides_setSide_self, here metered found, and_iff_right rfl]
  · rw [sides_setSide_other same]
    simp [Ne.symm same]

/-- Up to its load a call does nothing wrong. -/
theorem inexact_call {metered called : Metered w} {object : WifiNetworkObject w}
    {adds : Option ℕ} (taken : metered.call object adds = some called) :
    called.tally.Inexact ↔ metered.tally.Inexact ∨ False := by
  rw [or_false]
  rcases Metered.call_cases taken with ⟨-, -, rfl⟩ | ⟨bytes, -, -, rfl⟩
  · exact Iff.rfl
  · exact Iff.rfl

theorem inexact_count (statement : TurnStatement) (tally : Tally) :
    (statement.count tally).Inexact ↔ tally.Inexact ∨ statement = .clear ∧ tally.Drops := by
  cases statement with
  | increment => simp [TurnStatement.count]
  | wrap => simp [TurnStatement.count]
  | store => simp [TurnStatement.count, Tally.copy, Tally.Inexact]
  | clear => simp [TurnStatement.count, Tally.inexact_clear]

theorem inexact_threadCount (point : ThreadPoint) (tally : Tally) :
    (point.count tally).Inexact ↔
      tally.Inexact ∨ (∃ side, point = .turn side .clear) ∧ tally.Drops := by
  cases point with
  | turn side statement => simp [ThreadPoint.count, inexact_count]
  | load side => simp [ThreadPoint.count]
  | waitRunning side => simp [ThreadPoint.count]
  | timedwait => simp [ThreadPoint.count]
  | postRunning side => simp [ThreadPoint.count]
  | returned => simp [ThreadPoint.count]

/-- **A step makes a side inexact exactly if it overlaps there.** -/
theorem inexact_next {timeDiff : TimeDiff} {action : MeteringAction w} (side : Side)
    (taken : s.next E timeDiff action = some after) :
    (after.sides side).tally.Inexact ↔
      (s.sides side).tally.Inexact ∨ s.Overlaps side action := by
  have harmless {there : Side} {stepped : Option (Metered w)}
      (here : ∀ metered, stepped = some metered →
        (metered.tally.Inexact ↔ (s.sides there).tally.Inexact ∨ False))
      (taken : stepped.map (s.setSide there) = some after) :
      (after.sides side).tally.Inexact ↔ (s.sides side).tally.Inexact ∨ False := by
    rw [inexact_setSide here taken, and_false]
  cases action with
  | pushFrame caller answer frame => exact harmless (fun _ => inexact_call) taken
  | popFrame => exact harmless (fun _ => inexact_call) taken
  | send answer => exact harmless (fun _ => inexact_call) taken
  | receive call => exact harmless (fun _ => inexact_call) taken
  | store there =>
      refine inexact_setSide ?_ taken
      intro metered stored
      obtain ⟨_, -, rfl⟩ := Option.map_eq_some_iff.mp stored
      exact Tally.inexact_store
  | bandwidthThread =>
      obtain ⟨there, accessed, taken⟩ := Option.bind_eq_some_iff.mp taken
      obtain ⟨⟨changed, point⟩, -, rfl⟩ := Option.map_eq_some_iff.mp taken
      by_cases same : side = there
      · subst same
        have clears : (∃ other, s.thread = .turn other .clear) ↔ s.thread = .turn side .clear := by
          constructor
          · rintro ⟨other, here⟩
            rw [here] at accessed ⊢
            cases accessed
            rfl
          · exact fun here => ⟨side, here⟩
        simp only [sides_setSide_self, inexact_threadCount, clears, Overlaps]
      · have elsewhere : s.thread ≠ .turn side .clear := by
          intro here
          rw [here] at accessed
          cases accessed
          exact same rfl
        simp only [sides_setSide_other same, Overlaps, elsewhere, false_and, or_false]

/-- One of the steps from a state on overlaps on a side. -/
def Overlapped (timeDiff : TimeDiff) (side : Side) (start : Metering w)
    (actions : List (MeteringAction w)) : Prop :=
  ∃ before action after u, actions = before ++ action :: after ∧
    Run (enabled (next E timeDiff)) start before u ∧ u.Overlaps side action

/-- **While the thread and the two others come in any order, the slots hold the windows that
were copied**, whose averages `GetBandwidth` reports. Together with the open window and what is
gone these make up what was added and what came back; a window that was copied and is not over
is there twice. Nothing is gone and nothing came back exactly if no step overlapped. -/
theorem metered_of_run {timeDiff : TimeDiff} {rawSender rawReceiver : WifiNetworkObject w}
    {sendingBuffer receivingBuffer : BitVec w} {sendingSocket receivingSocket : ℤ}
    {sendingFifo receivingFifo : ℤ × ℤ} {sndbuf : ℤ} {timeoutSec : UInt32}
    {actions : List (MeteringAction w)} {start reached : Metering w}
    (opened : start = fresh
      ((newSender rawSender sendingBuffer).connected sendingSocket sendingFifo sndbuf)
      ((newReceiver rawReceiver receivingBuffer).bound receivingSocket receivingFifo timeoutSec))
    (run : Run (enabled (next E timeDiff)) start actions reached) (side : Side) :
    let object := (reached.sides side).object
    let tally := (reached.sides side).tally
    Averages (elementsBandwidth object) (tally.closed.take bwNbElems) ∧
      object.bwCurrent = UInt32.ofNat tally.current ∧
      tally.closed.sum + tally.current + tally.lost =
        tally.added + tally.again + tally.copied.getD 0 ∧
      (tally.lost = 0 ∧ tally.again = 0 ↔ ¬ Overlapped E timeDiff side start actions) := by
  have initial : start.Keeps := by
    subst opened
    intro side
    cases side with
    | sender =>
        exact ⟨rfl, by simp [fresh, Tally.fresh, ThreadPoint.on], Tally.sound_fresh, 0, rfl,
          .of_new rfl rfl rfl⟩
    | receiver =>
        exact ⟨rfl, by simp [fresh, Tally.fresh, ThreadPoint.on], Tally.sound_fresh, 0, rfl,
          .of_new rfl rfl rfl⟩
  have exact : ¬ (start.sides side).tally.Inexact := by
    subst opened
    cases side with
    | sender => simp [fresh, Tally.fresh, Tally.Inexact]
    | receiver => simp [fresh, Tally.fresh, Tally.Inexact]
  obtain ⟨-, -, sound, _, -, counts⟩ :=
    run.invariant Keeps (fun _ _ _ keeps taken => keeps.next E taken) initial side
  have overlapped : (reached.sides side).tally.Inexact ↔ Overlapped E timeDiff side start actions :=
    (run.holds_iff_of_enabled fun _ _ _ taken => inexact_next E side taken).trans
      (or_iff_right exact)
  refine ⟨counts.averages, counts.current, sound.balance, ?_⟩
  rw [← overlapped, Tally.Inexact, not_or, not_not, not_not]

/-- A second `Send` stores after the window was copied, and the thread ends the window. -/
def overlappingActions : List (MeteringAction 64) :=
  let frame : Frame 64 := ⟨2, 10, 0, 47, 0⟩
  [.pushFrame (fun _ => 0) (.failed .enxio) frame, .send (.sent 47), .store .sender] ++
    List.replicate 6 .bandwidthThread ++
    [.pushFrame (fun _ => 0) (.failed .enxio) frame, .send (.sent 47), .store .sender,
      .bandwidthThread]

/-- Where they start. -/
def overlappingStart : Metering 64 :=
  fresh ((newSender (.cleared 64) fourGiB).connected 3 (4, 5) 212992) newAtFourGiB

/-- Where they lead. -/
def overlapping : Metering 64 :=
  (overlappingActions.foldlM (next .littleEndianHost exactDiff) overlappingStart).get rfl

/-- The 47 bytes of the second `Send` are in no window. -/
example : (overlapping.sides .sender).tally = ⟨0, none, none, [47], 94, 47, 0⟩ := rfl

theorem metered_of_run_overlapping :
    let object := (overlapping.sides .sender).object
    let tally := (overlapping.sides .sender).tally
    Averages (elementsBandwidth object) (tally.closed.take bwNbElems) ∧
      object.bwCurrent = UInt32.ofNat tally.current ∧
      tally.closed.sum + tally.current + tally.lost =
        tally.added + tally.again + tally.copied.getD 0 ∧
      (tally.lost = 0 ∧ tally.again = 0 ↔
        ¬ Overlapped .littleEndianHost exactDiff .sender overlappingStart overlappingActions) :=
  metered_of_run .littleEndianHost rfl (Run.enabled_iff.mpr (Option.some_get _).symm) .sender

end

end Metering

end WifiNetwork

end ARNetworkAL
