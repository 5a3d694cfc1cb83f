import ARNetworkAL.Library.Semaphore
import ARNetworkAL.Manager.Resources
import ARNetworkAL.Wifi.Bandwidth

/-!
# The thread and the end of the network

`BandwidthThread` takes `bw_threadRunning` of both objects, wakes once a second until it can
take `bw_sem` of the sender, and gives the two back in the other order. `Delete` posts `bw_sem`
of an object, takes its `bw_threadRunning`, and frees it; first the sender, then the receiver.

`Shutdown` is both of them at work on the two objects of a manager, each at a program point of
its own. A step is one operation on a semaphore, one other statement on an object, a load or a
store of a pointer of the manager, or one of the two calls of `free`.

A thread that is left alone does in nine steps what a turn of the loop does (`tick_run`). What
can go wrong between the two is the subject of the handshake.
-/

set_option autoImplicit false

namespace ARNetworkAL

open Library Function

namespace WifiNetwork

variable {w : ℕ}

/-- The two objects of a manager. -/
inductive Side where
  | sender
  | receiver
  deriving DecidableEq, Repr

/-! ## Program points -/

/-- A statement of the body of the loop in `BandwidthThread`, on one object. -/
inductive TurnStatement where
  | increment
  | wrap
  | store
  | clear
  deriving DecidableEq, Repr

/-- Where `ARNETWORKAL_WifiNetwork_BandwidthThread` is: what it does next. -/
inductive ThreadPoint where
  | load (side : Side)
  | waitRunning (side : Side)
  | timedwait
  | turn (side : Side) (statement : TurnStatement)
  | postRunning (side : Side)
  | returned
  deriving DecidableEq, Repr

/-- Where `ARNETWORKAL_WifiNetwork_Delete` is: what it does next. -/
inductive DeletePoint where
  | test (side : Side)
  | closeSocket (side : Side)
  | closeFifo (side : Side)
  | freeBuffer (side : Side)
  | postSem (side : Side)
  | waitRunning (side : Side)
  | destroy (side : Side) (name : SemaphoreName)
  | free (side : Side)
  | setNull (side : Side)
  | returned
  deriving DecidableEq, Repr

/-- An object until it is freed, and whether the pointer of the manager still leads to it. -/
structure Slot (w : ℕ) where
  object : Option (WifiNetworkObject w)
  pointer : Bool

/-- The objects, the thread with its two pointers, and `Delete`. A pointer is `false` if it is
null. -/
structure Shutdown (w : ℕ) where
  slots : Side → Slot w
  thread : ThreadPoint
  locals : Side → Bool
  delete : DeletePoint

/-- The thread, or the caller of `CloseWifiNetwork`. -/
inductive Process where
  | bandwidthThread
  | closeWifiNetwork
  deriving DecidableEq, Repr

/-! ## Steps -/

namespace TurnStatement

/-- What a statement does to its object. -/
def apply (object : WifiNetworkObject w) : TurnStatement → WifiNetworkObject w
  | increment => { object with bwIndex := object.bwIndex + 1 }
  | wrap => { object with bwIndex := object.bwIndex.tmod bwNbElems }
  | store =>
      { object with bwElements := object.bwElements.set object.bwIndex.toNat object.bwCurrent }
  | clear => { object with bwCurrent := 0 }

/-- Where the thread is after a statement. -/
def after : Side → TurnStatement → ThreadPoint
  | side, increment => .turn side wrap
  | side, wrap => .turn side store
  | side, store => .turn side clear
  | .sender, clear => .turn .receiver increment
  | .receiver, clear => .timedwait

end TurnStatement

namespace ThreadPoint

/-- The object that the next statement accesses. -/
def accesses : ThreadPoint → Option Side
  | load _ => none
  | waitRunning side => some side
  | timedwait => some .sender
  | turn side _ => some side
  | postRunning side => some side
  | returned => none

/-- The next statement on its object, and where the thread is after it. It is none if the
thread has to wait, or accesses nothing. -/
def execute (object : WifiNetworkObject w) :
    ThreadPoint → Option (WifiNetworkObject w × ThreadPoint)
  | load _ => none
  | waitRunning side =>
      (Semaphore.wait object.bwThreadRunning).map fun count =>
        ({ object with bwThreadRunning := count },
          match side with
          | .sender => waitRunning .receiver
          | .receiver => timedwait)
  | timedwait =>
      match Semaphore.wait object.bwSem with
      | some count => some ({ object with bwSem := count }, postRunning .receiver)
      -- a second has passed
      | none => some (object, turn .sender .increment)
  | turn side statement => some (statement.apply object, statement.after side)
  | postRunning side =>
      some ({ object with bwThreadRunning := Semaphore.post object.bwThreadRunning },
        match side with
        | .receiver => postRunning .sender
        | .sender => returned)
  | returned => none

end ThreadPoint

namespace DeletePoint

/-- Where `Delete` is once it has dealt with an object. -/
def after : Side → DeletePoint
  | .sender => test .receiver
  | .receiver => returned

/-- The next statement on its object, which is none once it is freed, and where `Delete` is
after it. It is none if `Delete` has to wait, or accesses nothing. -/
def execute (object : WifiNetworkObject w) :
    DeletePoint → Option (Option (WifiNetworkObject w) × DeletePoint)
  | test _ => none
  | closeSocket side => some (some { object with socket := -1 }, closeFifo side)
  | closeFifo side => some (some object, freeBuffer side)
  | freeBuffer side => some (some { object with buffer := 0 }, postSem side)
  | postSem side =>
      some (some { object with bwSem := Semaphore.post object.bwSem }, waitRunning side)
  | waitRunning side =>
      (Semaphore.wait object.bwThreadRunning).map fun count =>
        (some { object with bwThreadRunning := count }, destroy side .bwSem)
  | destroy side .bwSem => some (some object, destroy side .bwThreadRunning)
  | destroy side .bwThreadRunning => some (some object, free side)
  | free side => some (none, setNull side)
  | setNull _ => none
  | returned => none

/-- The object that `Delete` deals with. -/
def side? : DeletePoint → Option Side
  | test side | closeSocket side | closeFifo side | freeBuffer side | postSem side
  | waitRunning side | destroy side _ | free side | setNull side => some side
  | returned => none

end DeletePoint

namespace Shutdown

/-- Both are about to begin. The pointers of the thread are not loaded yet. -/
def start (locals : Side → Bool) (senderObject receiverObject : WifiNetworkObject w) :
    Shutdown w where
  slots
    | .sender => ⟨some senderObject, true⟩
    | .receiver => ⟨some receiverObject, true⟩
  thread := .load .sender
  locals := locals
  delete := .test .sender

/-- The object that a pointer of the thread leads to, if it is not null and the object is not
freed. -/
def access (shutdown : Shutdown w) (side : Side) : Option (WifiNetworkObject w) :=
  if shutdown.locals side then (shutdown.slots side).object else none

/-- An object is changed, or freed. -/
def setObject (shutdown : Shutdown w) (side : Side) (object : Option (WifiNetworkObject w)) :
    Shutdown w :=
  { shutdown with
    slots := update shutdown.slots side { shutdown.slots side with object := object } }

/-- A pointer of the manager is set to `NULL`. -/
def clearPointer (shutdown : Shutdown w) (side : Side) : Shutdown w :=
  { shutdown with
    slots := update shutdown.slots side { shutdown.slots side with pointer := false } }

/-- The next step of the thread. -/
def threadNext (shutdown : Shutdown w) : Option (Shutdown w) :=
  match shutdown.thread with
  | .load side =>
      some { shutdown with
        locals := update shutdown.locals side (shutdown.slots side).pointer
        thread :=
          match side with
          | .sender => .load .receiver
          | .receiver => .waitRunning .sender }
  | point =>
      point.accesses.bind fun side =>
        (shutdown.access side).bind fun object =>
          (point.execute object).map fun (object, after) =>
            { shutdown.setObject side (some object) with thread := after }

/-- The next step of `Delete`. -/
def deleteNext (shutdown : Shutdown w) : Option (Shutdown w) :=
  match shutdown.delete with
  | .test side =>
      some { shutdown with
        delete := if (shutdown.slots side).pointer then .closeSocket side else .after side }
  | .setNull side => some { shutdown.clearPointer side with delete := .after side }
  | point =>
      point.side?.bind fun side =>
        (shutdown.slots side).object.bind fun object =>
          (point.execute object).map fun (object, after) =>
            { shutdown.setObject side object with delete := after }

/-- The next step of either. -/
def next (shutdown : Shutdown w) : Process → Option (Shutdown w)
  | .bandwidthThread => shutdown.threadNext
  | .closeWifiNetwork => shutdown.deleteNext

/-- The thread is about to access an object that is freed, or through a null pointer. -/
def Violates (shutdown : Shutdown w) : Prop :=
  ∃ side, shutdown.thread.accesses = some side ∧ shutdown.access side = none

/-- `Delete` waits for a `bw_threadRunning` and nobody can make a step. -/
def Deadlocked (shutdown : Shutdown w) : Prop :=
  (∃ side, shutdown.delete = .waitRunning side) ∧ ∀ process, shutdown.next process = none

end Shutdown

/-! ## Who has what -/

namespace ThreadPoint

/-- The thread has `bw_threadRunning` of an object. -/
def holds : ThreadPoint → Side → Bool
  | waitRunning .receiver, .sender => true
  | timedwait, _ => true
  | turn _ _, _ => true
  | postRunning .receiver, _ => true
  | postRunning .sender, .sender => true
  | _, _ => false

/-- The thread has loaded its pointer to an object. -/
def loaded : ThreadPoint → Side → Bool
  | load .sender, _ => false
  | load .receiver, .receiver => false
  | _, _ => true

/-- The thread has not taken `bw_sem` yet. -/
def awaitsSem : ThreadPoint → Bool
  | postRunning _ => false
  | returned => false
  | _ => true

/-- Whoever has the semaphore of the receiver has that of the sender. -/
theorem holds_sender {point : ThreadPoint} {side : Side} (held : point.holds side = true) :
    point.holds .sender = true := by
  cases side with
  | sender => exact held
  | receiver =>
      cases point with
      | timedwait => rfl
      | turn _ _ => rfl
      | postRunning side =>
          cases side with
          | sender => cases held
          | receiver => rfl
      | load _ => cases held
      | waitRunning first =>
          cases first with
          | sender => cases held
          | receiver => cases held
      | returned => cases held

theorem loaded_of_accesses {point : ThreadPoint} {side : Side}
    (accessed : point.accesses = some side) (other : Side) : point.loaded other = true := by
  cases point with
  | load _ => cases accessed
  | waitRunning _ => rfl
  | timedwait => rfl
  | turn _ _ => rfl
  | postRunning _ => rfl
  | returned => cases accessed

theorem loaded_of_holds {point : ThreadPoint} {side : Side} (held : point.holds side = true)
    (other : Side) : point.loaded other = true := by
  cases point with
  | load _ => cases held
  | waitRunning _ => rfl
  | timedwait => rfl
  | turn _ _ => rfl
  | postRunning _ => rfl
  | returned => cases held

/-- Only the first wait accesses an object without the semaphore of the sender. -/
theorem accesses_of_not_holds {point : ThreadPoint} {side : Side}
    (accessed : point.accesses = some side) (outside : point.holds .sender = false) :
    point = .waitRunning .sender := by
  cases point with
  | load _ => cases accessed
  | waitRunning first =>
      cases first with
      | sender => rfl
      | receiver => cases outside
  | timedwait => cases outside
  | turn _ _ => cases outside
  | postRunning first =>
      cases first with
      | sender => cases outside
      | receiver => cases outside
  | returned => cases accessed

end ThreadPoint

namespace DeletePoint

/-- The points at which `Delete` deals with an object, in order. -/
def program (side : Side) : List DeletePoint :=
  [test side, closeSocket side, closeFifo side, freeBuffer side, postSem side, waitRunning side,
    destroy side .bwSem, destroy side .bwThreadRunning, free side, setNull side]

/-- The steps that `Delete` makes before it is at a point. -/
def steps (point : DeletePoint) : ℕ :=
  (program .sender ++ program .receiver ++ [returned]).idxOf point

/-- `Delete` has passed a point. -/
def IsPast (point passed : DeletePoint) : Prop := passed.steps < point.steps

instance (point passed : DeletePoint) : Decidable (point.IsPast passed) :=
  inferInstanceAs (Decidable (_ < _))

/-- `Delete` has taken `bw_threadRunning` of an object. -/
def took (point : DeletePoint) (side : Side) : Bool := decide (point.IsPast (.waitRunning side))

theorem mem_program (point : DeletePoint) :
    point ∈ program .sender ++ program .receiver ++ [returned] := by
  cases point with
  | destroy side name => cases side <;> cases name <;> decide
  | returned => decide
  | _ side => cases side <;> decide

theorem steps_inj {point other : DeletePoint} : point.steps = other.steps ↔ point = other :=
  List.idxOf_inj (mem_program point)

theorem steps_after (side : Side) : (after side).steps = (setNull side).steps + 1 := by
  cases side <;> decide

/-- A step passes the point that it was at. -/
theorem isPast_next {point next passed : DeletePoint} (step : next.steps = point.steps + 1) :
    next.IsPast passed ↔ point.IsPast passed ∨ point = passed := by
  rw [IsPast, step, Nat.lt_succ_iff_lt_or_eq, ← steps_inj, eq_comm (a := point.steps)]
  rfl

theorem took_next {point next : DeletePoint} (step : next.steps = point.steps + 1) {side : Side}
    (elsewhere : point ≠ .waitRunning side) : next.took side = point.took side := by
  rw [took, took, decide_eq_decide, isPast_next step, or_iff_left elsewhere]

/-- `Delete` frees and clears nothing before it takes `bw_threadRunning` of the sender. -/
theorem took_of_past {point passed : DeletePoint} (past : point.IsPast passed)
    (later : passed.IsPast (.waitRunning .sender)) : point.took .sender = true :=
  decide_eq_true (Nat.lt_trans later past)

/-- Between the two, `Delete` destroys the semaphores. -/
theorem between {point : DeletePoint} (took : point.took .sender = true)
    (present : ¬ point.IsPast (.free .sender)) :
    point = .destroy .sender .bwSem ∨ point = .destroy .sender .bwThreadRunning ∨
      point = .free .sender := by
  revert took present
  cases point with
  | destroy side name => cases side <;> cases name <;> decide
  | returned => decide
  | _ side => cases side <;> decide

/-- `Delete` takes the semaphore of the receiver after that of the sender. -/
theorem took_sender {point : DeletePoint} {side : Side} (took : point.took side = true) :
    point.took .sender = true := by
  cases side with
  | sender => exact took
  | receiver => exact took_of_past (of_decide_eq_true took) (by decide)

theorem took_wait {next : DeletePoint} {side : Side}
    (step : next.steps = (waitRunning side).steps + 1) : next.took side = true := by
  rw [took, decide_eq_true_eq, isPast_next step]
  exact .inr rfl

end DeletePoint

/-! ## What one statement does -/

open Semaphore (Lock)

/-- A statement of the thread changes who has the semaphore of the object that it accesses, and
of no other; it does not lead back to the first wait; and it takes `bw_sem` or leaves it. -/
structure ThreadPoint.Executes (point : ThreadPoint) (side : Side)
    (object changed : WifiNetworkObject w) (after : ThreadPoint) : Prop where
  others : ∀ other, other ≠ side → after.holds other = point.holds other
  lock : ∀ taken, Lock object.bwThreadRunning (point.holds side) taken →
    Lock changed.bwThreadRunning (after.holds side) taken
  loaded : ∀ other, after.loaded other = true
  entered : after ≠ .waitRunning .sender
  sem : after.awaitsSem = true → point.awaitsSem = true ∧ changed.bwSem = object.bwSem

theorem ThreadPoint.executes {point after : ThreadPoint} {side : Side}
    {object changed : WifiNetworkObject w} (accessed : point.accesses = some side)
    (executed : point.execute object = some (changed, after)) :
    point.Executes side object changed after := by
  cases point with
  | load _ => cases accessed
  | waitRunning first =>
      cases accessed
      obtain ⟨count, taken, result⟩ := Option.map_eq_some_iff.mp executed
      cases result
      cases side with
      | sender =>
          refine ⟨?_, fun _ lock => lock.wait taken, fun _ => rfl, nofun, fun _ => ⟨rfl, rfl⟩⟩
          intro other distinct
          cases other with
          | sender => exact absurd rfl distinct
          | receiver => rfl
      | receiver =>
          refine ⟨?_, fun _ lock => lock.wait taken, fun _ => rfl, nofun, fun _ => ⟨rfl, rfl⟩⟩
          intro other distinct
          cases other with
          | sender => rfl
          | receiver => exact absurd rfl distinct
  | timedwait =>
      cases accessed
      cases waited : Semaphore.wait object.bwSem with
      | none =>
          simp only [execute, waited, Option.some.injEq, Prod.mk.injEq] at executed
          obtain ⟨rfl, rfl⟩ := executed
          exact ⟨fun _ _ => rfl, fun _ lock => lock, fun _ => rfl, nofun, fun _ => ⟨rfl, rfl⟩⟩
      | some count =>
          simp only [execute, waited, Option.some.injEq, Prod.mk.injEq] at executed
          obtain ⟨rfl, rfl⟩ := executed
          exact ⟨fun _ _ => rfl, fun _ lock => lock, fun _ => rfl, nofun, nofun⟩
  | turn first statement =>
      cases accessed
      cases executed
      refine ⟨?_, ?_, ?_, ?_, ?_⟩
      · intro other _
        cases side <;> cases statement <;> rfl
      · intro taken lock
        cases side <;> cases statement <;> exact lock
      · intro other
        cases side <;> cases statement <;> rfl
      · cases side <;> cases statement <;> nofun
      · intro _
        cases statement <;> exact ⟨rfl, rfl⟩
  | postRunning first =>
      cases accessed
      cases executed
      cases side with
      | sender =>
          refine ⟨?_, fun _ lock => lock.post, fun _ => rfl, nofun, nofun⟩
          intro other distinct
          cases other with
          | sender => exact absurd rfl distinct
          | receiver => rfl
      | receiver =>
          refine ⟨?_, fun _ lock => lock.post, fun _ => rfl, nofun, nofun⟩
          intro other distinct
          cases other with
          | sender => rfl
          | receiver => exact absurd rfl distinct
  | returned => cases accessed

/-- A statement of `Delete` goes on to the next one, frees its object or keeps it, and takes
`bw_threadRunning` only where it waits for it. -/
structure DeletePoint.Executes (point : DeletePoint) (side : Side)
    (object : WifiNetworkObject w) (changed : Option (WifiNetworkObject w))
    (after : DeletePoint) : Prop where
  step : after.steps = point.steps + 1
  notNull : ∀ other, point ≠ .setNull other
  freed : ∀ other, point = .free other ↔ changed = none ∧ other = side
  waits : ∀ other, point = .waitRunning other → other = side ∧ ∃ kept, changed = some kept ∧
    Semaphore.wait object.bwThreadRunning = some kept.bwThreadRunning
  posts : ∀ other, point = .postSem other → other = side
  kept : ∀ kept, changed = some kept →
    (point ≠ .waitRunning side → kept.bwThreadRunning = object.bwThreadRunning) ∧
      object.bwSem ≤ kept.bwSem ∧ (point = .postSem side → 0 < kept.bwSem)

/-- Most statements keep the object and its semaphores. -/
theorem DeletePoint.Executes.quiet {point after : DeletePoint} {side : Side}
    {object kept : WifiNetworkObject w} (step : after.steps = point.steps + 1)
    (notNull : ∀ other, point ≠ .setNull other) (notFree : ∀ other, point ≠ .free other)
    (notWait : ∀ other, point ≠ .waitRunning other) (notPost : ∀ other, point ≠ .postSem other)
    (running : kept.bwThreadRunning = object.bwThreadRunning)
    (sem : kept.bwSem = object.bwSem) : point.Executes side object (some kept) after where
  step := step
  notNull := notNull
  freed other := iff_of_false (notFree other) (by simp)
  waits other here := absurd here (notWait other)
  posts other here := absurd here (notPost other)
  kept := by
    rintro other same
    cases same
    exact ⟨fun _ => running, Nat.le_of_eq sem.symm, fun here => absurd here (notPost side)⟩

theorem DeletePoint.executes {point after : DeletePoint} {side : Side}
    {object : WifiNetworkObject w} {changed : Option (WifiNetworkObject w)}
    (accessed : point.side? = some side)
    (executed : point.execute object = some (changed, after)) :
    point.Executes side object changed after := by
  cases point with
  | test _ => cases executed
  | setNull _ => cases executed
  | returned => cases executed
  | waitRunning first =>
      cases accessed
      obtain ⟨count, taken, result⟩ := Option.map_eq_some_iff.mp executed
      cases result
      refine ⟨by cases side <;> decide, nofun, fun _ => by simp, ?_, nofun, ?_⟩
      · rintro other same
        cases same
        exact ⟨rfl, _, rfl, taken⟩
      · rintro kept same
        cases same
        exact ⟨fun elsewhere => absurd rfl elsewhere, Nat.le_refl _, nofun⟩
  | free first =>
      cases accessed
      cases executed
      refine ⟨by cases side <;> decide, nofun, ?_, nofun, nofun, nofun⟩
      intro other
      rw [DeletePoint.free.injEq, eq_self_iff_true, true_and, eq_comm]
  | postSem first =>
      cases accessed
      cases executed
      refine ⟨by cases side <;> decide, nofun, fun _ => by simp, nofun, ?_, ?_⟩
      · rintro other same
        cases same
        rfl
      · rintro kept same
        cases same
        exact ⟨fun _ => rfl, Nat.le_succ _, fun _ => Nat.succ_pos _⟩
  | destroy first name =>
      cases accessed
      cases name with
      | bwSem =>
          cases executed
          exact .quiet (by cases side <;> decide) nofun nofun nofun nofun rfl rfl
      | bwThreadRunning =>
          cases executed
          exact .quiet (by cases side <;> decide) nofun nofun nofun nofun rfl rfl
  | closeSocket first =>
      cases accessed
      cases executed
      exact .quiet (by cases side <;> decide) nofun nofun nofun nofun rfl rfl
  | closeFifo first =>
      cases accessed
      cases executed
      exact .quiet (by cases side <;> decide) nofun nofun nofun nofun rfl rfl
  | freeBuffer first =>
      cases accessed
      cases executed
      exact .quiet (by cases side <;> decide) nofun nofun nofun nofun rfl rfl

/-! ## What is left of the thread -/

namespace ThreadPoint

/-- The statements that are left of a turn on one object. -/
def ofTurn : TurnStatement → ℕ
  | .increment => 4
  | .wrap => 3
  | .store => 2
  | .clear => 1

/-- The steps that the thread has left once it can take `bw_sem`. -/
def remaining : ThreadPoint → ℕ
  | load .sender => 7
  | load .receiver => 6
  | waitRunning .sender => 5
  | waitRunning .receiver => 4
  | timedwait => 3
  | turn .sender statement => 7 + ofTurn statement
  | turn .receiver statement => 3 + ofTurn statement
  | postRunning .receiver => 2
  | postRunning .sender => 1
  | returned => 0

/-- A statement is one step less, unless a second passes. -/
theorem execute_remaining {point after : ThreadPoint} {object changed : WifiNetworkObject w}
    (posted : point = .timedwait → 0 < object.bwSem)
    (executed : point.execute object = some (changed, after)) :
    after.remaining < point.remaining := by
  cases point with
  | load _ => cases executed
  | returned => cases executed
  | waitRunning side =>
      obtain ⟨count, taken, result⟩ := Option.map_eq_some_iff.mp executed
      cases result
      cases side with
      | sender => decide
      | receiver => decide
  | timedwait =>
      cases waited : Semaphore.wait object.bwSem with
      | none =>
          have empty := Semaphore.wait_eq_none_iff.mp waited
          exact absurd empty (posted rfl).ne'
      | some count =>
          simp only [execute, waited, Option.some.injEq, Prod.mk.injEq] at executed
          obtain ⟨-, rfl⟩ := executed
          decide
  | turn side statement =>
      cases executed
      cases side <;> cases statement <;> decide
  | postRunning side =>
      cases executed
      cases side with
      | sender => decide
      | receiver => decide

end ThreadPoint

/-! ## The steps -/

namespace Shutdown

section

variable (shutdown : Shutdown w) (side : Side) (object : Option (WifiNetworkObject w))

@[simp] theorem setObject_object_self :
    ((shutdown.setObject side object).slots side).object = object := by
  simp only [setObject, update_self]

theorem setObject_object_other {other : Side} (distinct : other ≠ side) :
    ((shutdown.setObject side object).slots other).object = (shutdown.slots other).object := by
  simp only [setObject, update_of_ne distinct]

@[simp] theorem setObject_pointer (other : Side) :
    ((shutdown.setObject side object).slots other).pointer = (shutdown.slots other).pointer := by
  by_cases same : other = side
  · subst same
    simp only [setObject, update_self]
  · simp only [setObject, update_of_ne same]

@[simp] theorem clearPointer_object (other : Side) :
    ((shutdown.clearPointer side).slots other).object = (shutdown.slots other).object := by
  by_cases same : other = side
  · subst same
    simp only [clearPointer, update_self]
  · simp only [clearPointer, update_of_ne same]

@[simp] theorem clearPointer_pointer_self :
    ((shutdown.clearPointer side).slots side).pointer = false := by
  simp only [clearPointer, update_self]

theorem clearPointer_pointer_other {other : Side} (distinct : other ≠ side) :
    ((shutdown.clearPointer side).slots other).pointer = (shutdown.slots other).pointer := by
  simp only [clearPointer, update_of_ne distinct]

end

/-- What a step of the thread is. -/
theorem threadNext_cases {shutdown next : Shutdown w} (taken : shutdown.threadNext = some next) :
    (∃ side point, shutdown.thread = .load side ∧
        (side = .sender ∧ point = .load .receiver ∨
          side = .receiver ∧ point = .waitRunning .sender) ∧
        next = { shutdown with
          locals := update shutdown.locals side (shutdown.slots side).pointer
          thread := point }) ∨
      ∃ side object changed after, shutdown.thread.accesses = some side ∧
        shutdown.access side = some object ∧
        shutdown.thread.execute object = some (changed, after) ∧
        next = { shutdown.setObject side (some changed) with thread := after } := by
  by_cases loads : ∃ side, shutdown.thread = .load side
  · obtain ⟨side, here⟩ := loads
    rw [threadNext, here, Option.some.injEq] at taken
    subst taken
    cases side with
    | sender => exact .inl ⟨.sender, _, here, .inl ⟨rfl, rfl⟩, rfl⟩
    | receiver => exact .inl ⟨.receiver, _, here, .inr ⟨rfl, rfl⟩, rfl⟩
  · right
    rw [threadNext] at taken
    split at taken
    · rename_i side here
      exact absurd ⟨side, here⟩ loads
    · obtain ⟨side, accessed, taken⟩ := Option.bind_eq_some_iff.mp taken
      obtain ⟨object, found, taken⟩ := Option.bind_eq_some_iff.mp taken
      obtain ⟨⟨changed, after⟩, executed, taken⟩ := Option.map_eq_some_iff.mp taken
      exact ⟨side, object, changed, after, accessed, found, executed, taken.symm⟩

/-- What a step of `Delete` is. -/
theorem deleteNext_cases {shutdown next : Shutdown w} (taken : shutdown.deleteNext = some next) :
    (∃ side, shutdown.delete = .test side ∧
        next = { shutdown with
          delete := if (shutdown.slots side).pointer then .closeSocket side else .after side }) ∨
      (∃ side, shutdown.delete = .setNull side ∧
        next = { shutdown.clearPointer side with delete := .after side }) ∨
      ∃ side object changed after, shutdown.delete.side? = some side ∧
        (shutdown.slots side).object = some object ∧
        shutdown.delete.execute object = some (changed, after) ∧
        next = { shutdown.setObject side changed with delete := after } := by
  rw [deleteNext] at taken
  split at taken
  · rename_i side here
    cases taken
    exact .inl ⟨side, here, rfl⟩
  · rename_i side here
    cases taken
    exact .inr (.inl ⟨side, here, rfl⟩)
  · obtain ⟨side, accessed, taken⟩ := Option.bind_eq_some_iff.mp taken
    obtain ⟨object, found, taken⟩ := Option.bind_eq_some_iff.mp taken
    obtain ⟨⟨changed, after⟩, executed, taken⟩ := Option.map_eq_some_iff.mp taken
    exact .inr (.inr ⟨side, object, changed, after, accessed, found, executed, taken.symm⟩)

section

variable {shutdown : Shutdown w} {side : Side} {object : WifiNetworkObject w}

/-- A pointer of the thread that leads to an object is not null, and the object is there. -/
theorem access_eq_some_iff :
    shutdown.access side = some object ↔
      shutdown.locals side = true ∧ (shutdown.slots side).object = some object := by
  rw [access]
  split
  · rename_i present
    rw [present, eq_self_iff_true, true_and]
  · rename_i null
    exact iff_of_false (Option.some_ne_none _).symm fun both => null both.1

/-- The thread makes its next statement on an object that it reaches. -/
theorem threadNext_execute {changed : WifiNetworkObject w} {after : ThreadPoint}
    (accessed : shutdown.thread.accesses = some side) (found : shutdown.access side = some object)
    (executed : shutdown.thread.execute object = some (changed, after)) :
    shutdown.threadNext = some { shutdown.setObject side (some changed) with thread := after } := by
  rw [threadNext]
  split
  · rename_i loads
    rw [loads] at accessed
    cases accessed
  · rw [accessed, Option.bind_some, found, Option.bind_some, executed, Option.map_some]

theorem threadNext_ne_none (accessed : shutdown.thread.accesses = some side)
    (found : shutdown.access side = some object)
    (executes : shutdown.thread.execute object ≠ none) : shutdown.threadNext ≠ none := by
  obtain ⟨⟨changed, after⟩, executed⟩ := Option.ne_none_iff_exists'.mp executes
  rw [threadNext_execute accessed found executed]
  exact Option.some_ne_none _

/-- `Delete` makes its next statement on an object that is there. -/
theorem deleteNext_execute {changed : Option (WifiNetworkObject w)} {after : DeletePoint}
    (accessed : shutdown.delete.side? = some side)
    (found : (shutdown.slots side).object = some object)
    (executed : shutdown.delete.execute object = some (changed, after)) :
    shutdown.deleteNext = some { shutdown.setObject side changed with delete := after } := by
  rw [deleteNext]
  split
  · rename_i tests
    rw [tests] at executed
    cases executed
  · rename_i clears
    rw [clears] at executed
    cases executed
  · rw [accessed, Option.bind_some, found, Option.bind_some, executed, Option.map_some]

theorem deleteNext_ne_none (accessed : shutdown.delete.side? = some side)
    (found : (shutdown.slots side).object = some object)
    (executes : shutdown.delete.execute object ≠ none) : shutdown.deleteNext ≠ none := by
  obtain ⟨⟨changed, after⟩, executed⟩ := Option.ne_none_iff_exists'.mp executes
  rw [deleteNext_execute accessed found executed]
  exact Option.some_ne_none _

end

/-! ## A turn of the loop -/

section

variable {shutdown : Shutdown w} {side : Side} {object : WifiNetworkObject w}

theorem access_setObject (found : shutdown.access side = some object)
    (changed : WifiNetworkObject w) (after : ThreadPoint) :
    { shutdown.setObject side (some changed) with thread := after }.access side =
      some changed := by
  exact access_eq_some_iff.mpr ⟨(access_eq_some_iff.mp found).1, setObject_object_self _ _ _⟩

theorem access_setObject_other {other : Side} (distinct : other ≠ side)
    (changed : Option (WifiNetworkObject w)) (after : ThreadPoint) :
    { shutdown.setObject side changed with thread := after }.access other =
      shutdown.access other := by
  simp only [access, setObject, update_of_ne distinct]

/-- The four statements on an object close its window. -/
theorem turn_run (found : shutdown.access side = some object)
    (here : shutdown.thread = .turn side .increment) :
    Run (enabled next) shutdown (List.replicate 4 .bandwidthThread)
      { shutdown.setObject side (some object.closeWindow) with
        thread := TurnStatement.clear.after side } := by
  have statement : ∀ (state : Shutdown w) (object : WifiNetworkObject w) (turn : TurnStatement),
      state.access side = some object → state.thread = .turn side turn →
        state.next .bandwidthThread =
          some { state.setObject side (some (turn.apply object)) with
            thread := turn.after side } := by
    intro state object turn found here
    exact threadNext_execute (by rw [here]; rfl) found (by rw [here, ThreadPoint.execute])
  have again : ∀ (first second : WifiNetworkObject w) (one two : ThreadPoint),
      { { shutdown.setObject side (some first) with thread := one }.setObject side (some second)
        with thread := two } =
        { shutdown.setObject side (some second) with thread := two } := by
    intro first second one two
    simp only [setObject, update_self, update_idem]
  refine .cons (statement shutdown object .increment found here) ?_
  refine .cons (statement _ _ .wrap (access_setObject found _ _) rfl) ?_
  rw [again]
  refine .cons (statement _ _ .store (access_setObject found _ _) rfl) ?_
  rw [again]
  refine .cons (statement _ _ .clear (access_setObject found _ _) rfl) ?_
  rw [again]
  exact .nil _

/-- **Nine steps of the thread are a turn of the loop**, on both objects. -/
theorem tick_run (E : Endianness) (timeDiff : TimeDiff) {traffic : Traffic w}
    (here : shutdown.thread = .timedwait)
    (sender : shutdown.access .sender = some traffic.sender)
    (receiver : shutdown.access .receiver = some traffic.receiver)
    (running : traffic.sender.bwSem = 0) :
    ∃ reached, Run (enabled next) shutdown (List.replicate 9 .bandwidthThread) reached ∧
      reached.thread = .timedwait ∧ reached.delete = shutdown.delete ∧
      reached.access .sender = some (traffic.next E timeDiff .tick).sender ∧
      reached.access .receiver = some (traffic.next E timeDiff .tick).receiver := by
  have apart : Side.receiver ≠ .sender := nofun
  have passes : shutdown.next .bandwidthThread =
      some { shutdown.setObject .sender (some traffic.sender) with
        thread := .turn .sender .increment } := by
    refine threadNext_execute (by rw [here]; rfl) sender ?_
    rw [here, ThreadPoint.execute, running, Semaphore.wait]
  have first := turn_run (access_setObject sender traffic.sender (.turn .sender .increment)) rfl
  have between : ∀ (object : WifiNetworkObject w) (after : ThreadPoint),
      { { shutdown.setObject .sender (some traffic.sender) with
            thread := .turn .sender .increment }.setObject .sender (some object) with
          thread := after }.access .receiver = some traffic.receiver := by
    intro object after
    rw [access_setObject_other apart, access_setObject_other apart, receiver]
  have second := turn_run (between traffic.sender.closeWindow (.turn .receiver .increment)) rfl
  refine ⟨_, .cons passes (first.append second), rfl, rfl, ?_, ?_⟩
  · rw [access_setObject_other apart.symm]
    exact access_setObject (access_setObject sender _ _) _ _
  · exact access_setObject (between _ _) _ _

end

end Shutdown

end WifiNetwork

end ARNetworkAL
