import ARNetworkAL.Wifi.Shutdown

/-!
# The handshake

Whoever takes `bw_threadRunning` of the sender first keeps the other out. If it is the thread,
`Delete` frees nothing before the thread has posted both. If it is `Delete`, a thread that has
started comes to wait in an object that is freed (`overtaken_violates`), and that is the only
way in which the handshake fails (`handshake_of_run`). It never comes to a deadlock
(`not_deadlocked_of_run`), and it comes to an end (`ends_of_run`).
-/

set_option autoImplicit false

namespace ARNetworkAL

open Library Function

open Semaphore (Lock)

namespace WifiNetwork

variable {w : ℕ}

/-! ## The invariant -/

namespace Shutdown

/-- An object is there until `Delete` frees it and its pointer until `Delete` clears it. The
unit of its `bw_threadRunning` is in it, or with the thread, or with `Delete` for good. What
the thread has loaded is the pointer, unless that was cleared since. Once `Delete` has posted
`bw_sem` the thread can take it. -/
structure Inv (shutdown : Shutdown w) : Prop where
  freed : ∀ side, (shutdown.slots side).object = none ↔ shutdown.delete.IsPast (.free side)
  null : ∀ side, (shutdown.slots side).pointer = false ↔ shutdown.delete.IsPast (.setNull side)
  lock : ∀ side object, (shutdown.slots side).object = some object →
    Lock object.bwThreadRunning (shutdown.thread.holds side) (shutdown.delete.took side)
  apart : ∀ side, shutdown.thread.holds side = true → shutdown.delete.took side = false
  locals : ∀ side, shutdown.thread.loaded side = true → shutdown.locals side = false →
    (shutdown.slots side).pointer = false
  sem : ∀ object, (shutdown.slots .sender).object = some object →
    shutdown.thread.awaitsSem = true → shutdown.delete.IsPast (.postSem .sender) →
      0 < object.bwSem

namespace Inv

variable {shutdown next : Shutdown w}

/-- An object is there while `Delete` has not passed the point that frees it. -/
theorem object_of_not_past (inv : shutdown.Inv) {side : Side}
    (present : ¬ shutdown.delete.IsPast (.free side)) :
    ∃ object, (shutdown.slots side).object = some object :=
  Option.ne_none_iff_exists'.mp fun freed => present ((inv.freed side).mp freed)

/-! ### Steps of the thread -/

/-- A pointer is loaded. -/
theorem loads (inv : shutdown.Inv) {side : Side} {point : ThreadPoint}
    (here : shutdown.thread = .load side)
    (there : side = .sender ∧ point = .load .receiver ∨
      side = .receiver ∧ point = .waitRunning .sender) :
    { shutdown with
      locals := update shutdown.locals side (shutdown.slots side).pointer
      thread := point }.Inv := by
  have outside : ∀ other, point.holds other = shutdown.thread.holds other := by
    intro other
    rw [here]
    rcases there with ⟨rfl, rfl⟩ | ⟨rfl, rfl⟩
    · cases other <;> rfl
    · cases other <;> rfl
  have before : ∀ other, other ≠ side → point.loaded other = true →
      shutdown.thread.loaded other = true := by
    intro other distinct loaded
    rw [here]
    rcases there with ⟨rfl, rfl⟩ | ⟨rfl, rfl⟩
    · cases other with
      | sender => exact absurd rfl distinct
      | receiver => cases loaded
    · cases other with
      | sender => rfl
      | receiver => exact absurd rfl distinct
  refine ⟨inv.freed, inv.null, ?_, ?_, ?_, ?_⟩
  · intro other object found
    rw [outside other]
    exact inv.lock other object found
  · intro other held
    rw [outside other] at held
    exact inv.apart other held
  · intro other loaded null
    by_cases same : other = side
    · subst same
      simp only [update_self] at null
      exact null
    · simp only [update_of_ne same] at null
      exact inv.locals other (before other same loaded) null
  · intro object found _ posted
    exact inv.sem object found (by rw [here]; rfl) posted

/-- A statement of the thread on an object that is there. -/
theorem threadExecutes (inv : shutdown.Inv) {side : Side} {object changed : WifiNetworkObject w}
    {after : ThreadPoint} (accessed : shutdown.thread.accesses = some side)
    (found : (shutdown.slots side).object = some object)
    (spec : shutdown.thread.Executes side object changed after) :
    { shutdown.setObject side (some changed) with thread := after }.Inv := by
  have lock := spec.lock _ (inv.lock side object found)
  refine ⟨?_, ?_, ?_, ?_, ?_, ?_⟩
  · intro other
    by_cases same : other = side
    · subst same
      have present := (inv.freed other).not.mp (by rw [found]; exact Option.some_ne_none _)
      rw [setObject_object_self]
      exact iff_of_false (Option.some_ne_none _) present
    · rw [setObject_object_other _ _ _ same]
      exact inv.freed other
  · intro other
    rw [setObject_pointer]
    exact inv.null other
  · intro other kept there
    by_cases same : other = side
    · subst same
      rw [setObject_object_self, Option.some.injEq] at there
      subst there
      exact lock
    · rw [setObject_object_other _ _ _ same] at there
      rw [show after.holds other = _ from spec.others other same]
      exact inv.lock other kept there
  · intro other held
    by_cases same : other = side
    · subst same
      exact lock.apart held
    · rw [show after.holds other = _ from spec.others other same] at held
      exact inv.apart other held
  · intro other _ null
    rw [setObject_pointer]
    exact inv.locals other (ThreadPoint.loaded_of_accesses accessed other) null
  · intro kept there awaits posted
    obtain ⟨awaited, same⟩ := spec.sem awaits
    by_cases here : side = .sender
    · subst here
      rw [setObject_object_self, Option.some.injEq] at there
      subst there
      rw [same]
      exact inv.sem object found awaited posted
    · rw [setObject_object_other _ _ _ (Ne.symm here)] at there
      exact inv.sem kept there awaited posted

/-- **A step of the thread keeps the invariant.** -/
theorem threadNext (inv : shutdown.Inv) (taken : shutdown.threadNext = some next) : next.Inv := by
  rcases threadNext_cases taken with
    ⟨side, point, here, there, rfl⟩ | ⟨side, object, changed, after, accessed, found, executed, rfl⟩
  · exact inv.loads here there
  · exact inv.threadExecutes accessed (access_eq_some_iff.mp found).2
      (ThreadPoint.executes accessed executed)

/-! ### Steps of `Delete` -/

/-- A pointer that `Delete` tests is not null yet. -/
theorem present (inv : shutdown.Inv) {side : Side} (here : shutdown.delete = .test side) :
    (shutdown.slots side).pointer = true := by
  rw [← Bool.not_eq_false]
  intro null
  have past := (inv.null side).mp null
  rw [here] at past
  revert past
  cases side <;> decide

/-- `Delete` goes through its points in order, and leaves the thread alone. -/
theorem deleteNext_steps (inv : shutdown.Inv) (taken : shutdown.deleteNext = some next) :
    next.delete.steps = shutdown.delete.steps + 1 ∧ next.thread = shutdown.thread := by
  rcases deleteNext_cases taken with
    ⟨side, here, rfl⟩ | ⟨side, here, rfl⟩ |
      ⟨side, object, changed, after, accessed, found, executed, rfl⟩
  · simp only [inv.present here, here, if_true, and_true]
    cases side <;> decide
  · rw [here]
    exact ⟨DeletePoint.steps_after side, rfl⟩
  · exact ⟨(DeletePoint.executes accessed executed).step, rfl⟩

/-- `Delete` goes on, and that is all. -/
theorem goesTo (inv : shutdown.Inv) {point : DeletePoint}
    (step : point.steps = shutdown.delete.steps + 1)
    (quiet : ∀ side, shutdown.delete ≠ .free side ∧ shutdown.delete ≠ .setNull side ∧
      shutdown.delete ≠ .waitRunning side ∧ shutdown.delete ≠ .postSem side) :
    { shutdown with delete := point }.Inv := by
  have same : ∀ passed, shutdown.delete ≠ passed →
      (point.IsPast passed ↔ shutdown.delete.IsPast passed) := by
    intro passed elsewhere
    rw [DeletePoint.isPast_next step, or_iff_left elsewhere]
  have took : ∀ other, point.took other = shutdown.delete.took other :=
    fun other => DeletePoint.took_next step (quiet other).2.2.1
  refine ⟨?_, ?_, ?_, ?_, inv.locals, ?_⟩
  · intro other
    exact (inv.freed other).trans (same _ (quiet other).1).symm
  · intro other
    exact (inv.null other).trans (same _ (quiet other).2.1).symm
  · intro other object found
    rw [took]
    exact inv.lock other object found
  · intro other held
    rw [took]
    exact inv.apart other held
  · intro object found awaits posted
    exact inv.sem object found awaits ((same _ (quiet .sender).2.2.2).mp posted)

/-- A pointer of the manager is cleared. -/
theorem clears (inv : shutdown.Inv) {side : Side} (here : shutdown.delete = .setNull side) :
    { shutdown.clearPointer side with delete := .after side }.Inv := by
  have step : (DeletePoint.after side).steps = shutdown.delete.steps + 1 := by
    rw [here]
    exact DeletePoint.steps_after side
  have same : ∀ passed, passed ≠ .setNull side →
      ((DeletePoint.after side).IsPast passed ↔ shutdown.delete.IsPast passed) := by
    intro passed elsewhere
    rw [DeletePoint.isPast_next step, here, or_iff_left elsewhere.symm]
  have took : ∀ other, (DeletePoint.after side).took other = shutdown.delete.took other :=
    fun other => DeletePoint.took_next step (by rw [here]; nofun)
  refine ⟨?_, ?_, ?_, ?_, ?_, ?_⟩
  · intro other
    rw [clearPointer_object]
    exact (inv.freed other).trans (same (.free other) nofun).symm
  · intro other
    by_cases this : other = side
    · subst this
      rw [clearPointer_pointer_self]
      exact iff_of_true rfl ((DeletePoint.isPast_next step).mpr (.inr here))
    · rw [clearPointer_pointer_other _ _ this]
      exact (inv.null other).trans (same (.setNull other) (by simpa using this)).symm
  · intro other object found
    rw [clearPointer_object] at found
    rw [took]
    exact inv.lock other object found
  · intro other held
    rw [took]
    exact inv.apart other held
  · intro other loaded null
    by_cases this : other = side
    · subst this
      exact clearPointer_pointer_self _ _
    · rw [clearPointer_pointer_other _ _ this]
      exact inv.locals other loaded null
  · intro object found awaits posted
    rw [clearPointer_object] at found
    exact inv.sem object found awaits ((same (.postSem .sender) nofun).mp posted)

/-- A wait of `Delete` succeeds only where the thread does not have the unit. -/
theorem not_holds_of_waits (inv : shutdown.Inv) {side : Side} {object kept : WifiNetworkObject w}
    (found : (shutdown.slots side).object = some object)
    (taken : Semaphore.wait object.bwThreadRunning = some kept.bwThreadRunning) :
    shutdown.thread.holds side = false := by
  rw [← Bool.not_eq_true]
  intro held
  have lock := inv.lock side object found
  rw [inv.apart side held, held] at lock
  rw [lock.symm.waits_iff.mpr rfl] at taken
  cases taken

/-- A statement of `Delete` on an object that is there. -/
theorem deleteExecutes (inv : shutdown.Inv) {side : Side} {object : WifiNetworkObject w}
    {changed : Option (WifiNetworkObject w)} {after : DeletePoint}
    (found : (shutdown.slots side).object = some object)
    (spec : shutdown.delete.Executes side object changed after) :
    { shutdown.setObject side changed with delete := after }.Inv := by
  have lock := inv.lock side object found
  refine ⟨?_, ?_, ?_, ?_, ?_, ?_⟩
  · intro other
    rw [DeletePoint.isPast_next spec.step, spec.freed other, ← inv.freed other]
    by_cases same : other = side
    · subst same
      rw [setObject_object_self, found]
      simp
    · rw [setObject_object_other _ _ _ same]
      simp [same]
  · intro other
    rw [setObject_pointer, DeletePoint.isPast_next spec.step, or_iff_left (spec.notNull other)]
    exact inv.null other
  · intro other kept there
    by_cases same : other = side
    · subst same
      rw [setObject_object_self] at there
      by_cases here : shutdown.delete = .waitRunning other
      · obtain ⟨-, _, result, count⟩ := spec.waits other here
        rw [there, Option.some.injEq] at result
        subst result
        rw [DeletePoint.took_wait (by rw [spec.step, here])]
        exact (lock.symm.wait count).symm
      · rw [DeletePoint.took_next spec.step here, (spec.kept kept there).1 here]
        exact lock
    · rw [setObject_object_other _ _ _ same] at there
      rw [DeletePoint.took_next spec.step (fun here => same (spec.waits other here).1)]
      exact inv.lock other kept there
  · intro other held
    by_cases here : shutdown.delete = .waitRunning other
    · obtain ⟨rfl, kept, -, count⟩ := spec.waits other here
      have outside := inv.not_holds_of_waits found count
      rw [show shutdown.thread.holds other = true from held] at outside
      cases outside
    · rw [DeletePoint.took_next spec.step here]
      exact inv.apart other held
  · intro other loaded null
    rw [setObject_pointer]
    exact inv.locals other loaded null
  · intro kept there awaits posted
    by_cases same : side = .sender
    · subst same
      rw [setObject_object_self] at there
      obtain ⟨-, more, posts⟩ := spec.kept kept there
      rcases (DeletePoint.isPast_next spec.step).mp posted with past | here
      · exact (inv.sem object found awaits past).trans_le more
      · exact posts here
    · rw [setObject_object_other _ _ _ (Ne.symm same)] at there
      refine inv.sem kept there awaits ?_
      rcases (DeletePoint.isPast_next spec.step).mp posted with past | here
      · exact past
      · exact absurd (spec.posts .sender here).symm same

/-- **A step of `Delete` keeps the invariant.** -/
theorem deleteNext (inv : shutdown.Inv) (taken : shutdown.deleteNext = some next) : next.Inv := by
  have step := (inv.deleteNext_steps taken).1
  rcases deleteNext_cases taken with
    ⟨side, here, rfl⟩ | ⟨side, here, rfl⟩ |
      ⟨side, object, changed, after, accessed, found, executed, rfl⟩
  · refine inv.goesTo step ?_
    intro other
    rw [here]
    exact ⟨nofun, nofun, nofun, nofun⟩
  · exact inv.clears here
  · exact inv.deleteExecutes found (DeletePoint.executes accessed executed)

/-- **Every step keeps the invariant.** -/
theorem next_inv (inv : shutdown.Inv) {process : Process}
    (taken : shutdown.next process = some next) : next.Inv := by
  cases process with
  | bandwidthThread => exact inv.threadNext taken
  | closeWifiNetwork => exact inv.deleteNext taken

end Inv

/-- The semaphores of an object as `New` leaves them. -/
structure SemaphoresAsNew (object : WifiNetworkObject w) : Prop where
  bwSem : object.bwSem = 0
  bwThreadRunning : object.bwThreadRunning = 1

section

variable {senderObject receiverObject : WifiNetworkObject w}

theorem inv_start (locals : Side → Bool) (sender : SemaphoresAsNew senderObject)
    (receiver : SemaphoresAsNew receiverObject) :
    (start locals senderObject receiverObject).Inv := by
  have unstarted : ∀ point, ¬ (DeletePoint.test .sender).IsPast point :=
    fun point => Nat.not_lt_zero point.steps
  refine ⟨?_, ?_, ?_, ?_, nofun, ?_⟩
  · intro side
    cases side with
    | sender => exact iff_of_false (Option.some_ne_none _) (unstarted _)
    | receiver => exact iff_of_false (Option.some_ne_none _) (unstarted _)
  · intro side
    cases side with
    | sender => exact iff_of_false Bool.noConfusion (unstarted _)
    | receiver => exact iff_of_false Bool.noConfusion (unstarted _)
  · intro side object found
    cases side with
    | sender =>
        cases found
        rw [sender.bwThreadRunning]
        exact Lock.free
    | receiver =>
        cases found
        rw [receiver.bwThreadRunning]
        exact Lock.free
  · intro side held
    cases side with
    | sender => cases held
    | receiver => cases held
  · intro object found _ posted
    exact absurd posted (unstarted _)

theorem inv_of_run {locals : Side → Bool} (sender : SemaphoresAsNew senderObject)
    (receiver : SemaphoresAsNew receiverObject) {processes : List Process}
    {shutdown : Shutdown w}
    (run : Run (enabled next) (start locals senderObject receiverObject) processes shutdown) :
    shutdown.Inv :=
  run.invariant Inv (fun _ _ _ inv taken => inv.next_inv taken) (inv_start locals sender receiver)

end

/-! ## Who takes `bw_threadRunning` of the sender first -/

/-- `Delete` has taken `bw_threadRunning` of the sender, and the thread has started and not
taken it. -/
def Overtaken (shutdown : Shutdown w) : Prop :=
  shutdown.delete.took .sender = true ∧
    (shutdown.thread = .load .receiver ∨ shutdown.thread = .waitRunning .sender)

/-- A step does not bring this about: the thread does not start once `Delete` has taken the
semaphore, and `Delete` does not take it while the thread is between its start and its own
wait. -/
def Timely (shutdown : Shutdown w) : Process → Prop
  | .bandwidthThread => shutdown.thread = .load .sender → shutdown.delete.took .sender = false
  | .closeWifiNetwork => shutdown.delete = .waitRunning .sender →
      shutdown.thread ≠ .load .receiver ∧ shutdown.thread ≠ .waitRunning .sender

namespace Inv

variable {shutdown next : Shutdown w}

/-- **As long as `Delete` has not taken `bw_threadRunning` of the sender**, both objects are
there and every pointer that was loaded leads to one. -/
theorem access_of_not_took (inv : shutdown.Inv) (free : shutdown.delete.took .sender = false)
    {side : Side} (loaded : shutdown.thread.loaded side = true) :
    ∃ object, shutdown.access side = some object ∧
      (shutdown.slots side).object = some object := by
  have early : ∀ passed : DeletePoint, passed.IsPast (.waitRunning .sender) →
      ¬ shutdown.delete.IsPast passed := by
    intro passed later past
    rw [DeletePoint.took_of_past past later] at free
    cases free
  have present : shutdown.locals side = true := by
    rw [← Bool.not_eq_false]
    intro null
    have past := (inv.null side).mp (inv.locals side loaded null)
    exact early (.setNull side) (by cases side <;> decide) past
  obtain ⟨object, found⟩ :=
    inv.object_of_not_past (early (.free side) (by cases side <;> decide))
  exact ⟨object, access_eq_some_iff.mpr ⟨present, found⟩, found⟩

/-- **The thread is only in danger where it was overtaken.** -/
theorem overtaken_of_violates (inv : shutdown.Inv) (violates : shutdown.Violates) :
    shutdown.Overtaken := by
  obtain ⟨side, accessed, missing⟩ := violates
  have taken : shutdown.delete.took .sender = true := by
    by_contra free
    obtain ⟨object, found, -⟩ := inv.access_of_not_took (Bool.eq_false_of_not_eq_true free)
      (ThreadPoint.loaded_of_accesses accessed side)
    rw [missing] at found
    cases found
  have outside : shutdown.thread.holds .sender = false := by
    rw [← Bool.not_eq_true]
    intro held
    rw [inv.apart .sender held] at taken
    cases taken
  exact ⟨taken, .inr (ThreadPoint.accesses_of_not_holds accessed outside)⟩

/-- **A timely step does not overtake the thread.** -/
theorem not_overtaken (inv : shutdown.Inv) (before : ¬ shutdown.Overtaken) {process : Process}
    (timely : shutdown.Timely process) (taken : shutdown.next process = some next) :
    ¬ next.Overtaken := by
  rintro ⟨took, waits⟩
  cases process with
  | bandwidthThread =>
      rcases threadNext_cases taken with
        ⟨side, point, here, there, rfl⟩ |
          ⟨side, object, changed, after, accessed, found, executed, rfl⟩
      · rcases there with ⟨rfl, rfl⟩ | ⟨rfl, rfl⟩
        · have free : shutdown.delete.took .sender = false := timely here
          have past : shutdown.delete.took .sender = true := took
          rw [free] at past
          cases past
        · exact before ⟨took, .inl here⟩
      · have spec := ThreadPoint.executes accessed executed
        rcases waits with loads | waits
        · have loaded := spec.loaded .receiver
          rw [show after = .load .receiver from loads] at loaded
          cases loaded
        · exact spec.entered waits
  | closeWifiNetwork =>
      obtain ⟨step, same⟩ := inv.deleteNext_steps taken
      rw [same] at waits
      by_cases here : shutdown.delete = .waitRunning .sender
      · obtain ⟨notLoading, notWaiting⟩ := timely here
        rcases waits with loads | waits
        · exact notLoading loads
        · exact notWaiting waits
      · rw [DeletePoint.took_next step here] at took
        exact before ⟨took, waits⟩

end Inv

/-! ## Steps that can be made -/

namespace Inv

variable {shutdown next : Shutdown w}

/-- A semaphore that nobody has can be taken. -/
theorem wait_of_free (inv : shutdown.Inv) {side : Side} {object : WifiNetworkObject w}
    (found : (shutdown.slots side).object = some object)
    (outside : shutdown.thread.holds side = false) (untaken : shutdown.delete.took side = false) :
    Semaphore.wait object.bwThreadRunning ≠ none := by
  have lock := inv.lock side object found
  rw [outside, untaken] at lock
  intro waits
  exact Bool.false_ne_true (lock.waits_iff.mp waits)

/-- **A thread that has `bw_threadRunning` of the sender never waits for ever.** -/
theorem threadNext_of_holds (inv : shutdown.Inv)
    (held : shutdown.thread.holds .sender = true) : shutdown.threadNext ≠ none := by
  have free := inv.apart .sender held
  have reach : ∀ side, ∃ object, shutdown.access side = some object ∧
      (shutdown.slots side).object = some object :=
    fun side => inv.access_of_not_took free (ThreadPoint.loaded_of_holds held side)
  cases here : shutdown.thread with
  | load _ =>
      rw [here] at held
      cases held
  | returned =>
      rw [here] at held
      cases held
  | timedwait =>
      obtain ⟨object, found, -⟩ := reach .sender
      refine threadNext_ne_none (by rw [here]; rfl) found ?_
      rw [here, ThreadPoint.execute]
      cases Semaphore.wait object.bwSem with
      | none => exact Option.some_ne_none _
      | some count => exact Option.some_ne_none _
  | turn side statement =>
      obtain ⟨object, found, -⟩ := reach side
      refine threadNext_ne_none (by rw [here]; rfl) found ?_
      rw [here]
      exact Option.some_ne_none _
  | postRunning side =>
      obtain ⟨object, found, -⟩ := reach side
      refine threadNext_ne_none (by rw [here]; rfl) found ?_
      rw [here]
      exact Option.some_ne_none _
  | waitRunning side =>
      cases side with
      | sender =>
          rw [here] at held
          cases held
      | receiver =>
          obtain ⟨object, found, there⟩ := reach .receiver
          have untaken : shutdown.delete.took .receiver = false := by
            rw [← Bool.not_eq_true]
            intro took
            exact Bool.false_ne_true (free.symm.trans (DeletePoint.took_sender took))
          have outside : shutdown.thread.holds .receiver = false := by
            rw [here]
            rfl
          refine threadNext_ne_none (by rw [here]; rfl) found ?_
          rw [here]
          exact fun waits =>
            inv.wait_of_free there outside untaken (Option.map_eq_none_iff.mp waits)

/-- **`Delete` goes on unless it waits for the thread**, until it returns. -/
theorem deleteNext_of_free (inv : shutdown.Inv)
    (free : ∀ side, shutdown.delete = .waitRunning side → shutdown.thread.holds side = false)
    (unfinished : shutdown.delete ≠ .returned) : shutdown.deleteNext ≠ none := by
  cases here : shutdown.delete with
  | returned => exact absurd here unfinished
  | test side =>
      rw [Shutdown.deleteNext, here]
      exact Option.some_ne_none _
  | setNull side =>
      rw [Shutdown.deleteNext, here]
      exact Option.some_ne_none _
  | waitRunning side =>
      obtain ⟨object, found⟩ := inv.object_of_not_past
        (show ¬ shutdown.delete.IsPast (.free side) by rw [here]; cases side <;> decide)
      have untaken : shutdown.delete.took side = false := by
        rw [here]
        exact decide_eq_false (Nat.lt_irrefl _)
      refine deleteNext_ne_none (by rw [here]; rfl) found ?_
      rw [here]
      exact fun waits =>
        inv.wait_of_free found (free side here) untaken (Option.map_eq_none_iff.mp waits)
  | destroy side name =>
      obtain ⟨object, found⟩ := inv.object_of_not_past
        (show ¬ shutdown.delete.IsPast (.free side) by
          rw [here]; cases side <;> cases name <;> decide)
      refine deleteNext_ne_none (by rw [here]; rfl) found ?_
      rw [here]
      cases name with
      | bwSem => exact Option.some_ne_none _
      | bwThreadRunning => exact Option.some_ne_none _
  | closeSocket side | closeFifo side | freeBuffer side | postSem side | free side =>
      obtain ⟨object, found⟩ := inv.object_of_not_past
        (show ¬ shutdown.delete.IsPast (.free side) by rw [here]; cases side <;> decide)
      refine deleteNext_ne_none (by rw [here]; rfl) found ?_
      rw [here]
      exact Option.some_ne_none _

/-- **Where nobody can go on, `Delete` has returned.** -/
theorem returned_of_stuck (inv : shutdown.Inv)
    (stuck : ∀ process, shutdown.next process = none) : shutdown.delete = .returned := by
  by_contra unfinished
  refine inv.deleteNext_of_free ?_ unfinished (stuck .closeWifiNetwork)
  intro side here
  rw [← Bool.not_eq_true]
  intro held
  exact inv.threadNext_of_holds (ThreadPoint.holds_sender held) (stuck .bandwidthThread)

/-- `Delete` never waits for a thread that waits for it. -/
theorem not_deadlocked (inv : shutdown.Inv) : ¬ shutdown.Deadlocked := by
  rintro ⟨⟨side, here⟩, stuck⟩
  rw [inv.returned_of_stuck stuck] at here
  cases here

end Inv

/-- **No run comes to a deadlock**, whoever is first. -/
theorem not_deadlocked_of_run {locals : Side → Bool}
    {senderObject receiverObject : WifiNetworkObject w} (sender : SemaphoresAsNew senderObject)
    (receiver : SemaphoresAsNew receiverObject) {processes : List Process}
    {shutdown : Shutdown w}
    (run : Run (enabled next) (start locals senderObject receiverObject) processes shutdown) :
    ¬ shutdown.Deadlocked :=
  (inv_of_run sender receiver run).not_deadlocked

/-! ## A thread that is overtaken -/

/-- The thread can come to access what it must not. -/
def Doomed (shutdown : Shutdown w) : Prop :=
  ∃ processes reached, Run (enabled next) shutdown processes reached ∧ reached.Violates

theorem Doomed.of_next {shutdown reached : Shutdown w} (process : Process)
    (taken : shutdown.next process = some reached) (doomed : reached.Doomed) :
    shutdown.Doomed := by
  obtain ⟨processes, last, run, violates⟩ := doomed
  exact ⟨process :: processes, last, .cons taken run, violates⟩

variable {shutdown reached : Shutdown w}

/-- The sender is freed while the thread waits in it. -/
theorem doomed_of_took (inv : shutdown.Inv) (took : shutdown.delete.took .sender = true)
    (here : shutdown.thread = .waitRunning .sender) : shutdown.Doomed := by
  have free : ∀ state : Shutdown w, state.thread = .waitRunning .sender →
      (∃ object, (state.slots .sender).object = some object) → state.delete = .free .sender →
        state.Doomed := by
    rintro state waits ⟨object, found⟩ frees
    refine .of_next .closeWifiNetwork
      (deleteNext_execute (by rw [frees]; rfl) found (by rw [frees, DeletePoint.execute])) ?_
    refine ⟨[], _, .nil _, .sender, ?_, ?_⟩
    · rw [← show state.thread.accesses = some .sender by rw [waits]; rfl]
      rfl
    · simp [access]
  have destroy : ∀ state : Shutdown w, state.thread = .waitRunning .sender →
      (∃ object, (state.slots .sender).object = some object) →
        state.delete = .destroy .sender .bwThreadRunning → state.Doomed := by
    rintro state waits ⟨object, found⟩ destroys
    refine .of_next .closeWifiNetwork
      (deleteNext_execute (by rw [destroys]; rfl) found
        (by rw [destroys, DeletePoint.execute])) ?_
    exact free _ waits ⟨object, setObject_object_self _ _ _⟩ rfl
  by_cases missing : (shutdown.slots .sender).object = none
  · refine ⟨[], shutdown, .nil _, .sender, by rw [here]; rfl, ?_⟩
    rw [access, missing, ite_self]
  · have present : ¬ shutdown.delete.IsPast (.free .sender) :=
      fun past => missing ((inv.freed .sender).mpr past)
    obtain ⟨object, found⟩ := Option.ne_none_iff_exists'.mp missing
    rcases DeletePoint.between took present with first | second | third
    · refine .of_next .closeWifiNetwork
        (deleteNext_execute (by rw [first]; rfl) found
          (by rw [first, DeletePoint.execute])) ?_
      exact destroy _ here ⟨object, setObject_object_self _ _ _⟩ rfl
    · exact destroy shutdown here ⟨object, found⟩ second
    · exact free shutdown here ⟨object, found⟩ third

/-- **A thread that is overtaken can come to access a freed object.** -/
theorem overtaken_violates (inv : shutdown.Inv) (overtaken : shutdown.Overtaken) :
    shutdown.Doomed := by
  obtain ⟨took, loads | waits⟩ := overtaken
  · have taken : shutdown.next .bandwidthThread = some { shutdown with
        locals := update shutdown.locals .receiver (shutdown.slots .receiver).pointer
        thread := .waitRunning .sender } := by
      rw [next, threadNext, loads]
    exact .of_next .bandwidthThread taken (doomed_of_took (inv.next_inv taken) took rfl)
  · exact doomed_of_took inv took waits

/-- A step that is not timely overtakes the thread. -/
theorem overtaken_of_not_timely (inv : shutdown.Inv) {process : Process}
    (late : ¬ shutdown.Timely process) (taken : shutdown.next process = some reached) :
    reached.Overtaken := by
  cases process with
  | bandwidthThread =>
      obtain ⟨here, took⟩ := Classical.not_imp.mp late
      rw [next, threadNext, here, Option.some.injEq] at taken
      subst taken
      exact ⟨Bool.eq_true_of_not_eq_false took, .inl rfl⟩
  | closeWifiNetwork =>
      obtain ⟨here, started⟩ := Classical.not_imp.mp late
      obtain ⟨step, same⟩ := inv.deleteNext_steps taken
      rw [here] at step
      refine ⟨DeletePoint.took_wait step, ?_⟩
      rw [same]
      rcases Classical.not_and_iff_not_or_not.mp started with loads | waits
      · exact .inl (not_not.mp loads)
      · exact .inr (not_not.mp waits)

section

variable {senderObject receiverObject : WifiNetworkObject w}

/-- **In a run whose steps are timely the handshake is safe**: the thread never is about to
access an object that is freed, or through a null pointer, and there is no deadlock. After a
step that is not timely it can come to such an access. -/
theorem handshake_of_run {locals : Side → Bool} (sender : SemaphoresAsNew senderObject)
    (receiver : SemaphoresAsNew receiverObject) {processes : List Process}
    (run : Run (restrict Timely (enabled next)) (start locals senderObject receiverObject)
      processes shutdown) :
    (¬ shutdown.Violates ∧ ¬ shutdown.Deadlocked) ∧
      ∀ process reached, ¬ shutdown.Timely process → shutdown.next process = some reached →
        reached.Doomed := by
  obtain ⟨inv, safe⟩ : shutdown.Inv ∧ ¬ shutdown.Overtaken := by
    refine run.invariant (fun state => state.Inv ∧ ¬ state.Overtaken) ?_ ?_
    · rintro state process following ⟨inv, safe⟩ ⟨timely, taken⟩
      exact ⟨inv.next_inv taken, inv.not_overtaken safe timely taken⟩
    · refine ⟨inv_start locals sender receiver, ?_⟩
      rintro ⟨took, -⟩
      cases took
  refine ⟨⟨fun violates => safe (inv.overtaken_of_violates violates), inv.not_deadlocked⟩, ?_⟩
  intro process reached late taken
  exact overtaken_violates (inv.next_inv taken) (overtaken_of_not_timely inv late taken)

/-- What `Connect` and `Bind` leave as it was. -/
theorem semaphoresAsNew_connected (raw : WifiNetworkObject w) (buffer : BitVec w) (socket : ℤ)
    (fifo : ℤ × ℤ) (socketBufferSize : ℤ) :
    SemaphoresAsNew ((newSender raw buffer).connected socket fifo socketBufferSize) :=
  ⟨rfl, rfl⟩

theorem semaphoresAsNew_bound (raw : WifiNetworkObject w) (buffer : BitVec w) (socket : ℤ)
    (fifo : ℤ × ℤ) (timeoutSec : UInt32) :
    SemaphoresAsNew ((newReceiver raw buffer).bound socket fifo timeoutSec) :=
  ⟨rfl, rfl⟩

end

/-- A network that was initialized, and a thread whose pointers hold anything. -/
def opened : Shutdown 64 :=
  start (fun _ => false) ((newSender (.cleared 64) fourGiB).connected 3 (4, 5) 212992)
    ((newReceiver (.cleared 64) fourGiB).bound 6 (7, 8) 1)

/-- The thread takes both semaphores, and `Delete` comes to wait for it. -/
theorem handshake_of_run_waiting :
    let processes := List.replicate 4 Process.bandwidthThread ++
      List.replicate 5 Process.closeWifiNetwork
    ∃ waiting, Run (restrict Timely (enabled next)) opened processes waiting ∧
      waiting.delete = .waitRunning .sender ∧ waiting.thread = .timedwait ∧
      (¬ waiting.Violates ∧ ¬ waiting.Deadlocked) ∧
        ∀ process reached, ¬ waiting.Timely process → waiting.next process = some reached →
          reached.Doomed := by
  have run : ∃ waiting, Run (restrict Timely (enabled next)) opened
      (List.replicate 4 Process.bandwidthThread ++ List.replicate 5 Process.closeWifiNetwork)
        waiting ∧ waiting.delete = .waitRunning .sender ∧ waiting.thread = .timedwait := by
    refine ⟨_, .cons ⟨fun _ => rfl, rfl⟩ (.cons ⟨nofun, rfl⟩ (.cons ⟨nofun, rfl⟩
      (.cons ⟨nofun, rfl⟩ (.cons ⟨nofun, rfl⟩ (.cons ⟨nofun, rfl⟩ (.cons ⟨nofun, rfl⟩
        (.cons ⟨nofun, rfl⟩ (.cons ⟨nofun, rfl⟩ (.nil _))))))))), rfl, rfl⟩
  obtain ⟨waiting, run, waits, loops⟩ := run
  exact ⟨waiting, run, waits, loops,
    handshake_of_run (semaphoresAsNew_connected _ _ _ _ _) (semaphoresAsNew_bound _ _ _ _ _) run⟩

/-- The thread has loaded its pointers and not come further when `CloseWifiNetwork` is called.
Nine steps later it is about to wait in an object that is freed. -/
theorem handshake_violated :
    ∃ reached, Run (enabled next) opened
        (List.replicate 2 Process.bandwidthThread ++ List.replicate 9 Process.closeWifiNetwork)
        reached ∧ reached.Violates := by
  refine ⟨_, .cons rfl (.cons rfl (.cons rfl (.cons rfl (.cons rfl (.cons rfl (.cons rfl
    (.cons rfl (.cons rfl (.cons rfl (.cons rfl (.nil _))))))))))), .sender, rfl, rfl⟩

/-! ## The end of a run -/

/-- The steps that are left once `Delete` has posted `bw_sem` of the sender. -/
def remaining (shutdown : Shutdown w) : ℕ :=
  shutdown.thread.remaining + (20 - shutdown.delete.steps)

variable {shutdown reached : Shutdown w}

/-- **Each step then leaves fewer.** -/
theorem Inv.next_remaining (inv : shutdown.Inv)
    (posted : shutdown.delete.IsPast (.postSem .sender)) {process : Process}
    (taken : shutdown.next process = some reached) :
    reached.delete.IsPast (.postSem .sender) ∧ reached.remaining < shutdown.remaining := by
  cases process with
  | bandwidthThread =>
      rcases threadNext_cases taken with
        ⟨side, point, here, there, rfl⟩ |
          ⟨side, object, changed, after, accessed, found, executed, rfl⟩
      · refine ⟨posted, Nat.add_lt_add_right ?_ _⟩
        rw [here]
        rcases there with ⟨rfl, rfl⟩ | ⟨rfl, rfl⟩
        · exact Nat.lt_succ_self 6
        · exact Nat.lt_succ_self 5
      · refine ⟨posted, Nat.add_lt_add_right (ThreadPoint.execute_remaining ?_ executed) _⟩
        intro waits
        rw [waits] at accessed
        cases accessed
        exact inv.sem object (access_eq_some_iff.mp found).2 (by rw [waits]; rfl) posted
  | closeWifiNetwork =>
      obtain ⟨step, same⟩ := inv.deleteNext_steps taken
      refine ⟨(DeletePoint.isPast_next step).mpr (.inl posted), ?_⟩
      have bounded : reached.delete.steps < 21 :=
        List.idxOf_lt_length_of_mem (DeletePoint.mem_program reached.delete)
      rw [remaining, remaining, same]
      omega

/-- **The handshake comes to an end.** Once `Delete` has posted `bw_sem` of the sender, every run
is bounded, and where nobody can go on `Delete` has returned. -/
theorem ends_of_run {locals : Side → Bool} {senderObject receiverObject : WifiNetworkObject w}
    (sender : SemaphoresAsNew senderObject) (receiver : SemaphoresAsNew receiverObject)
    {before after : List Process}
    (run : Run (enabled next) (start locals senderObject receiverObject) before shutdown)
    (posted : shutdown.delete.IsPast (.postSem .sender))
    (rest : Run (enabled next) shutdown after reached) :
    after.length + reached.remaining ≤ shutdown.remaining ∧
      ((∀ process, reached.next process = none) → reached.delete = .returned) := by
  have inv := inv_of_run sender receiver run
  constructor
  · refine rest.length_le
      (fun state => state.Inv ∧ state.delete.IsPast (.postSem .sender)) remaining ?_ ⟨inv, posted⟩
    rintro state process following ⟨inv, posted⟩ taken
    obtain ⟨still, fewer⟩ := inv.next_remaining posted taken
    exact ⟨⟨inv.next_inv taken, still⟩, fewer⟩
  · exact (rest.invariant Inv (fun _ _ _ inv taken => inv.next_inv taken) inv).returned_of_stuck

end Shutdown

end WifiNetwork

end ARNetworkAL
