import ARNetworkAL.Library.Run
import Mathlib.Data.Nat.Notation

/-!
# How the bandwidth thread ends on iOS

`connectWithBTManager` posts `bw_threadRunning` once. A call of `bw_thread` takes the unit if it
is there, closes a window whenever its wait for `bw_sem` times out, and posts the unit again.
`disconnect` posts `bw_sem`, waits for `bw_threadRunning`, and keeps the unit: no window is
closed any more when it disconnects the peripheral. It does not look at what `ARSAL_Sem_Wait`
returns, and goes on without the unit if a signal interrupted the wait (`teardown_of_run`).

One unit of `bw_sem` wakes one thread. If another call of `bw_thread` takes the unit of
`bw_threadRunning` after the first one was woken and before `disconnect` has it, nothing wakes
that one, and `disconnect` waits until a signal interrupts it or that one. This is the only way in which
that happens (`awake_iff`), and without it `disconnect` returns (`disconnect_ends`).
-/

set_option autoImplicit false

namespace ARNetworkAL

open Library

namespace BleNetwork

namespace Ios

/-! ## The object and its threads -/

/-- Where the call of `connectWithBTManager` is: before it posts `bw_threadRunning`, between that
and the assignment of the peripheral, after that, or ended without either. -/
inductive ConnectPoint where
  | begun
  | posted
  | connected
  | failed
  deriving DecidableEq, Repr

/-- The posts before a point. -/
def ConnectPoint.units : ConnectPoint → ℕ
  | .begun | .failed => 0
  | .posted | .connected => 1

/-- Where the call of `disconnect` is that has the lock of the object. -/
inductive DisconnectPoint where
  | postSem
  | waitRunning
  | disconnectPeripheral
  | setNil
  deriving DecidableEq, Repr

/-- The members that the two threads share, where the one call of `connectWithBTManager` is and
the call of `disconnect` with the lock, and how many calls of `bw_thread` are at
`ARSAL_Sem_Timedwait`, in the body of the loop, and at `ARSAL_Sem_Post`. `disconnections` counts
the calls of `disconnectPeripheral`, and `missed` the waits of `disconnect` that were
interrupted. -/
structure Teardown where
  connect : ConnectPoint
  peripheral : Bool
  bwSem : ℕ
  bwThreadRunning : ℕ
  timedwait : ℕ
  body : ℕ
  posting : ℕ
  disconnect : Option DisconnectPoint
  disconnections : ℕ
  missed : ℕ
  deriving DecidableEq, Repr

/-- What happens next: a statement of `connectWithBTManager`, the beginning of a call of
`bw_thread`, the ways its wait ends, its other statements, a call of `disconnect`, and the
statements of the one that has the lock. -/
inductive Action where
  | connectPosts
  | connectFails
  | connectSets
  | bwThread
  | woken
  | timedOut
  | interrupted
  | window
  | threadPosts
  | disconnect (isMainThread : Bool)
  | postSem
  | waitRunning
  | waitInterrupted
  | disconnectPeripheral
  | setNil
  deriving DecidableEq, Repr

/-- A signal ended a wait. -/
def Action.Interrupts (action : Action) : Prop :=
  action = .interrupted ∨ action = .waitInterrupted

instance : DecidablePred Action.Interrupts :=
  fun _ => inferInstanceAs (Decidable (_ ∨ _))

/-- The action belongs to a call of `bw_thread` that has begun, or to the call of `disconnect`
that has the lock. -/
def Action.Inside : Action → Prop
  | .woken | .timedOut | .interrupted | .window | .threadPosts => True
  | .postSem | .waitRunning | .waitInterrupted | .disconnectPeripheral | .setNil => True
  | .connectPosts | .connectFails | .connectSets | .bwThread | .disconnect _ => False

namespace Teardown

/-- An object as `initWithManager` leaves it, while it is being connected. -/
def fresh : Teardown := ⟨.begun, false, 0, 0, 0, 0, 0, none, 0, 0⟩

/-- The calls of `bw_thread` that have the unit of `bw_threadRunning`. -/
def running (teardown : Teardown) : ℕ := teardown.timedwait + teardown.body + teardown.posting

/-- An action where it is possible, and the state after it. -/
inductive Step (teardown : Teardown) : Action → Teardown → Prop where
  | connectPosts (here : teardown.connect = .begun) :
      Step teardown .connectPosts { teardown with
        connect := .posted
        bwThreadRunning := teardown.bwThreadRunning + 1 }
  | connectFails (here : teardown.connect = .begun) :
      Step teardown .connectFails { teardown with connect := .failed }
  | connectSets (here : teardown.connect = .posted) :
      Step teardown .connectSets { teardown with connect := .connected, peripheral := true }
  -- the thread is running already or was stopped
  | threadRefused (unavailable : teardown.bwThreadRunning = 0) : Step teardown .bwThread teardown
  | threadStarts {units : ℕ} (available : teardown.bwThreadRunning = units + 1) :
      Step teardown .bwThread { teardown with
        bwThreadRunning := units
        timedwait := teardown.timedwait + 1 }
  | woken {threads units : ℕ} (waiting : teardown.timedwait = threads + 1)
      (available : teardown.bwSem = units + 1) :
      Step teardown .woken { teardown with
        bwSem := units
        timedwait := threads
        posting := teardown.posting + 1 }
  | timedOut {threads : ℕ} (waiting : teardown.timedwait = threads + 1)
      (unavailable : teardown.bwSem = 0) :
      Step teardown .timedOut { teardown with timedwait := threads, body := teardown.body + 1 }
  -- `errno` is `EINTR`
  | interrupted {threads : ℕ} (waiting : teardown.timedwait = threads + 1) :
      Step teardown .interrupted { teardown with
        timedwait := threads
        posting := teardown.posting + 1 }
  | window {threads : ℕ} (inside : teardown.body = threads + 1) :
      Step teardown .window { teardown with body := threads, timedwait := teardown.timedwait + 1 }
  | threadPosts {threads : ℕ} (inside : teardown.posting = threads + 1) :
      Step teardown .threadPosts { teardown with
        posting := threads
        bwThreadRunning := teardown.bwThreadRunning + 1 }
  | disconnectReturns {isMainThread : Bool} (unlocked : teardown.disconnect = none)
      (refused : teardown.peripheral = false ∨ isMainThread = true) :
      Step teardown (.disconnect isMainThread) teardown
  | disconnectBegins (unlocked : teardown.disconnect = none)
      (present : teardown.peripheral = true) :
      Step teardown (.disconnect false) { teardown with disconnect := some .postSem }
  | postSem (here : teardown.disconnect = some .postSem) :
      Step teardown .postSem { teardown with
        disconnect := some .waitRunning
        bwSem := teardown.bwSem + 1 }
  | waitRunning {units : ℕ} (here : teardown.disconnect = some .waitRunning)
      (available : teardown.bwThreadRunning = units + 1) :
      Step teardown .waitRunning { teardown with
        disconnect := some .disconnectPeripheral
        bwThreadRunning := units }
  -- the result is not looked at
  | waitInterrupted (here : teardown.disconnect = some .waitRunning) :
      Step teardown .waitInterrupted { teardown with
        disconnect := some .disconnectPeripheral
        missed := teardown.missed + 1 }
  | disconnectPeripheral (here : teardown.disconnect = some .disconnectPeripheral) :
      Step teardown .disconnectPeripheral { teardown with
        disconnect := some .setNil
        disconnections := teardown.disconnections + 1 }
  | setNil (here : teardown.disconnect = some .setNil) :
      Step teardown .setNil { teardown with disconnect := none, peripheral := false }

variable {teardown after : Teardown} {action : Action}

/-! ## The unit of `bw_threadRunning` -/

/-- The units of `bw_threadRunning` that `connectWithBTManager` has posted. -/
def posted (teardown : Teardown) : ℕ := teardown.connect.units

/-- The units that `disconnect` has kept, or gone on without. -/
def kept (teardown : Teardown) : ℕ :=
  teardown.disconnections + if teardown.disconnect = some .disconnectPeripheral then 1 else 0

/-- The unit is in the semaphore, or with a thread, or was kept by `disconnect` unless its wait
was interrupted. `disconnect` runs for a peripheral only and once for it. -/
structure Sound (teardown : Teardown) : Prop where
  unit : teardown.bwThreadRunning + teardown.running + teardown.kept =
    teardown.posted + teardown.missed
  missed : teardown.missed ≤ teardown.kept
  few : teardown.kept ≤ 1
  present : teardown.disconnect ≠ none → teardown.peripheral = true
  connected : teardown.peripheral = true → teardown.connect = .connected
  past : 0 < teardown.disconnections → teardown.connect = .connected
  once : 0 < teardown.disconnections → teardown.peripheral = true →
    teardown.disconnect = some .setNil

theorem fresh_sound : fresh.Sound where
  unit := rfl
  missed := Nat.le_refl 0
  few := Nat.zero_le 1
  present := fun locked => absurd rfl locked
  connected := fun present => absurd present Bool.false_ne_true
  past := fun positive => absurd positive (Nat.lt_irrefl 0)
  once := fun positive => absurd positive (Nat.lt_irrefl 0)

namespace Sound

/-- What `bw_thread` does leaves the unit with a thread or in the semaphore. -/
theorem of_thread (sound : teardown.Sound) {bwSem bwThreadRunning timedwait body posting : ℕ}
    (same : bwThreadRunning + (timedwait + body + posting) =
      teardown.bwThreadRunning + teardown.running) :
    Sound { teardown with
      bwSem := bwSem
      bwThreadRunning := bwThreadRunning
      timedwait := timedwait
      body := body
      posting := posting } where
  unit := (congrArg (· + teardown.kept) same).trans sound.unit
  missed := sound.missed
  few := sound.few
  present := sound.present
  connected := sound.connected
  past := sound.past
  once := sound.once

/-- A peripheral that is there was not disconnected before the last statement of
`disconnect`. -/
theorem disconnections_eq_zero (sound : teardown.Sound) (present : teardown.peripheral = true)
    (before : teardown.disconnect ≠ some .setNil) : teardown.disconnections = 0 := by
  rcases Nat.eq_zero_or_pos teardown.disconnections with zero | positive
  · exact zero
  · exact absurd (sound.once positive present) before

/-- Before `disconnect` goes on, nothing was disconnected and no wait interrupted. -/
theorem before_wait (sound : teardown.Sound) (present : teardown.peripheral = true)
    (waits : teardown.disconnect ≠ some .disconnectPeripheral)
    (before : teardown.disconnect ≠ some .setNil) :
    teardown.disconnections = 0 ∧ teardown.missed = 0 := by
  have never := sound.disconnections_eq_zero present before
  have missed := sound.missed
  rw [kept, never, if_neg waits] at missed
  exact ⟨never, Nat.le_zero.mp missed⟩

/-- A statement of `disconnect` before the last one. -/
theorem of_disconnect (sound : teardown.Sound) (present : teardown.peripheral = true)
    {point : DisconnectPoint} {bwSem bwThreadRunning disconnections missed : ℕ}
    (few : disconnections + (if point = .disconnectPeripheral then 1 else 0) ≤ 1)
    (unit : bwThreadRunning + (disconnections + if point = .disconnectPeripheral then 1 else 0) +
      teardown.missed = teardown.bwThreadRunning + teardown.kept + missed)
    (within : missed ≤ disconnections + if point = .disconnectPeripheral then 1 else 0)
    (once : 0 < disconnections → point = .setNil) :
    Sound { teardown with
      bwSem := bwSem
      bwThreadRunning := bwThreadRunning
      disconnect := some point
      disconnections := disconnections
      missed := missed } where
  unit := by
    have units := sound.unit
    simp only [running, kept, posted, Option.some.injEq] at units unit ⊢
    omega
  missed := by simpa [kept] using within
  few := by simpa [kept] using few
  present := fun _ => present
  connected := sound.connected
  past := fun _ => sound.connected present
  once := fun positive _ => congrArg some (once positive)

/-- Nothing is disconnected before there is a peripheral. -/
theorem unconnected (sound : teardown.Sound) (earlier : teardown.connect ≠ .connected) :
    teardown.disconnect = none ∧ teardown.disconnections = 0 := by
  refine ⟨?_, ?_⟩
  · by_contra locked
    exact earlier (sound.connected (sound.present locked))
  · by_contra some
    exact earlier (sound.past (Nat.pos_of_ne_zero some))

/-- No wait is interrupted before there is a peripheral. -/
theorem unmissed (sound : teardown.Sound) (earlier : teardown.connect ≠ .connected) :
    teardown.missed = 0 := by
  obtain ⟨unlocked, never⟩ := sound.unconnected earlier
  have missed := sound.missed
  simpa [kept, unlocked, never] using missed

/-- A statement of `connectWithBTManager`. -/
theorem of_connect (sound : teardown.Sound) (earlier : teardown.connect ≠ .connected)
    {point : ConnectPoint} {bwThreadRunning : ℕ} {peripheral : Bool}
    (unit : bwThreadRunning + teardown.running = point.units)
    (connected : peripheral = true → point = .connected) :
    Sound { teardown with
      connect := point
      peripheral := peripheral
      bwThreadRunning := bwThreadRunning } := by
  obtain ⟨unlocked, never⟩ := sound.unconnected earlier
  have before : ¬ 0 < teardown.disconnections := Nat.not_lt.mpr (Nat.le_of_eq never)
  have missed := sound.unmissed earlier
  refine ⟨?_, sound.missed, sound.few, ?_, connected, ?_, ?_⟩
  · simpa [running, kept, posted, unlocked, never, missed] using unit
  · exact fun locked => absurd unlocked locked
  · exact fun positive => absurd positive before
  · exact fun positive => absurd positive before

/-- The units that are not taken before there is a peripheral. -/
theorem unit_unconnected (sound : teardown.Sound) (earlier : teardown.connect ≠ .connected) :
    teardown.bwThreadRunning + teardown.running = teardown.connect.units := by
  obtain ⟨unlocked, never⟩ := sound.unconnected earlier
  simpa [kept, posted, unlocked, never, sound.unmissed earlier] using sound.unit

/-- **Every action keeps the invariant.** -/
theorem step (sound : teardown.Sound) (taken : Step teardown action after) : after.Sound := by
  have unit := sound.unit
  have missed := sound.missed
  have few := sound.few
  cases taken with
  | connectPosts here =>
      have earlier : teardown.connect ≠ .connected := by rw [here]; decide
      have none := sound.unit_unconnected earlier
      rw [here, ConnectPoint.units] at none
      apply sound.of_connect earlier
      · rw [ConnectPoint.units]
        omega
      · exact fun present => absurd (here.symm.trans (sound.connected present)) (by decide)
  | connectFails here =>
      have earlier : teardown.connect ≠ .connected := by rw [here]; decide
      have none := sound.unit_unconnected earlier
      rw [here] at none
      apply sound.of_connect earlier
      · exact none
      · exact fun present => absurd (here.symm.trans (sound.connected present)) (by decide)
  | connectSets here =>
      have earlier : teardown.connect ≠ .connected := by rw [here]; decide
      have one := sound.unit_unconnected earlier
      rw [here] at one
      apply sound.of_connect earlier
      · exact one
      · exact fun _ => rfl
  | threadRefused unavailable => exact sound
  | threadStarts available =>
      apply sound.of_thread
      simp only [running, available]
      omega
  | woken waiting available =>
      apply sound.of_thread
      simp only [running, waiting]
      omega
  | timedOut waiting unavailable =>
      apply sound.of_thread
      simp only [running, waiting]
      omega
  | interrupted waiting =>
      apply sound.of_thread
      simp only [running, waiting]
      omega
  | window inside =>
      apply sound.of_thread
      simp only [running, inside]
      omega
  | threadPosts inside =>
      apply sound.of_thread
      simp only [running, inside]
      omega
  | disconnectReturns unlocked refused => exact sound
  | disconnectBegins unlocked present =>
      obtain ⟨never, none⟩ :=
        sound.before_wait present (by rw [unlocked]; decide) (by rw [unlocked]; decide)
      apply sound.of_disconnect present
      · simp [never]
      · simp [kept, unlocked]
      · simp [none]
      · simp [never]
  | postSem here =>
      have present := sound.present (by rw [here]; decide)
      obtain ⟨never, none⟩ :=
        sound.before_wait present (by rw [here]; decide) (by rw [here]; decide)
      apply sound.of_disconnect present
      · simp [never]
      · simp [kept, here]
      · simp [none]
      · simp [never]
  | waitRunning here available =>
      have present := sound.present (by rw [here]; decide)
      obtain ⟨never, none⟩ :=
        sound.before_wait present (by rw [here]; decide) (by rw [here]; decide)
      apply sound.of_disconnect present
      · simp [never]
      · simp [kept, here, available]
        omega
      · simp [none]
      · simp [never]
  | waitInterrupted here =>
      have present := sound.present (by rw [here]; decide)
      obtain ⟨never, none⟩ :=
        sound.before_wait present (by rw [here]; decide) (by rw [here]; decide)
      apply sound.of_disconnect present
      · simp [never]
      · simp [kept, here]
        omega
      · simp [never, none]
      · simp [never]
  | disconnectPeripheral here =>
      have present := sound.present (by rw [here]; decide)
      simp [kept, here] at missed few
      apply sound.of_disconnect present
      · simp [few]
      · simp [kept, here]
      · simpa using missed
      · exact fun _ => rfl
  | setNil here =>
      have present := sound.present (by rw [here]; decide)
      refine ⟨?_, ?_, ?_, ?_, ?_, ?_, ?_⟩
      · simpa [running, kept, posted, here] using unit
      · simpa [kept, here] using missed
      · simpa [kept, here] using few
      · exact fun locked => absurd rfl locked
      · exact fun present => absurd present Bool.false_ne_true
      · exact fun _ => sound.connected present
      · exact fun _ present => absurd present Bool.false_ne_true

theorem of_run {actions : List Action} (sound : teardown.Sound)
    (run : Run Step teardown actions after) : after.Sound :=
  run.invariant Sound (fun _ _ _ sound taken => sound.step taken) sound

/-- `connectWithBTManager` posts once. -/
theorem posted_le_one (teardown : Teardown) : teardown.posted ≤ 1 := by
  rw [posted]
  cases teardown.connect <;> decide

/-- One thread at most is past the test. -/
theorem running_le_one (sound : teardown.Sound) : teardown.running ≤ 1 := by
  have units := posted_le_one teardown
  have unit := sound.unit
  have missed := sound.missed
  omega

/-- `disconnect` goes on for a peripheral only. -/
theorem connected_of_kept (sound : teardown.Sound) (kept : 0 < teardown.kept) :
    teardown.connect = .connected := by
  by_contra earlier
  obtain ⟨unlocked, never⟩ := sound.unconnected earlier
  simp [Teardown.kept, unlocked, never] at kept

/-- Once `disconnect` went on, no thread has the unit or gets it exactly if the wait was not
interrupted. -/
theorem quiet_iff (sound : teardown.Sound) (kept : 0 < teardown.kept) :
    (teardown.running = 0 ∧ teardown.bwThreadRunning = 0) ↔ teardown.missed = 0 := by
  have posted : teardown.posted = 1 := by
    rw [posted, sound.connected_of_kept kept]
    rfl
  have unit := sound.unit
  have missed := sound.missed
  have few := sound.few
  omega

/-- Once `disconnect` went on, its wait is over. -/
theorem missed_step (sound : teardown.Sound) (kept : 0 < teardown.kept)
    (taken : Step teardown action after) : after.missed = teardown.missed := by
  cases taken with
  | waitInterrupted here =>
      have present := sound.present (by rw [here]; decide)
      have before := sound.disconnections_eq_zero present (by rw [here]; decide)
      simp [Teardown.kept, here, before] at kept
  | _ => rfl

end Sound

/-- What `disconnect` has kept stays kept. -/
theorem kept_le (taken : Step teardown action after) : teardown.kept ≤ after.kept := by
  cases taken with
  | disconnectBegins unlocked present => simp [kept, unlocked]
  | postSem here => simp [kept, here]
  | waitRunning here available => simp [kept, here]
  | waitInterrupted here => simp [kept, here]
  | disconnectPeripheral here => simp [kept, here]
  | setNil here => simp [kept, here]
  | _ => exact Nat.le_refl _

/-- Every interrupted wait is counted. -/
theorem missed_of_run {actions : List Action} (run : Run Step teardown actions after) :
    after.missed = teardown.missed + actions.count .waitInterrupted := by
  induction run with
  | nil teardown => rfl
  | cons taken onward ih =>
      rw [ih, List.count_cons, Nat.add_comm (List.count _ _), ← Nat.add_assoc]
      congr 1
      cases taken <;> rfl

/-- **For any number of bandwidth threads and calls of `disconnect`, in any order**: one thread
at most is in the loop, the peripheral is disconnected once at most, and from the moment it is
disconnected no thread is in the loop and none enters it, exactly if no signal interrupted the
wait of `disconnect`. -/
theorem teardown_of_run {actions : List Action} (run : Run Step fresh actions teardown) :
    teardown.running ≤ 1 ∧ teardown.disconnections ≤ 1 ∧
      ((∃ after, Step teardown .disconnectPeripheral after) →
        ((∀ others reached, Run Step teardown others reached →
            reached.running = 0 ∧ ∀ next, Step reached .bwThread next → next = reached) ↔
          .waitInterrupted ∉ actions)) := by
  have sound := fresh_sound.of_run run
  have few := sound.few
  refine ⟨sound.running_le_one, by rw [kept] at few; omega, ?_⟩
  rintro ⟨after, taken⟩
  have start : 0 < teardown.kept := by
    cases taken with
    | disconnectPeripheral here => simp [kept, here]
  have counted := missed_of_run run
  rw [show fresh.missed = 0 from rfl, Nat.zero_add] at counted
  rw [← List.count_eq_zero, ← counted]
  constructor
  · intro still
    obtain ⟨none, unmoved⟩ := still [] teardown (.nil teardown)
    refine (sound.quiet_iff start).mp ⟨none, ?_⟩
    cases available : teardown.bwThreadRunning with
    | zero => rfl
    | succ units =>
        have same := congrArg timedwait (unmoved _ (.threadStarts available))
        exact absurd same (Nat.succ_ne_self _)
  · intro unmissed others reached onward
    obtain ⟨sound, kept, unmissed⟩ := onward.invariant
      (fun teardown => teardown.Sound ∧ 0 < teardown.kept ∧ teardown.missed = 0) (by
        rintro _ _ _ ⟨sound, kept, unmissed⟩ taken
        exact ⟨sound.step taken, Nat.lt_of_lt_of_le kept (kept_le taken),
          (sound.missed_step kept taken).trans unmissed⟩)
      ⟨sound, start, unmissed⟩
    obtain ⟨none, unavailable⟩ := (sound.quiet_iff kept).mpr unmissed
    refine ⟨none, ?_⟩
    intro next begun
    cases begun with
    | threadRefused unavailable => rfl
    | threadStarts available =>
        exact absurd (available.symm.trans unavailable) (Nat.succ_ne_zero _)

/-- A thread closes one window, is woken by `disconnect`, and posts. -/
def oneThread : List Action :=
  [.connectPosts, .connectSets, .bwThread, .timedOut, .window, .disconnect false, .postSem,
    .woken, .threadPosts]

/-- Where it leads. -/
def ended : Teardown := ⟨.connected, true, 0, 1, 0, 0, 0, some .waitRunning, 0, 0⟩

theorem run_oneThread : Run Step fresh oneThread ended :=
  .cons (.connectPosts rfl) (.cons (.connectSets rfl) (.cons (.threadStarts rfl)
    (.cons (.timedOut rfl rfl) (.cons (.window rfl) (.cons (.disconnectBegins rfl rfl)
      (.cons (.postSem rfl) (.cons (.woken rfl rfl) (.cons (.threadPosts rfl) (.nil _)))))))))

/-- Before `disconnect` has the unit. -/
theorem teardown_of_run_ended :
    ended.running ≤ 1 ∧ ended.disconnections ≤ 1 ∧
      ((∃ after, Step ended .disconnectPeripheral after) →
        ((∀ others reached, Run Step ended others reached →
            reached.running = 0 ∧ ∀ next, Step reached .bwThread next → next = reached) ↔
          .waitInterrupted ∉ oneThread)) :=
  teardown_of_run run_oneThread

/-! ## Nothing wakes a thread twice -/

/-- If `disconnect` waits and `bw_sem` was taken, no thread waits for it. -/
def Awake (teardown : Teardown) : Prop :=
  teardown.disconnect = some .waitRunning → teardown.bwSem = 0 →
    teardown.timedwait = 0 ∧ teardown.body = 0

/-- A call of `bw_thread` does not take the unit after another one was woken for `disconnect`. -/
def Single (teardown : Teardown) (action : Action) : Prop :=
  action = .bwThread → teardown.disconnect = some .waitRunning → teardown.bwSem = 0 →
    teardown.bwThreadRunning = 0

/-- An action leads to one state. -/
theorem step_functional (teardown : Teardown) (action : Action) (after other : Teardown)
    (taken : Step teardown action after) (taken' : Step teardown action other) :
    after = other := by
  cases taken <;> cases taken' <;> simp_all

/-- An action keeps the threads awake exactly if it is not a second call that takes the unit. -/
theorem awake_step_iff (sound : teardown.Sound) (awake : teardown.Awake)
    (taken : Step teardown action after) : after.Awake ↔ Single teardown action := by
  have bounds := sound.running_le_one
  simp only [running] at bounds
  cases taken with
  | threadRefused unavailable =>
      exact iff_of_true awake fun _ _ _ => unavailable
  | @threadStarts units available =>
      constructor
      · intro still _ waits taken
        exact absurd (still waits taken).1 (Nat.succ_ne_zero _)
      · intro single waits taken
        have none := single rfl waits taken
        rw [available] at none
        exact absurd none (Nat.succ_ne_zero _)
  | @woken threads units waiting available =>
      refine iff_of_true (fun _ _ => ?_) nofun
      show threads = 0 ∧ teardown.body = 0
      omega
  | timedOut waiting unavailable =>
      refine iff_of_true (fun waits _ => ?_) nofun
      rw [(awake waits unavailable).1] at waiting
      cases waiting
  | @interrupted threads waiting =>
      refine iff_of_true (fun _ _ => ?_) nofun
      show threads = 0 ∧ teardown.body = 0
      omega
  | window inside =>
      refine iff_of_true (fun waits taken => ?_) nofun
      rw [(awake waits taken).2] at inside
      cases inside
  | postSem here => exact iff_of_true (fun _ taken => absurd taken (Nat.succ_ne_zero _)) nofun
  | disconnectBegins unlocked present => exact iff_of_true nofun nofun
  | waitRunning here available => exact iff_of_true nofun nofun
  | waitInterrupted here => exact iff_of_true nofun nofun
  | disconnectPeripheral here => exact iff_of_true nofun nofun
  | setNil here => exact iff_of_true nofun nofun
  | _ => exact iff_of_true awake nofun

/-- **No thread sleeps while `disconnect` waits for it, in every state that a run passes, exactly
if no second call of `bw_thread` takes the unit** between the end of the first one and
`disconnect`. -/
theorem awake_iff {actions : List Action} (run : Run Step fresh actions teardown) :
    (∀ passed, passed <+: actions → ∀ reached, Run Step fresh passed reached → reached.Awake) ↔
      Run (restrict Single Step) fresh actions teardown := by
  have exact : ∀ teardown action after, teardown.Sound ∧ teardown.Awake →
      Step teardown action after → (after.Sound ∧ after.Awake ↔ Single teardown action) := by
    intro teardown action after inv taken
    rw [and_iff_right (inv.1.step taken)]
    exact awake_step_iff inv.1 inv.2 taken
  rw [← run.always_iff (fun teardown => teardown.Sound ∧ teardown.Awake) Single step_functional
    exact ⟨fresh_sound, nofun⟩]
  constructor
  · intro awake passed start reached there
    exact ⟨fresh_sound.of_run there, awake passed start reached there⟩
  · intro both passed start reached there
    exact (both passed start reached there).2

/-- Another call takes the unit that the first one posted. -/
theorem awake_iff_second :
    (∀ passed, passed <+: oneThread ++ [.bwThread] →
      ∀ reached, Run Step fresh passed reached → reached.Awake) ↔
        Run (restrict Single Step) fresh (oneThread ++ [.bwThread])
          { ended with bwThreadRunning := 0, timedwait := 1 } :=
  awake_iff (run_oneThread.append (.single (.threadStarts rfl)))

/-! ## `disconnect` returns -/

/-- `disconnect` has posted `bw_sem`. -/
def Engaged (teardown : Teardown) : Prop :=
  teardown.disconnect = some .waitRunning ∨ 0 < teardown.kept

/-- The statements to come before `disconnect` returns. -/
def remaining (teardown : Teardown) : ℕ :=
  3 * teardown.body + 2 * teardown.timedwait + teardown.posting +
    match teardown.disconnect with
    | some .postSem => 4
    | some .waitRunning => 3
    | some .disconnectPeripheral => 2
    | some .setNil => 1
    | none => 0

/-- What holds from then on. No thread waits for a unit of `bw_sem` that is not there. -/
structure Ending (teardown : Teardown) : Prop where
  sound : teardown.Sound
  roused : teardown.bwSem = 0 → teardown.timedwait = 0 ∧ teardown.body = 0
  engaged : teardown.Engaged

namespace Ending

/-- Unless a call begins, none falls asleep. -/
theorem roused_step (ending : teardown.Ending) (inside : action.Inside)
    (taken : Step teardown action after) :
    after.bwSem = 0 → after.timedwait = 0 ∧ after.body = 0 := by
  have bounds := ending.sound.running_le_one
  simp only [running] at bounds
  cases taken with
  | @woken threads units waiting available =>
      intro _
      show threads = 0 ∧ teardown.body = 0
      omega
  | timedOut waiting unavailable =>
      rw [(ending.roused unavailable).1] at waiting
      cases waiting
  | @interrupted threads waiting =>
      intro _
      show threads = 0 ∧ teardown.body = 0
      omega
  | window here =>
      intro taken
      rw [(ending.roused taken).2] at here
      cases here
  | postSem here => exact fun taken => absurd taken (Nat.succ_ne_zero _)
  | disconnectReturns unlocked refused => exact inside.elim
  | disconnectBegins unlocked present => exact inside.elim
  | connectPosts here => exact inside.elim
  | connectFails here => exact inside.elim
  | connectSets here => exact inside.elim
  | threadRefused unavailable => exact inside.elim
  | threadStarts available => exact inside.elim
  | _ => exact ending.roused

theorem engaged_step (ending : teardown.Ending) (taken : Step teardown action after) :
    after.Engaged := by
  rcases ending.engaged with waits | kept
  · cases taken with
    | disconnectBegins unlocked present => exact absurd (unlocked.symm.trans waits) nofun
    | postSem here => exact .inl rfl
    | waitRunning here available => exact .inr (by simp [kept])
    | waitInterrupted here => exact .inr (by simp [kept])
    | disconnectPeripheral here => exact .inr (by simp [kept])
    | setNil here => exact absurd (here.symm.trans waits) (by decide)
    | _ => exact .inl waits
  · exact .inr (Nat.lt_of_lt_of_le kept (kept_le taken))

/-- **Every action leaves less to come.** -/
theorem step (ending : teardown.Ending) (inside : action.Inside)
    (taken : Step teardown action after) :
    after.Ending ∧ after.remaining < teardown.remaining := by
  refine ⟨⟨ending.sound.step taken, ending.roused_step inside taken,
    ending.engaged_step taken⟩, ?_⟩
  cases taken with
  | woken waiting available =>
      simp only [remaining, waiting]
      omega
  | timedOut waiting unavailable =>
      rw [(ending.roused unavailable).1] at waiting
      cases waiting
  | interrupted waiting =>
      simp only [remaining, waiting]
      omega
  | window here =>
      simp only [remaining, here]
      omega
  | threadPosts here =>
      simp only [remaining, here]
      omega
  | postSem here => simp [remaining, here]
  | waitRunning here available => simp [remaining, here]
  | waitInterrupted here => simp [remaining, here]
  | disconnectPeripheral here => simp [remaining, here]
  | setNil here => simp [remaining, here]
  | _ => exact inside.elim

/-- While `disconnect` has the lock, it or the thread goes on without a signal. -/
theorem progress (ending : teardown.Ending) (locked : teardown.disconnect ≠ none) :
    ∃ action after, action.Inside ∧ ¬ action.Interrupts ∧ Step teardown action after := by
  obtain ⟨point, here⟩ := Option.ne_none_iff_exists'.mp locked
  cases point with
  | postSem => exact ⟨.postSem, _, trivial, by decide, .postSem here⟩
  | disconnectPeripheral =>
      exact ⟨.disconnectPeripheral, _, trivial, by decide, .disconnectPeripheral here⟩
  | setNil => exact ⟨.setNil, _, trivial, by decide, .setNil here⟩
  | waitRunning =>
      cases available : teardown.bwThreadRunning with
      | succ units => exact ⟨.waitRunning, _, trivial, by decide, .waitRunning here available⟩
      | zero =>
          have present := ending.sound.present locked
          obtain ⟨never, none⟩ :=
            ending.sound.before_wait present (by rw [here]; decide) (by rw [here]; decide)
          have unit := ending.sound.unit
          simp [available, running, kept, here, never, none, posted, ending.sound.connected present,
            ConnectPoint.units] at unit
          -- the unit is with a thread, which is before one of its three statements
          cases posting : teardown.posting with
          | succ threads => exact ⟨.threadPosts, _, trivial, by decide, .threadPosts posting⟩
          | zero =>
              cases body : teardown.body with
              | succ threads => exact ⟨.window, _, trivial, by decide, .window body⟩
              | zero =>
                  have waiting : teardown.timedwait = 0 + 1 := by omega
                  cases sem : teardown.bwSem with
                  | succ units => exact ⟨.woken, _, trivial, by decide, .woken waiting sem⟩
                  | zero => exact absurd (ending.roused sem).1 (by omega)

/-- The peripheral was disconnected when `disconnect` has returned. -/
theorem returned (ending : teardown.Ending) (unlocked : teardown.disconnect = none) :
    teardown.peripheral = false ∧ teardown.disconnections = 1 := by
  have kept : 0 < teardown.kept := by
    rcases ending.engaged with waits | kept
    · exact absurd (unlocked.symm.trans waits) nofun
    · exact kept
  have bounds := ending.sound.few
  simp only [Teardown.kept, unlocked] at kept bounds
  have once : teardown.disconnections = 1 := by
    simp at kept bounds
    omega
  refine ⟨?_, once⟩
  rw [← Bool.not_eq_true]
  intro present
  have last := ending.sound.once (by omega) present
  exact absurd (unlocked.symm.trans last) nofun

end Ending

/-- **`disconnect` returns.** From a state in which it waits, unless a second call of
`bw_thread` had taken the unit, the calls that have begun come to an end after six statements at
most, and one of them can go on without a signal until `disconnect` has returned, with the
peripheral disconnected once. -/
theorem disconnect_ends {actions others : List Action} {reached : Teardown}
    (run : Run (restrict Single Step) fresh actions teardown)
    (waits : teardown.disconnect = some .waitRunning)
    (onward : Run (restrict (fun _ action => action.Inside) Step) teardown others reached) :
    others.length ≤ 6 ∧
      (reached.disconnect ≠ none →
        ∃ action after, action.Inside ∧ ¬ action.Interrupts ∧ Step reached action after) ∧
      (reached.disconnect = none → reached.peripheral = false ∧ reached.disconnections = 1) := by
  have plain : Run Step fresh actions teardown := run.of_restrict
  have awake := (awake_iff plain).mpr run actions (List.prefix_refl _) teardown plain
  have start : teardown.Ending := ⟨fresh_sound.of_run plain, awake waits, .inl waits⟩
  have lowered : ∀ teardown action after, teardown.Ending →
      restrict (fun _ action => Action.Inside action) Step teardown action after →
        after.Ending ∧ after.remaining < teardown.remaining :=
    fun _ _ _ ending taken => ending.step taken.1 taken.2
  have bound := onward.length_le Ending remaining lowered start
  have ending := onward.invariant Ending
    (fun _ _ _ ending taken => (ending.step taken.1 taken.2).1) start
  refine ⟨?_, ending.progress, ending.returned⟩
  have few := start.sound.running_le_one
  simp only [running] at few
  have remains : teardown.remaining ≤ 6 := by
    simp only [remaining, waits]
    omega
  omega

/-- The run of one thread, from the post of `bw_sem` on. -/
theorem disconnect_ends_woken :
    [Action.woken, .threadPosts].length ≤ 6 ∧
      (ended.disconnect ≠ none →
        ∃ action after, action.Inside ∧ ¬ action.Interrupts ∧ Step ended action after) ∧
      (ended.disconnect = none → ended.peripheral = false ∧ ended.disconnections = 1) :=
  disconnect_ends
    (show Run (restrict Single Step) fresh (oneThread.take 7)
        ⟨.connected, true, 1, 0, 1, 0, 0, some .waitRunning, 0, 0⟩ from
      .cons ⟨nofun, .connectPosts rfl⟩ (.cons ⟨nofun, .connectSets rfl⟩
        (.cons ⟨nofun, .threadStarts rfl⟩ (.cons ⟨nofun, .timedOut rfl rfl⟩
          (.cons ⟨nofun, .window rfl⟩ (.cons ⟨nofun, .disconnectBegins rfl rfl⟩
            (.cons ⟨nofun, .postSem rfl⟩ (.nil _))))))))
    rfl (.cons ⟨trivial, .woken rfl rfl⟩ (.single ⟨trivial, .threadPosts rfl⟩))

end Teardown

end Ios

end BleNetwork

end ARNetworkAL
