import ARNetworkAL.Library.Hook
import Mathlib.Logic.Function.Basic

/-!
# A disconnection that is reported while its network is deleted

The stack reports a lost link by `onBLEDisconnect`, in a thread of its own, to the object that is
its listener, or its delegate on iOS. There is one for all the networks of a process.

On Android the report reads the native object twice, to test the function and to call it, and
`ObjectDelete` frees the object once `disconnect` has set the listener to null. That does not end
a report that has begun. Exactly the reports that are still to read the object when it is freed
read freed memory as they go on (`Jni.Listening.late_of_run`).

On iOS `Delete` first clears the function to call, and the report reads it twice, to test it and
to call it. Exactly the reports between the two when it is cleared call a null function
(`Ios.Delegating.nullCalls_of_run`).

The number of threads that report is not bounded in either.
-/

set_option autoImplicit false

namespace ARNetworkAL

open Library

namespace BleNetwork

variable {ι : Type}

/-! ## Android -/

namespace Jni

/-- How far an object is: in `disconnect`, which `cancel` and `ObjectDelete` call, after it in
`ObjectDelete`, or freed. -/
inductive ObjectPoint where
  | live
  | disconnecting (deletes : Bool)
  | disconnected
  | freed
  deriving DecidableEq, Repr

/-- The listener of `ARSALBLEManager`, and for each object how far it is, whether a function is
to be called, the reports that have not read the native object yet, those that have found a
function there, those that called the function and a null one, and those that read the object
after it was freed. -/
structure Listening (ι : Type) where
  listener : Option ι
  point : ι → ObjectPoint
  onDisconnect : ι → Bool
  reporting : ι → ℕ
  tested : ι → ℕ
  called : ι → ℕ
  nullCalls : ι → ℕ
  late : ι → ℕ

/-- What happens next. `nativeJNIOnDisconect` has two statements. -/
inductive ListenerAction (ι : Type) where
  | setOnDisconnectCallback (object : ι) (callback : Bool)
  | connect (object : ι)
  | onBLEDisconnect (object : ι)
  | testOnDisconnect (object : ι)
  | callOnDisconnect (object : ι)
  | disconnect (object : ι) (deletes : Bool)
  | setListenerNull (object : ι)
  | free (object : ι)

namespace Listening

/-- No object is connected. -/
def start : Listening ι where
  listener := none
  point := fun _ => .live
  onDisconnect := fun _ => false
  reporting := fun _ => 0
  tested := fun _ => 0
  called := fun _ => 0
  nullCalls := fun _ => 0
  late := fun _ => 0

/-- An object that is past `disconnect` on its way to be freed is not the listener. -/
def Sound (s : Listening ι) : Prop :=
  ∀ object, s.point object = .disconnected ∨ s.point object = .freed → s.listener ≠ some object

theorem start_sound : (start : Listening ι).Sound := by
  intro object deleted
  rcases deleted with there | there <;> cases there

/-- `connect` sets the listener, which another thread may have set to null for `cancel`. It is
not called on an object that is deleted. -/
def setListener (object : ι) (s : Listening ι) : Option (Listening ι) :=
  match s.point object with
  | .live | .disconnecting false => some { s with listener := some object }
  | _ => none

/-- `connect` does not set an object that is deleted. -/
theorem setListener_cases {s after : Listening ι} {object : ι}
    (taken : s.setListener object = some after) :
    s.point object ≠ .disconnected ∧ s.point object ≠ .freed ∧
      after = { s with listener := some object } := by
  rw [setListener] at taken
  split at taken
  · rename_i here
    cases taken
    simp [here]
  · rename_i here
    cases taken
    simp [here]
  · cases taken

variable [DecidableEq ι]

/-- `nativeJNIOnDisconect` reads the function of the object, and ends where there is none. -/
def testOnDisconnect (object : ι) (s : Listening ι) : Option (Listening ι) :=
  match s.reporting object with
  | 0 => none
  | others + 1 =>
      let s := { s with reporting := Function.update s.reporting object others }
      if s.point object = .freed then
        some { s with late := Function.update s.late object (s.late object + 1) }
      else if s.onDisconnect object then
        some { s with tested := Function.update s.tested object (s.tested object + 1) }
      else some s

/-- It reads the function anew, with the manager and the custom data, and calls it. -/
def callOnDisconnect (object : ι) (s : Listening ι) : Option (Listening ι) :=
  match s.tested object with
  | 0 => none
  | others + 1 =>
      let s := { s with tested := Function.update s.tested object others }
      if s.point object = .freed then
        some { s with late := Function.update s.late object (s.late object + 1) }
      else if s.onDisconnect object then
        some { s with called := Function.update s.called object (s.called object + 1) }
      else
        some { s with nullCalls := Function.update s.nullCalls object (s.nullCalls object + 1) }

/-- `disconnect` ends by `setListener (null)`, whichever object the listener is. -/
def setListenerNull (object : ι) (s : Listening ι) : Option (Listening ι) :=
  match s.point object with
  | .disconnecting deletes =>
      some { s with
        listener := none
        point := Function.update s.point object (if deletes then .disconnected else .live) }
  | _ => none

/-- The state after an action. -/
def next (s : Listening ι) : ListenerAction ι → Option (Listening ι)
  | .setOnDisconnectCallback object callback =>
      if s.point object = .live then
        some { s with onDisconnect := Function.update s.onDisconnect object callback }
      else none
  | .connect object => s.setListener object
  | .onBLEDisconnect object =>
      if s.listener = some object then
        some { s with
          reporting := Function.update s.reporting object (s.reporting object + 1) }
      else none
  | .testOnDisconnect object => s.testOnDisconnect object
  | .callOnDisconnect object => s.callOnDisconnect object
  | .disconnect object deletes =>
      if s.point object = .live then
        some { s with point := Function.update s.point object (.disconnecting deletes) }
      else none
  | .setListenerNull object => s.setListenerNull object
  | .free object =>
      if s.point object = .disconnected then
        some { s with point := Function.update s.point object .freed }
      else none

/-! ### An object as a hook -/

/-- An object is a hook of the stack. -/
def view (object : ι) (s : Listening ι) : Hook where
  registered := decide (s.listener = some object)
  disposed := decide (s.point object = .freed)
  underWay := s.reporting object + s.tested object
  misused := s.late object

/-- What an action is to an object. -/
def move (object : ι) : ListenerAction ι → Hook.Move
  | .setOnDisconnectCallback _ _ => .stay
  | .connect other => if other = object then .register else .retract
  | .onBLEDisconnect other => if other = object then .begin else .stay
  | .testOnDisconnect other => if other = object then .use else .stay
  | .callOnDisconnect other => if other = object then .use else .stay
  | .disconnect _ _ => .stay
  | .setListenerNull _ => .retract
  | .free other => if other = object then .dispose else .stay

variable {s after : Listening ι} {action : ListenerAction ι}

/-- A report that goes on reads its object, and leaves the others as they are. -/
structure Uses (object : ι) (s after : Listening ι) : Prop where
  listener : after.listener = s.listener
  point : after.point = s.point
  use : Hook.Step (s.view object) .use (after.view object)
  others : ∀ other ≠ object, after.view other = s.view other

theorem uses_testOnDisconnect {object : ι} (taken : s.testOnDisconnect object = some after) :
    Uses object s after := by
  simp only [testOnDisconnect] at taken
  split at taken
  · cases taken
  · rename_i others begun
    have ends : Hook.Step (s.view object) .use { s.view object with
        underWay := others + s.tested object
        misused := s.late object + (decide (s.point object = .freed)).toNat } :=
      .use (show s.reporting object + s.tested object = others + s.tested object + 1 by omega)
    split at taken
    · rename_i gone
      cases taken
      refine ⟨rfl, rfl, ?_, fun other distinct => by simp [view, Function.update_of_ne distinct]⟩
      simpa [view, gone] using ends
    · rename_i kept
      split at taken
      · cases taken
        refine ⟨rfl, rfl, ?_,
          fun other distinct => by simp [view, Function.update_of_ne distinct]⟩
        have goesOn : Hook.Step (s.view object) .use (s.view object) :=
          .useFirst (decide_eq_false kept)
        have same : others + (s.tested object + 1) = s.reporting object + s.tested object := by
          omega
        simpa [view, same] using goesOn
      · cases taken
        refine ⟨rfl, rfl, ?_,
          fun other distinct => by simp [view, Function.update_of_ne distinct]⟩
        simpa [view, kept] using ends

theorem uses_callOnDisconnect {object : ι} (taken : s.callOnDisconnect object = some after) :
    Uses object s after := by
  simp only [callOnDisconnect] at taken
  split at taken
  · cases taken
  · rename_i others begun
    have ends : Hook.Step (s.view object) .use { s.view object with
        underWay := s.reporting object + others
        misused := s.late object + (decide (s.point object = .freed)).toNat } :=
      .use (show s.reporting object + s.tested object = s.reporting object + others + 1 by omega)
    split at taken
    · rename_i gone
      cases taken
      refine ⟨rfl, rfl, ?_, fun other distinct => by simp [view, Function.update_of_ne distinct]⟩
      simpa [view, gone] using ends
    · rename_i kept
      split at taken
      · cases taken
        refine ⟨rfl, rfl, ?_,
          fun other distinct => by simp [view, Function.update_of_ne distinct]⟩
        simpa [view, kept] using ends
      · cases taken
        refine ⟨rfl, rfl, ?_,
          fun other distinct => by simp [view, Function.update_of_ne distinct]⟩
        simpa [view, kept] using ends

/-- What a report that goes on is to every object. -/
theorem Uses.step {object other : ι} (uses : Uses other s after) (sound : s.Sound) :
    after.Sound ∧
      Hook.Step (s.view object) (if other = object then .use else .stay) (after.view object) := by
  refine ⟨?_, ?_⟩
  · intro third
    rw [uses.listener, uses.point]
    exact sound third
  · by_cases same : other = object
    · subst same
      rw [if_pos rfl]
      exact uses.use
    · rw [if_neg same, uses.others object (Ne.symm same)]
      exact .stay

theorem setListenerNull_cases {object : ι} (taken : s.setListenerNull object = some after) :
    ∃ point, s.point object ≠ .freed ∧ point ≠ .freed ∧
      after = { s with listener := none, point := Function.update s.point object point } := by
  rw [setListenerNull] at taken
  split at taken
  · rename_i deletes here
    cases taken
    refine ⟨_, by simp [here], ?_, rfl⟩
    cases deletes <;> simp
  · cases taken

/-- An object that moves on while it is not freed is not disposed of. -/
theorem view_update {object other : ι} {point : ObjectPoint} (before : s.point other ≠ .freed)
    (later : point ≠ .freed) :
    decide (Function.update s.point other point object = .freed) =
      decide (s.point object = .freed) := by
  by_cases same : object = other
  · subst same
    simp [before, later]
  · rw [Function.update_of_ne same]

/-- **Every action is a move of every object.** -/
theorem Sound.step (sound : s.Sound) (taken : s.next action = some after) (object : ι) :
    after.Sound ∧ Hook.Step (s.view object) (move object action) (after.view object) := by
  cases action with
  | setOnDisconnectCallback other callback =>
      simp only [next] at taken
      split at taken
      · cases taken
        exact ⟨sound, .stay⟩
      · cases taken
  | connect other =>
      obtain ⟨undeleted, unfreed, rfl⟩ := setListener_cases taken
      refine ⟨?_, ?_⟩
      · intro third deleted same
        cases same
        rcases deleted with there | there
        · exact undeleted there
        · exact unfreed there
      · by_cases same : other = object
        · subst same
          simp only [move, if_pos, view]
          exact .register (decide_eq_false unfreed)
        · simp only [move, if_neg same, view, Option.some.injEq, decide_eq_false same]
          exact .retract
  | onBLEDisconnect other =>
      simp only [next] at taken
      split at taken
      · rename_i listening
        cases taken
        refine ⟨sound, ?_⟩
        by_cases same : other = object
        · subst same
          simp only [move, if_pos, view, Function.update_self, Nat.add_right_comm _ 1]
          exact .begin (decide_eq_true listening)
        · simp only [move, if_neg same, view, Function.update_of_ne (Ne.symm same)]
          exact .stay
      · cases taken
  | testOnDisconnect other => exact (uses_testOnDisconnect taken).step sound
  | callOnDisconnect other => exact (uses_callOnDisconnect taken).step sound
  | disconnect other deletes =>
      simp only [next] at taken
      split at taken
      · rename_i here
        cases taken
        have before : s.point other ≠ .freed := by simp [here]
        have later : ObjectPoint.disconnecting deletes ≠ .freed := by simp
        refine ⟨?_, ?_⟩
        · intro third deleted
          by_cases same : third = other
          · subst same
            simp at deleted
          · simp only [Function.update_of_ne same] at deleted
            exact sound third deleted
        · simp only [move, view, view_update before later]
          exact .stay
      · cases taken
  | setListenerNull other =>
      obtain ⟨point, before, later, rfl⟩ := setListenerNull_cases taken
      refine ⟨fun third _ => (Option.some_ne_none third).symm, ?_⟩
      simp only [move, view, view_update before later]
      exact .retract
  | free other =>
      simp only [next] at taken
      split at taken
      · rename_i here
        cases taken
        have unheard := sound other (.inl here)
        refine ⟨?_, ?_⟩
        · intro third deleted
          by_cases same : third = other
          · subst same
            exact unheard
          · simp only [Function.update_of_ne same] at deleted
            exact sound third deleted
        · by_cases same : other = object
          · subst same
            simp only [move, if_pos, view, Function.update_self, decide_eq_false unheard,
              decide_true]
            exact .dispose
          · simp only [move, if_neg same, view, Function.update_of_ne (Ne.symm same)]
            exact .stay
      · cases taken

/-! ### Runs -/

section

variable {actions : List (ListenerAction ι)}

/-- A run of the system is a run of each object. -/
theorem hook_run (run : Run (enabled next) s actions after) (sound : s.Sound) (object : ι) :
    after.Sound ∧
      Run Hook.Step (s.view object) (actions.map (move object)) (after.view object) :=
  run.simulate Sound (view object) (move object)
    (fun _ _ _ sound taken => sound.step taken object) sound

/-- **The reports that read a freed object are those that were still to read it when it was
freed**, before their test or after it. As long as it is not freed there are none. -/
theorem late_of_run (run : Run (enabled next) start actions s) (object : ι) :
    (s.point object ≠ .freed → s.late object = 0) ∧
      ∀ freed others last, s.next (.free object) = some freed →
        Run (enabled next) freed others last →
          last.late object + (last.reporting object + last.tested object) =
            s.reporting object + s.tested object := by
  obtain ⟨sound, before⟩ := hook_run run start_sound object
  refine ⟨?_, ?_⟩
  · intro kept
    exact Hook.misused_eq_zero before rfl (decide_eq_false kept)
  · intro freed others last frees rest
    obtain ⟨reached, disposes⟩ := sound.step frees object
    obtain ⟨-, later⟩ := hook_run rest reached object
    have kept : s.point object ≠ .freed := by
      intro gone
      simp [next, gone] at frees
    rw [show move object (.free object) = .dispose from if_pos rfl] at disposes
    exact Hook.misused_of_run before rfl (decide_eq_false kept) disposes later

/-- A network is deleted while the link is reported lost, by a report that has found a function
to call and by one that has not tested yet. -/
def caughtActions : List (ListenerAction ℕ) :=
  [.setOnDisconnectCallback 0 true, .connect 0, .onBLEDisconnect 0, .testOnDisconnect 0,
    .onBLEDisconnect 0, .disconnect 0 true, .setListenerNull 0]

/-- Before the object is freed. -/
def caught : Listening ℕ := (caughtActions.foldlM next start).get rfl

/-- After it is. -/
def caughtFreed : Listening ℕ := (caught.next (.free 0)).get rfl

/-- The first report has gone on. -/
def caughtLast : Listening ℕ := (caughtFreed.next (.callOnDisconnect 0)).get rfl

example : caughtLast.late 0 = 1 ∧ caughtLast.reporting 0 = 1 := ⟨rfl, rfl⟩

theorem late_of_run_caught :
    (caught.point 0 ≠ .freed → caught.late 0 = 0) ∧
      caughtLast.late 0 + (caughtLast.reporting 0 + caughtLast.tested 0) =
        caught.reporting 0 + caught.tested 0 := by
  have run : Run (enabled next) start caughtActions caught :=
    Run.enabled_iff.mpr (Option.some_get _).symm
  obtain ⟨before, after⟩ := late_of_run run 0
  refine ⟨before, after caughtFreed [.callOnDisconnect 0] caughtLast (Option.some_get _).symm
    (.single ?_)⟩
  exact (Option.some_get _).symm

end

end Listening

end Jni

/-! ## iOS -/

namespace Ios

/-- The delegate of `ARSAL_BLEManager`, and for each object whether `Delete` has begun, whether
`onDisconnect` is set, the reports between their test and their call, those that called the
function, and those that called a null one. -/
structure Delegating (ι : Type) where
  delegate : Option ι
  deleting : ι → Bool
  onDisconnect : ι → Bool
  tested : ι → ℕ
  called : ι → ℕ
  nullCalls : ι → ℕ

/-- What happens next. `setDelegateNil` is in `disconnect`, which `Cancel` and `Delete` call. -/
inductive DelegateAction (ι : Type) where
  | setOnDisconnectCallback (object : ι)
  | setDelegate (object : ι)
  | onBLEDisconnect (object : ι)
  | callOnDisconnect (object : ι)
  | delete (object : ι)
  | setDelegateNil

namespace Delegating

/-- No object is connected. -/
def start : Delegating ι where
  delegate := none
  deleting := fun _ => false
  onDisconnect := fun _ => false
  tested := fun _ => 0
  called := fun _ => 0
  nullCalls := fun _ => 0

/-- `Delete` clears the function, and nothing else does once a report has found it. -/
structure Sound (s : Delegating ι) : Prop where
  cleared : ∀ object, s.deleting object = true → s.onDisconnect object = false
  found : ∀ object, s.deleting object = false → 0 < s.tested object →
    s.onDisconnect object = true

theorem start_sound : (start : Delegating ι).Sound :=
  ⟨fun _ _ => rfl, fun _ _ begun => absurd begun (Nat.lt_irrefl 0)⟩

variable [DecidableEq ι]

/-- The call in `onBLEDisconnect` reads the function anew. -/
def callOnDisconnect (object : ι) (s : Delegating ι) : Option (Delegating ι) :=
  match s.tested object with
  | 0 => none
  | others + 1 =>
      let s := { s with tested := Function.update s.tested object others }
      if s.onDisconnect object then
        some { s with called := Function.update s.called object (s.called object + 1) }
      else
        some { s with nullCalls := Function.update s.nullCalls object (s.nullCalls object + 1) }

/-- The state after an action. `SetOnDisconnectCallback` refuses a null function, and is not
called on an object that is deleted. -/
def next (s : Delegating ι) : DelegateAction ι → Option (Delegating ι)
  | .setOnDisconnectCallback object =>
      if s.deleting object then none
      else some { s with onDisconnect := Function.update s.onDisconnect object true }
  | .setDelegate object =>
      if s.deleting object then none else some { s with delegate := some object }
  | .onBLEDisconnect object =>
      if s.delegate = some object then
        if s.onDisconnect object then
          some { s with tested := Function.update s.tested object (s.tested object + 1) }
        else some s
      else none
  | .callOnDisconnect object => s.callOnDisconnect object
  | .delete object =>
      if s.deleting object then none
      else
        some { s with
          deleting := Function.update s.deleting object true
          onDisconnect := Function.update s.onDisconnect object false }
  | .setDelegateNil => some { s with delegate := none }

/-! ### An object as a hook -/

/-- The function of an object is a hook of the stack. -/
def view (object : ι) (s : Delegating ι) : Hook where
  registered := s.onDisconnect object
  disposed := s.deleting object
  underWay := s.tested object
  misused := s.nullCalls object

/-- What an action is to an object. -/
def move (object : ι) : DelegateAction ι → Hook.Move
  | .setOnDisconnectCallback other => if other = object then .register else .stay
  | .setDelegate _ => .stay
  | .onBLEDisconnect other => if other = object then .begin else .stay
  | .callOnDisconnect other => if other = object then .use else .stay
  | .delete other => if other = object then .dispose else .stay
  | .setDelegateNil => .stay

variable {s after : Delegating ι} {action : DelegateAction ι}

/-- A report that goes on calls the function, unless it was cleared. -/
theorem callOnDisconnect_cases {object : ι} (taken : s.callOnDisconnect object = some after) :
    ∃ others, s.tested object = others + 1 ∧ after.deleting = s.deleting ∧
      after.onDisconnect = s.onDisconnect ∧
      after.tested = Function.update s.tested object others ∧
      after.nullCalls =
        if s.onDisconnect object then s.nullCalls
        else Function.update s.nullCalls object (s.nullCalls object + 1) := by
  simp only [callOnDisconnect] at taken
  split at taken
  · cases taken
  · rename_i others begun
    refine ⟨others, begun, ?_⟩
    split at taken
    · rename_i kept
      cases taken
      exact ⟨rfl, rfl, rfl, (if_pos kept).symm⟩
    · rename_i cleared
      cases taken
      exact ⟨rfl, rfl, rfl, (if_neg cleared).symm⟩

namespace Sound

/-- A function that is set on an object that is not deleted. -/
theorem set (sound : s.Sound) {other : ι} (kept : s.deleting other = false) :
    { s with onDisconnect := Function.update s.onDisconnect other true }.Sound where
  cleared := by
    intro object deleted
    have distinct : object ≠ other := by
      rintro rfl
      rw [kept] at deleted
      cases deleted
    simp only [Function.update_of_ne distinct]
    exact sound.cleared object deleted
  found := by
    intro object undeleted begun
    by_cases same : object = other
    · subst same
      exact Function.update_self ..
    · simp only [Function.update_of_ne same]
      exact sound.found object undeleted begun

/-- The number of reports after the test, where the function is set or there are fewer. -/
theorem tested (sound : s.Sound) {other : ι} {reports : ℕ}
    (set : s.onDisconnect other = true ∨ reports ≤ s.tested other)
    {after : Delegating ι} (deleting : after.deleting = s.deleting)
    (onDisconnect : after.onDisconnect = s.onDisconnect)
    (counted : after.tested = Function.update s.tested other reports) : after.Sound where
  cleared := by
    rw [deleting, onDisconnect]
    exact sound.cleared
  found := by
    intro object undeleted begun
    rw [deleting] at undeleted
    rw [onDisconnect]
    rw [counted] at begun
    by_cases same : object = other
    · subst same
      rw [Function.update_self] at begun
      rcases set with there | fewer
      · exact there
      · exact sound.found object undeleted (Nat.lt_of_lt_of_le begun fewer)
    · rw [Function.update_of_ne same] at begun
      exact sound.found object undeleted begun

/-- `Delete` clears the function of an object. -/
theorem delete (sound : s.Sound) (other : ι) :
    { s with
      deleting := Function.update s.deleting other true
      onDisconnect := Function.update s.onDisconnect other false }.Sound where
  cleared := by
    intro object deleted
    by_cases same : object = other
    · subst same
      exact Function.update_self ..
    · simp only [Function.update_of_ne same] at deleted ⊢
      exact sound.cleared object deleted
  found := by
    intro object undeleted begun
    have distinct : object ≠ other := by
      rintro rfl
      simp at undeleted
    simp only [Function.update_of_ne distinct] at undeleted ⊢
    exact sound.found object undeleted begun

/-- **Every action is a move of every object.** -/
theorem step (sound : s.Sound) (taken : s.next action = some after) (object : ι) :
    after.Sound ∧ Hook.Step (s.view object) (move object action) (after.view object) := by
  cases action with
  | setOnDisconnectCallback other =>
      simp only [next] at taken
      split at taken
      · cases taken
      · rename_i undeleted
        cases taken
        have kept := Bool.eq_false_iff.mpr undeleted
        refine ⟨sound.set kept, ?_⟩
        by_cases same : other = object
        · subst same
          simp only [move, if_pos, view, Function.update_self]
          exact .register kept
        · simp only [move, if_neg same, view, Function.update_of_ne (Ne.symm same)]
          exact .stay
  | setDelegate other =>
      simp only [next] at taken
      split at taken
      · cases taken
      · cases taken
        exact ⟨⟨sound.cleared, sound.found⟩, .stay⟩
  | onBLEDisconnect other =>
      simp only [next] at taken
      split at taken
      · split at taken
        · rename_i set
          cases taken
          refine ⟨sound.tested (.inl set) rfl rfl rfl, ?_⟩
          by_cases same : other = object
          · subst same
            simp only [move, if_pos, view, Function.update_self]
            exact .begin set
          · simp only [move, if_neg same, view, Function.update_of_ne (Ne.symm same)]
            exact .stay
        · rename_i unset
          cases taken
          refine ⟨sound, ?_⟩
          by_cases same : other = object
          · subst same
            simp only [move, if_pos]
            exact .ignored (Bool.eq_false_iff.mpr unset)
          · simp only [move, if_neg same]
            exact .stay
      · cases taken
  | callOnDisconnect other =>
      obtain ⟨others, begun, deleting, onDisconnect, counted, nullCalls⟩ :=
        callOnDisconnect_cases taken
      refine ⟨sound.tested (.inr (by omega)) deleting onDisconnect counted, ?_⟩
      by_cases same : other = object
      · subst same
        have used : after.view other = { s.view other with
            underWay := others
            misused := s.nullCalls other + (s.deleting other).toNat } := by
          simp only [view, deleting, onDisconnect, counted, nullCalls, Function.update_self]
          cases deleted : s.deleting other with
          | false =>
              have set := sound.found other deleted (by omega)
              simp [set]
          | true =>
              have cleared := sound.cleared other deleted
              simp [cleared]
        rw [used]
        simp only [move, if_pos]
        exact .use begun
      · have kept : after.view object = s.view object := by
          simp only [view, deleting, onDisconnect, counted, nullCalls,
            Function.update_of_ne (Ne.symm same)]
          split
          · rfl
          · rw [Function.update_of_ne (Ne.symm same)]
        rw [kept]
        simp only [move, if_neg same]
        exact .stay
  | delete other =>
      simp only [next] at taken
      split at taken
      · cases taken
      · cases taken
        refine ⟨sound.delete other, ?_⟩
        by_cases same : other = object
        · subst same
          simp only [move, if_pos, view, Function.update_self]
          exact .dispose
        · simp only [move, if_neg same, view, Function.update_of_ne (Ne.symm same)]
          exact .stay
  | setDelegateNil =>
      cases taken
      exact ⟨⟨sound.cleared, sound.found⟩, .stay⟩

end Sound

/-! ### Runs -/

section

variable {actions : List (DelegateAction ι)}

/-- A run of the system is a run of each object. -/
theorem hook_run (run : Run (enabled next) s actions after) (sound : s.Sound) (object : ι) :
    after.Sound ∧
      Run Hook.Step (s.view object) (actions.map (move object)) (after.view object) :=
  run.simulate Sound (view object) (move object)
    (fun _ _ _ sound taken => sound.step taken object) sound

/-- **The reports that call a null function are those that were between their test and their
call when `Delete` began.** Before that there are none. -/
theorem nullCalls_of_run (run : Run (enabled next) start actions s) (object : ι) :
    (s.deleting object = false → s.nullCalls object = 0) ∧
      ∀ deleted others last, s.next (.delete object) = some deleted →
        Run (enabled next) deleted others last →
          last.nullCalls object + last.tested object = s.tested object := by
  obtain ⟨sound, before⟩ := hook_run run start_sound object
  refine ⟨Hook.misused_eq_zero before rfl, ?_⟩
  intro deleted others last deletes rest
  obtain ⟨reached, disposes⟩ := sound.step deletes object
  obtain ⟨-, later⟩ := hook_run rest reached object
  have kept : s.deleting object = false := by
    by_contra gone
    rw [Bool.not_eq_false] at gone
    simp [next, gone] at deletes
  rw [show move object (.delete object) = .dispose from if_pos rfl] at disposes
  exact Hook.misused_of_run before rfl kept disposes later

end

/-- A network is deleted while the link is reported lost. -/
def caughtActions : List (DelegateAction ℕ) :=
  [.setDelegate 0, .setOnDisconnectCallback 0, .onBLEDisconnect 0]

/-- Before `Delete` begins. -/
def caught : Delegating ℕ := (caughtActions.foldlM next start).get rfl

/-- The function is cleared. -/
def caughtDeleted : Delegating ℕ := (caught.next (.delete 0)).get rfl

/-- The report has gone on. -/
def caughtLast : Delegating ℕ := (caughtDeleted.next (.callOnDisconnect 0)).get rfl

example : caughtLast.nullCalls 0 = 1 := rfl

theorem nullCalls_of_run_caught :
    (caught.deleting 0 = false → caught.nullCalls 0 = 0) ∧
      caughtLast.nullCalls 0 + caughtLast.tested 0 = caught.tested 0 := by
  have run : Run (enabled next) start caughtActions caught :=
    Run.enabled_iff.mpr (Option.some_get _).symm
  obtain ⟨before, after⟩ := nullCalls_of_run run 0
  refine ⟨before, after caughtDeleted [.callOnDisconnect 0] caughtLast (Option.some_get _).symm
    (.single ?_)⟩
  exact (Option.some_get _).symm

end Delegating

end Ios

end BleNetwork

end ARNetworkAL
