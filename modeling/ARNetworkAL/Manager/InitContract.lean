import ARNetworkAL.Ble.Connection
import ARNetworkAL.Manager.Transports

/-!
# What an Init promises

Five functions install a transport in a manager. Their callers look at the code only: after
`OK` they start threads that go through the operation pointers, and after an error they do
not. So `OK` has to say that the objects and the operations of the transport are in place,
and an error that there are no objects (`AllOrNothing`).

`InitWifiNetwork` and `InitMuxNetwork` say so whatever fails. The others do not: on iOS a
notification identifier that is out of range ends `InitBLENetwork` with an exception,
`nativeInitBLENetwork` leaves its objects after a connection that fails, and
`nativeInitMuxNetwork` returns `OK` without a context. `Init.allOrNothing_iff` says for each
function exactly which calls keep the promise.
-/

set_option autoImplicit false

namespace ARNetworkAL

/-! ## The functions of the JNI -/

namespace BleNetwork

namespace Jni

/-- What the system and the Java machine answer to the steps of `nativeInitBLENetwork`: the
environment of `New`, `malloc`, `FindClass` with `GetMethodID`, `NewObject`, `NewGlobalRef`,
the environment of `Connect`, and what the Java method `connect` returns. -/
structure InitSteps where
  environment : Bool
  allocated : Bool
  classFound : Bool
  constructed : Bool
  referenced : Bool
  connectEnvironment : Bool
  connect : ErrorCode
  deriving DecidableEq, Repr

/-- `ARNETWORKAL_JNIBLENetwork_ObjectNew`: the error, if the behaviour is defined. -/
def objectNew (steps : InitSteps) : Option ErrorCode :=
  if steps.allocated = false then some .alloc
  -- `GetMethodID` and `NewObject` are given null
  else if steps.classFound = false then none
  -- `ObjectDelete` disconnects a Java object that was not stored
  else if steps.constructed = false then none
  else some .ok

/-- `ARNETWORKAL_JNIBLENetwork_New`. -/
def new (steps : InitSteps) (manager : Manager) : Option (ErrorCode × Manager) :=
  if steps.environment = false then some (.generic, manager)
  else
    (objectNew steps).map fun error =>
      if error = .ok then (.ok, manager.withObjects .jniBle) else (error, manager)

/-- `ARNETWORKAL_JNIBLENetwork_Connect`. A reference that is null cannot be called. -/
def connect (steps : InitSteps) : Option ErrorCode :=
  if steps.connectEnvironment = false then some .generic
  else if steps.referenced = false then none
  else some steps.connect

/-- `nativeInitBLENetwork`. -/
def nativeInitBLENetwork (steps : InitSteps) (manager : Manager) :
    Option (ErrorCode × Manager) :=
  (new steps manager).bind fun (error, manager) =>
    if error = .ok then
      (connect steps).map fun error =>
        if error = .ok then (.ok, manager.install .jniBle) else (error, manager)
    else some (error, manager)

/-- Every step succeeds. -/
structure InitSteps.Succeed (steps : InitSteps) : Prop where
  classFound : steps.classFound = true
  constructed : steps.constructed = true
  referenced : steps.referenced = true
  connectEnvironment : steps.connectEnvironment = true
  connect : steps.connect = .ok

/-- The steps as `Manager.nativeInitBLENetwork` is given them. -/
def InitSteps.answers (steps : InitSteps) : JniAnswers where
  environment := steps.environment
  allocated := steps.allocated
  connect := if steps.connectEnvironment = true then steps.connect else .generic

end Jni

end BleNetwork

namespace Manager

/-- `nativeInitMuxNetwork`; the context may be null. -/
def nativeInitMuxNetwork (ctx allocated : Bool) (manager : Manager) : ErrorCode × Manager :=
  if ctx = true then manager.initMuxNetwork ctx allocated else (.ok, manager)

end Manager

/-! ## The promise -/

/-- The operations that every transport has. -/
def commonOperations : List Operation := [.pushFrame, .popFrame, .send, .receive, .unlock]

theorem mem_sets_of_common (transport : Transport) :
    ∀ operation ∈ commonOperations, operation ∈ transport.sets := by
  cases transport <;> decide

/-- The objects and the operations of a transport are in place. -/
structure Manager.InUse (manager : Manager) (transport : Transport) : Prop where
  sender : manager.senderObject ≠ none
  receiver : manager.receiverObject ≠ none
  operations : ∀ operation ∈ commonOperations, manager.operations operation = some transport

theorem Manager.inUse_install (manager : Manager) (transport : Transport) :
    ((manager.withObjects transport).install transport).InUse transport where
  sender := Option.some_ne_none transport
  receiver := Option.some_ne_none transport
  operations := fun operation common => if_pos (mem_sets_of_common transport operation common)

/-- A call returns, it returns `OK` exactly with the transport in place, and an error exactly
without objects. -/
def AllOrNothing (transport : Transport) (outcome : Option (ErrorCode × Manager)) : Prop :=
  ∃ error after, outcome = some (error, after) ∧ (error = .ok ↔ after.InUse transport) ∧
    (error ≠ .ok ↔ after.senderObject = none ∧ after.receiverObject = none)

section

variable {transport : Transport} {manager after : Manager} {error : ErrorCode}

theorem allOrNothing_install (manager : Manager) (transport : Transport) :
    AllOrNothing transport (some (.ok, (manager.withObjects transport).install transport)) := by
  refine ⟨_, _, rfl, iff_of_true rfl (manager.inUse_install transport), ?_⟩
  exact iff_of_false (fun failed => failed rfl) fun gone => Option.some_ne_none transport gone.1

theorem allOrNothing_failed (failed : error ≠ .ok) (sender : after.senderObject = none)
    (receiver : after.receiverObject = none) : AllOrNothing transport (some (error, after)) :=
  ⟨_, _, rfl, iff_of_false failed fun used => used.sender sender,
    iff_of_true failed ⟨sender, receiver⟩⟩

/-- What breaks the promise: no return, an error with an object, and `OK` without one. -/
theorem not_allOrNothing_none : ¬ AllOrNothing transport none := by
  rintro ⟨_, _, returned, -⟩
  cases returned

theorem not_allOrNothing_failed (failed : error ≠ .ok) (present : after.senderObject ≠ none) :
    ¬ AllOrNothing transport (some (error, after)) := by
  rintro ⟨_, _, returned, -, gone⟩
  cases returned
  exact present (gone.mp failed).1

theorem not_allOrNothing_ok (gone : after.senderObject = none) :
    ¬ AllOrNothing transport (some (.ok, after)) := by
  rintro ⟨_, _, returned, used, -⟩
  cases returned
  exact (used.mp rfl).sender gone

end

/-! ## The transports -/

namespace Manager

theorem initWifiNetwork_allOrNothing (addr : Option String) (answers : WifiAnswers)
    (manager : Manager) : AllOrNothing .wifi (some (manager.initWifiNetwork addr answers)) := by
  by_cases succeed : addr ≠ none ∧ answers.Succeed
  · rw [initWifiNetwork_ok succeed.1 succeed.2]
    exact allOrNothing_install manager .wifi
  · have gone := initWifiNetwork_failed succeed manager
    refine allOrNothing_failed ?_ (congrArg senderObject gone) (congrArg receiverObject gone)
    intro ok
    exact succeed (succeed_of_initWifiNetwork ok)

theorem initBLENetwork_allOrNothing {manager : Manager} (idle : ¬ manager.Installed)
    (coreBluetooth allocated : Bool) (connect : ErrorCode) :
    AllOrNothing .ble (some (manager.initBLENetwork coreBluetooth allocated connect)) := by
  obtain ⟨sender, receiver⟩ := objects_of_not_installed idle
  cases coreBluetooth with
  | false => exact allOrNothing_failed (by decide) sender receiver
  | true =>
      cases allocated with
      | false =>
          have kept : manager.bleNetworkDelete = manager := if_pos sender
          refine allOrNothing_failed (by decide) ?_ ?_
          · rw [kept]
            exact sender
          · rw [kept]
            exact receiver
      | true =>
          by_cases connected : connect = .ok
          · subst connected
            exact allOrNothing_install manager .ble
          · simp only [initBLENetwork, Bool.true_eq_false, if_false, if_neg connected]
            exact allOrNothing_failed connected rfl rfl

theorem initMuxNetwork_allOrNothing {manager : Manager} (idle : ¬ manager.Installed)
    (ctx allocated : Bool) :
    AllOrNothing .mux (some (manager.initMuxNetwork ctx allocated)) := by
  obtain ⟨sender, receiver⟩ := objects_of_not_installed idle
  cases ctx with
  | false => exact allOrNothing_failed (by decide) sender receiver
  | true =>
      cases allocated with
      | false => exact allOrNothing_failed (by decide) sender receiver
      | true => exact allOrNothing_install manager .mux

/-- Without a context the code says what was not done. -/
theorem nativeInitMuxNetwork_allOrNothing_iff {manager : Manager}
    (idle : ¬ manager.Installed) (ctx allocated : Bool) :
    AllOrNothing .mux (some (manager.nativeInitMuxNetwork ctx allocated)) ↔ ctx = true := by
  cases ctx with
  | false =>
      exact iff_of_false (not_allOrNothing_ok (objects_of_not_installed idle).1)
        Bool.false_ne_true
  | true => exact iff_of_true (initMuxNetwork_allOrNothing idle true allocated) rfl

end Manager

namespace BleNetwork

namespace Jni

theorem nativeInitBLENetwork_detached {steps : InitSteps} (manager : Manager)
    (detached : ¬ steps.environment = true) :
    nativeInitBLENetwork steps manager = some (.generic, manager) := by
  simp [nativeInitBLENetwork, new, detached]

theorem nativeInitBLENetwork_unallocated {steps : InitSteps} (manager : Manager)
    (environment : steps.environment = true) (unallocated : ¬ steps.allocated = true) :
    nativeInitBLENetwork steps manager = some (.alloc, manager) := by
  simp [nativeInitBLENetwork, new, objectNew, environment, unallocated]

/-- What becomes of a call that has its environment and its memory. -/
theorem nativeInitBLENetwork_begun {steps : InitSteps} (environment : steps.environment = true)
    (allocated : steps.allocated = true) (manager : Manager) :
    nativeInitBLENetwork steps manager =
      if steps.classFound = true ∧ steps.constructed = true then
        (connect steps).map fun error =>
          if error = .ok then (.ok, (manager.withObjects .jniBle).install .jniBle)
          else (error, manager.withObjects .jniBle)
      else none := by
  simp only [nativeInitBLENetwork, new, objectNew, environment, allocated, Bool.true_eq_false,
    if_false]
  cases steps.classFound with
  | false => rfl
  | true => cases steps.constructed <;> rfl

theorem InitSteps.succeed_iff {steps : InitSteps} :
    steps.Succeed ↔ (steps.classFound = true ∧ steps.constructed = true) ∧
      BleNetwork.Jni.connect steps = some .ok := by
  have connects : BleNetwork.Jni.connect steps = some .ok ↔
      steps.referenced = true ∧ steps.connectEnvironment = true ∧ steps.connect = .ok := by
    rw [BleNetwork.Jni.connect]
    cases steps.connectEnvironment <;> cases steps.referenced <;> simp
  rw [connects]
  constructor
  · intro succeed
    exact ⟨⟨succeed.classFound, succeed.constructed⟩, succeed.referenced,
      succeed.connectEnvironment, succeed.connect⟩
  · rintro ⟨⟨classFound, constructed⟩, referenced, connectEnvironment, connected⟩
    exact ⟨classFound, constructed, referenced, connectEnvironment, connected⟩

/-- **Once it has both, every further step has to succeed.** -/
theorem nativeInitBLENetwork_allOrNothing_iff {manager : Manager} (idle : ¬ manager.Installed)
    (steps : InitSteps) :
    AllOrNothing .jniBle (nativeInitBLENetwork steps manager) ↔
      (steps.environment = true → steps.allocated = true → steps.Succeed) := by
  obtain ⟨sender, receiver⟩ := Manager.objects_of_not_installed idle
  by_cases environment : steps.environment = true
  · by_cases allocated : steps.allocated = true
    · rw [forall_prop_of_true environment, forall_prop_of_true allocated,
        InitSteps.succeed_iff, nativeInitBLENetwork_begun environment allocated]
      by_cases created : steps.classFound = true ∧ steps.constructed = true
      · rw [if_pos created, and_iff_right created]
        cases connect steps with
        | none => exact iff_of_false not_allOrNothing_none (Option.some_ne_none _).symm
        | some error =>
            by_cases ok : error = .ok
            · subst ok
              exact iff_of_true (allOrNothing_install manager .jniBle) rfl
            · rw [Option.map_some, if_neg ok]
              exact iff_of_false
                (not_allOrNothing_failed ok (Option.some_ne_none Transport.jniBle))
                fun same => ok (Option.some.inj same)
      · rw [if_neg created]
        exact iff_of_false not_allOrNothing_none fun succeed => created succeed.1
    · rw [nativeInitBLENetwork_unallocated manager environment allocated]
      exact iff_of_true (allOrNothing_failed (by decide) sender receiver)
        fun _ made => absurd made allocated
  · rw [nativeInitBLENetwork_detached manager environment]
    exact iff_of_true (allOrNothing_failed (by decide) sender receiver)
      fun given => absurd given environment

end Jni

namespace Ios

/-- **An `Init` that has no exception keeps the promise.** -/
theorem initBLENetwork_allOrNothing_iff {manager : Manager} (idle : ¬ manager.Installed)
    (answers : BleAnswers) (mainThread : Bool) (centralManager : Option ℕ) (allocated : Bool)
    (device : Option Peripheral) (notificationIDs : Option (List ℤ)) :
    let outcome := initBLENetwork answers mainThread centralManager allocated device
      notificationIDs manager
    AllOrNothing .ble (outcome.result.map fun error => (error, outcome.manager)) ↔
      (allocated = true →
        IdsInRange answers mainThread centralManager device notificationIDs) := by
  intro outcome
  obtain ⟨returns, does⟩ : (outcome.result.isSome ↔ _) ∧ _ :=
    initBLENetwork_returns_iff allocated manager
  rw [← returns]
  cases result : outcome.result with
  | none => exact iff_of_false not_allOrNothing_none Bool.false_ne_true
  | some error =>
      have same := does error result
      refine iff_of_true ?_ rfl
      have kept := Manager.initBLENetwork_allOrNothing idle true allocated error
      rwa [← same] at kept

end Ios

end BleNetwork

/-! ## Every Init -/

/-- The functions that install a transport, with their arguments and what their steps meet. -/
inductive Init where
  | initWifiNetwork (addr : Option String) (answers : WifiAnswers)
  | initBLENetwork (coreBluetooth mainThread allocated : Bool) (centralManager : Option ℕ)
      (device : Option BleNetwork.Ios.Peripheral) (notificationIDs : Option (List ℤ))
      (answers : BleNetwork.Ios.BleAnswers)
  | nativeInitBLENetwork (steps : BleNetwork.Jni.InitSteps)
  | initMuxNetwork (ctx allocated : Bool)
  | nativeInitMuxNetwork (ctx allocated : Bool)

namespace Init

/-- The transport that a call installs. -/
def transport : Init → Transport
  | initWifiNetwork _ _ => .wifi
  | initBLENetwork _ _ _ _ _ _ _ => .ble
  | nativeInitBLENetwork _ => .jniBle
  | initMuxNetwork _ _ => .mux
  | nativeInitMuxNetwork _ _ => .mux

/-- The code and the manager afterwards, if the call returns. -/
def outcome (manager : Manager) : Init → Option (ErrorCode × Manager)
  | initWifiNetwork addr answers => some (manager.initWifiNetwork addr answers)
  | initBLENetwork coreBluetooth mainThread allocated centralManager device notificationIDs
      answers =>
      if coreBluetooth = false then some (.networkType, manager)
      else
        let outcome := BleNetwork.Ios.initBLENetwork answers mainThread centralManager allocated
          device notificationIDs manager
        outcome.result.map fun error => (error, outcome.manager)
  | nativeInitBLENetwork steps => BleNetwork.Jni.nativeInitBLENetwork steps manager
  | initMuxNetwork ctx allocated => some (manager.initMuxNetwork ctx allocated)
  | nativeInitMuxNetwork ctx allocated => some (manager.nativeInitMuxNetwork ctx allocated)

/-- What a call must not meet if it is to return: an identifier out of range, a class, an object
or a reference that the Java machine does not give. -/
def Returning : Init → Prop
  | initBLENetwork coreBluetooth mainThread allocated centralManager device notificationIDs
      answers =>
      coreBluetooth = true → allocated = true →
        BleNetwork.Ios.IdsInRange answers mainThread centralManager device notificationIDs
  | nativeInitBLENetwork steps =>
      steps.environment = true → steps.allocated = true →
        (steps.classFound = true ∧ steps.constructed = true) ∧
          (steps.connectEnvironment = true → steps.referenced = true)
  | _ => True

/-- What a call must not meet. -/
def Covered : Init → Prop
  | initBLENetwork coreBluetooth mainThread allocated centralManager device notificationIDs
      answers =>
      coreBluetooth = true → allocated = true →
        BleNetwork.Ios.IdsInRange answers mainThread centralManager device notificationIDs
  | nativeInitBLENetwork steps =>
      steps.environment = true → steps.allocated = true → steps.Succeed
  | nativeInitMuxNetwork ctx _ => ctx = true
  | _ => True

/-- **A call on a manager without a transport keeps the promise exactly if it meets nothing
that is not covered.** -/
theorem allOrNothing_iff {manager : Manager} (idle : ¬ manager.Installed) (init : Init) :
    AllOrNothing init.transport (init.outcome manager) ↔ init.Covered := by
  cases init with
  | initWifiNetwork addr answers =>
      exact iff_of_true (Manager.initWifiNetwork_allOrNothing addr answers manager) trivial
  | initBLENetwork coreBluetooth mainThread allocated centralManager device notificationIDs
      answers =>
      cases coreBluetooth with
      | false =>
          exact iff_of_true (Manager.initBLENetwork_allOrNothing idle false allocated .ok)
            fun available => absurd available Bool.false_ne_true
      | true =>
          refine Iff.trans ?_ (forall_prop_of_true rfl).symm
          exact BleNetwork.Ios.initBLENetwork_allOrNothing_iff idle answers mainThread
            centralManager allocated device notificationIDs
  | nativeInitBLENetwork steps =>
      exact BleNetwork.Jni.nativeInitBLENetwork_allOrNothing_iff idle steps
  | initMuxNetwork ctx allocated =>
      exact iff_of_true (Manager.initMuxNetwork_allOrNothing idle ctx allocated) trivial
  | nativeInitMuxNetwork ctx allocated =>
      exact Manager.nativeInitMuxNetwork_allOrNothing_iff idle ctx allocated

/-- A connection on Android of which every step succeeds. -/
theorem allOrNothing_connected :
    AllOrNothing .jniBle
      (outcome .new (.nativeInitBLENetwork ⟨true, true, true, true, true, true, .ok⟩)) :=
  (allOrNothing_iff (by decide) _).mpr fun _ _ => ⟨rfl, rfl, rfl, rfl, rfl⟩

/-- A connection on Android that is refused leaves its objects, and `OK` for Mux without a
context leaves none. -/
theorem not_allOrNothing_native :
    ¬ AllOrNothing .jniBle
        (outcome .new
          (.nativeInitBLENetwork ⟨true, true, true, true, true, true, .bleConnection⟩)) ∧
      ¬ AllOrNothing .mux (outcome .new (.nativeInitMuxNetwork false true)) := by
  constructor
  · exact not_allOrNothing_failed (by decide) (Option.some_ne_none Transport.jniBle)
  · exact not_allOrNothing_ok rfl

end Init

end ARNetworkAL
