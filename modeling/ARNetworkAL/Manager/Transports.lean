import ARNetworkAL.Library.Run
import ARNetworkAL.Manager

/-!
# One transport after another

A manager can serve several transports, one at a time. Each `Init` sets the operation
pointers that its transport has, WiFi all sixteen, Mux twelve, and the two Bluetooth
implementations eight and six; no `Close` clears any. A pointer that the next transport
does not set then still leads to the one before, which takes the new objects for its own.

`Manager.Unmixed` says that this does not happen. Every call keeps it exactly where
`Call.Clean` holds (`next_unmixed_iff`), and so does every run (`unmixed_iff_clean`).
-/

set_option autoImplicit false

namespace ARNetworkAL

open Library

namespace Manager

/-- Every operation pointer that is set belongs to a transport. -/
def BelongsTo (manager : Manager) (transport : Transport) : Prop :=
  ∀ operation, manager.operations operation = none ∨
    manager.operations operation = some transport

/-- So does every one that the `Init` of the transport does not set. -/
def OthersBelongTo (manager : Manager) (transport : Transport) : Prop :=
  ∀ operation ∉ transport.sets, manager.operations operation = none ∨
    manager.operations operation = some transport

/-- The objects and the operation pointers are of one transport. -/
def Unmixed (manager : Manager) : Prop :=
  ∀ transport, manager.senderObject = some transport →
    manager.receiverObject = some transport ∧ manager.BelongsTo transport

theorem unmixed_of_no_sender {manager : Manager} (gone : manager.senderObject = none) :
    manager.Unmixed := by
  intro transport present
  rw [gone] at present
  cases present

theorem objects_of_not_installed {manager : Manager} (idle : ¬ manager.Installed) :
    manager.senderObject = none ∧ manager.receiverObject = none := by
  rw [Installed, not_or, not_not, not_not] at idle
  exact idle

theorem unmixed_withObjects_iff (manager : Manager) (transport : Transport) :
    (manager.withObjects transport).Unmixed ↔ manager.BelongsTo transport := by
  constructor
  · intro unmixed
    exact (unmixed transport rfl).2
  · intro belongs other present
    cases present
    exact ⟨rfl, belongs⟩

theorem belongsTo_install_iff (manager : Manager) (transport : Transport) :
    (manager.install transport).BelongsTo transport ↔ manager.OthersBelongTo transport := by
  constructor
  · intro belongs operation unset
    have found := belongs operation
    simp only [install, if_neg unset] at found
    exact found
  · intro others operation
    by_cases set : operation ∈ transport.sets
    · exact .inr (if_pos set)
    · simp only [install, if_neg set]
      exact others operation set

/-- After a successful `Init` only the pointers that it did not set matter. -/
theorem unmixed_install_iff (manager : Manager) (transport : Transport) :
    ((manager.withObjects transport).install transport).Unmixed ↔
      manager.OthersBelongTo transport := by
  rw [← belongsTo_install_iff]
  exact unmixed_withObjects_iff (manager.install transport) transport

end Manager

/-! ## The ends of InitWifiNetwork -/

/-- No allocation, socket, pipe, `connect` or `bind` fails. -/
structure WifiAnswers.Succeed (answers : WifiAnswers) : Prop where
  senderObject : answers.senderObject = true
  senderBuffer : answers.senderBuffer = true
  receiverObject : answers.receiverObject = true
  receiverBuffer : answers.receiverBuffer = true
  connect : answers.connect.error = .ok
  bind : answers.bind.error = .ok

namespace Manager

/-- A call of `New` that succeeds leaves both objects. -/
theorem wifiNetworkNew_ok {answers : WifiAnswers} {manager : Manager}
    (ok : (manager.wifiNetworkNew answers).1 = .ok) :
    (answers.senderObject = true ∧ answers.senderBuffer = true ∧ answers.receiverObject = true ∧
      answers.receiverBuffer = true) ∧
      (manager.wifiNetworkNew answers).2 = manager.withObjects .wifi := by
  simp only [wifiNetworkNew] at ok ⊢
  cases senderObject : answers.senderObject with
  | false => simp [senderObject] at ok
  | true =>
      cases senderBuffer : answers.senderBuffer with
      | false => simp [senderObject, senderBuffer] at ok
      | true =>
          cases receiverObject : answers.receiverObject with
          | false => simp [senderObject, senderBuffer, receiverObject] at ok
          | true =>
              cases receiverBuffer : answers.receiverBuffer with
              | false => simp [senderObject, senderBuffer, receiverObject, receiverBuffer] at ok
              | true => exact ⟨⟨rfl, rfl, rfl, rfl⟩, rfl⟩

/-- `New` touches nothing but the objects. -/
theorem wifiNetworkNew_withoutObjects (answers : WifiAnswers) (manager : Manager) :
    (manager.wifiNetworkNew answers).2.withoutObjects = manager.withoutObjects := by
  simp only [wifiNetworkNew]
  split
  · rfl
  · split
    · rfl
    · split
      · rfl
      · split
        · rfl
        · rfl

theorem initWifiNetwork_ok {addr : Option String} {answers : WifiAnswers} (given : addr ≠ none)
    (succeed : answers.Succeed) (manager : Manager) :
    manager.initWifiNetwork addr answers = (.ok, (manager.withObjects .wifi).install .wifi) := by
  have allocated : manager.wifiNetworkNew answers = (.ok, manager.withObjects .wifi) := by
    simp [wifiNetworkNew, succeed.senderObject, succeed.senderBuffer, succeed.receiverObject,
      succeed.receiverBuffer, withObjects]
  simp [initWifiNetwork, given, allocated, wifiNetworkConnect, wifiNetworkBind, succeed.connect,
    succeed.bind, withObjects]

/-- A call that fails leaves no object, and the operation pointers as they were. -/
theorem initWifiNetwork_failed {addr : Option String} {answers : WifiAnswers}
    (fails : ¬ (addr ≠ none ∧ answers.Succeed)) (manager : Manager) :
    (manager.initWifiNetwork addr answers).2 = manager.withoutObjects := by
  by_cases given : addr = none
  · simp [initWifiNetwork, given, wifiNetworkDelete]
  · have deleted := wifiNetworkNew_withoutObjects answers manager
    by_cases allocated : (manager.wifiNetworkNew answers).1 = .ok
    · obtain ⟨⟨senderObject, senderBuffer, receiverObject, receiverBuffer⟩, objects⟩ :=
        wifiNetworkNew_ok allocated
      have refused : ¬ (answers.connect.error = .ok ∧ answers.bind.error = .ok) := by
        rintro ⟨connect, bind⟩
        exact fails ⟨given, senderObject, senderBuffer, receiverObject, receiverBuffer, connect,
          bind⟩
      simp only [initWifiNetwork, if_neg given, allocated, objects, wifiNetworkConnect,
        wifiNetworkBind, withObjects]
      by_cases connect : answers.connect.error = .ok
      · have bind : answers.bind.error ≠ .ok := fun bind => refused ⟨connect, bind⟩
        simp [connect, bind, wifiNetworkDelete, withoutObjects]
      · simp [connect, wifiNetworkDelete, withoutObjects]
    · simp [initWifiNetwork, given, allocated, wifiNetworkDelete, deleted]

/-- A call that returns `OK` has succeeded throughout. -/
theorem succeed_of_initWifiNetwork {addr : Option String} {answers : WifiAnswers}
    {manager : Manager} (ok : (manager.initWifiNetwork addr answers).1 = .ok) :
    addr ≠ none ∧ answers.Succeed := by
  by_cases given : addr = none
  · simp [initWifiNetwork, given] at ok
  · by_cases allocated : (manager.wifiNetworkNew answers).1 = .ok
    · obtain ⟨⟨senderObject, senderBuffer, receiverObject, receiverBuffer⟩, objects⟩ :=
        wifiNetworkNew_ok allocated
      simp only [initWifiNetwork, if_neg given, allocated, objects, wifiNetworkConnect,
        wifiNetworkBind, withObjects] at ok
      by_cases connect : answers.connect.error = .ok
      · by_cases bind : answers.bind.error = .ok
        · exact ⟨given, senderObject, senderBuffer, receiverObject, receiverBuffer, connect, bind⟩
        · simp [connect, bind] at ok
      · simp [connect] at ok
    · simp [initWifiNetwork, given, allocated] at ok

/-- Nothing that a manager held is left in it after WiFi was installed. -/
theorem install_wifi (manager other : Manager) :
    (manager.withObjects .wifi).install .wifi = (other.withObjects .wifi).install .wifi := by
  have all : ∀ operations : Operation → Option Transport, (fun operation =>
      if operation ∈ Transport.wifi.sets then some Transport.wifi else operations operation) =
        fun _ => some .wifi := by
    intro operations
    funext operation
    exact if_pos (mem_sets_wifi operation)
  simp only [install, withObjects, all]

theorem wifiNetworkNew_error (answers : WifiAnswers) (manager other : Manager) :
    (manager.wifiNetworkNew answers).1 = (other.wifiNetworkNew answers).1 := by
  simp only [wifiNetworkNew]
  split
  · rfl
  · split
    · rfl
    · split
      · rfl
      · split
        · rfl
        · rfl

/-- The code does not depend on what a manager held. -/
theorem initWifiNetwork_error (addr : Option String) (answers : WifiAnswers)
    (manager other : Manager) :
    (manager.initWifiNetwork addr answers).1 = (other.initWifiNetwork addr answers).1 := by
  by_cases given : addr = none
  · simp [initWifiNetwork, given]
  · have same := wifiNetworkNew_error answers manager other
    by_cases allocated : (manager.wifiNetworkNew answers).1 = .ok
    · have allocated' := same.symm.trans allocated
      simp only [initWifiNetwork, if_neg given, allocated, allocated',
        (wifiNetworkNew_ok allocated).2, (wifiNetworkNew_ok allocated').2, wifiNetworkConnect,
        wifiNetworkBind, withObjects, apply_ite Prod.fst]
    · have failed := same ▸ allocated
      simp [initWifiNetwork, given, failed, same]

end Manager

/-! ## Calls on a manager -/

/-- `Init` and `Close` of the transports. -/
inductive Call where
  | initWifiNetwork (addr : Option String) (answers : WifiAnswers)
  | initBLENetwork (allocated : Bool) (connect : ErrorCode)
  | nativeInitBLENetwork (answers : JniAnswers)
  | initMuxNetwork (ctx allocated : Bool)
  | closeWifiNetwork
  | closeBLENetwork
  | nativeCloseBLENetwork (environment : Bool)
  | closeMuxNetwork

namespace Call

/-- The manager after a call. Closing Mux without an object has no outcome. -/
def next (coreBluetooth : Bool) (manager : Manager) : Call → Option Manager
  | initWifiNetwork addr answers => some (manager.initWifiNetwork addr answers).2
  | initBLENetwork allocated connect =>
      some (manager.initBLENetwork coreBluetooth allocated connect).2
  | nativeInitBLENetwork answers => some (manager.nativeInitBLENetwork answers).2
  | initMuxNetwork ctx allocated => some (manager.initMuxNetwork ctx allocated).2
  | closeWifiNetwork => some manager.wifiNetworkDelete
  | closeBLENetwork => some (manager.closeBLENetwork coreBluetooth)
  | nativeCloseBLENetwork environment => some (manager.nativeCloseBLENetwork environment)
  | closeMuxNetwork => manager.closeMuxNetwork

/-- `Init` is called while no transport is installed. -/
def Allowed (manager : Manager) : Call → Prop
  | initWifiNetwork _ _ => ¬ manager.Installed
  | initBLENetwork _ _ => ¬ manager.Installed
  | nativeInitBLENetwork _ => ¬ manager.Installed
  | initMuxNetwork _ _ => ¬ manager.Installed
  | _ => True

/-- An `Init` that is going to leave objects finds every pointer that it does not set null,
or its own. A failed connection of the Android Bluetooth leaves them without setting any. -/
def Clean (coreBluetooth : Bool) (manager : Manager) : Call → Prop
  | initBLENetwork allocated connect =>
      coreBluetooth = true → allocated = true → connect = .ok → manager.OthersBelongTo .ble
  | nativeInitBLENetwork answers =>
      answers.environment = true → answers.allocated = true →
        if answers.connect = .ok then manager.OthersBelongTo .jniBle
        else manager.BelongsTo .jniBle
  | initMuxNetwork ctx allocated =>
      ctx = true → allocated = true → manager.OthersBelongTo .mux
  | _ => True

end Call

namespace Manager

variable {manager : Manager}

theorem bleNetworkDelete_senderObject (manager : Manager) :
    manager.bleNetworkDelete.senderObject = none := by
  by_cases gone : manager.senderObject = none
  · rw [bleNetworkDelete, if_pos gone]
    exact gone
  · rw [bleNetworkDelete, if_neg gone]
    rfl

theorem initWifiNetwork_unmixed (addr : Option String) (answers : WifiAnswers)
    (manager : Manager) : (manager.initWifiNetwork addr answers).2.Unmixed := by
  by_cases succeed : addr ≠ none ∧ answers.Succeed
  · rw [initWifiNetwork_ok succeed.1 succeed.2]
    refine (unmixed_install_iff manager .wifi).mpr ?_
    intro operation unset
    exact absurd (mem_sets_wifi operation) unset
  · rw [initWifiNetwork_failed succeed]
    exact unmixed_of_no_sender rfl

theorem initBLENetwork_unmixed_iff (gone : manager.senderObject = none)
    (coreBluetooth allocated : Bool) (connect : ErrorCode) :
    (manager.initBLENetwork coreBluetooth allocated connect).2.Unmixed ↔
      (coreBluetooth = true → allocated = true → connect = .ok →
        manager.OthersBelongTo .ble) := by
  cases coreBluetooth with
  | false => exact iff_of_true (unmixed_of_no_sender gone) nofun
  | true =>
      cases allocated with
      | false =>
          exact iff_of_true (unmixed_of_no_sender (bleNetworkDelete_senderObject manager)) nofun
      | true =>
          by_cases connected : connect = .ok
          · subst connected
            simpa [initBLENetwork] using unmixed_install_iff manager .ble
          · have deleted := bleNetworkDelete_senderObject (manager.withObjects .ble)
            refine iff_of_true ?_ fun _ _ ok => absurd ok connected
            simp only [initBLENetwork, if_neg connected]
            exact unmixed_of_no_sender deleted

theorem nativeInitBLENetwork_unmixed_iff (gone : manager.senderObject = none)
    (answers : JniAnswers) :
    (manager.nativeInitBLENetwork answers).2.Unmixed ↔
      (answers.environment = true → answers.allocated = true →
        if answers.connect = .ok then manager.OthersBelongTo .jniBle
        else manager.BelongsTo .jniBle) := by
  obtain ⟨environment, allocated, connect⟩ := answers
  cases environment with
  | false => exact iff_of_true (unmixed_of_no_sender gone) nofun
  | true =>
      cases allocated with
      | false => exact iff_of_true (unmixed_of_no_sender gone) nofun
      | true =>
          by_cases connected : connect = .ok
          · subst connected
            simpa [nativeInitBLENetwork] using unmixed_install_iff manager .jniBle
          · simpa [nativeInitBLENetwork, connected] using unmixed_withObjects_iff manager .jniBle

theorem initMuxNetwork_unmixed_iff (gone : manager.senderObject = none) (ctx allocated : Bool) :
    (manager.initMuxNetwork ctx allocated).2.Unmixed ↔
      (ctx = true → allocated = true → manager.OthersBelongTo .mux) := by
  cases ctx with
  | false => exact iff_of_true (unmixed_of_no_sender gone) nofun
  | true =>
      cases allocated with
      | false => exact iff_of_true (unmixed_of_no_sender gone) nofun
      | true => simpa [initMuxNetwork] using unmixed_install_iff manager .mux

end Manager

namespace Call

/-- **A call keeps the transports apart exactly if it is clean.** -/
theorem next_unmixed_iff {coreBluetooth : Bool} {before after : Manager} {call : Call}
    (unmixed : before.Unmixed) (allowed : call.Allowed before)
    (taken : call.next coreBluetooth before = some after) :
    after.Unmixed ↔ call.Clean coreBluetooth before := by
  cases call with
  | initWifiNetwork addr answers =>
      cases taken
      exact iff_of_true (Manager.initWifiNetwork_unmixed addr answers before) trivial
  | initBLENetwork allocated connect =>
      cases taken
      obtain ⟨gone, -⟩ := Manager.objects_of_not_installed allowed
      exact Manager.initBLENetwork_unmixed_iff gone coreBluetooth allocated connect
  | nativeInitBLENetwork answers =>
      cases taken
      obtain ⟨gone, -⟩ := Manager.objects_of_not_installed allowed
      exact Manager.nativeInitBLENetwork_unmixed_iff gone answers
  | initMuxNetwork ctx allocated =>
      cases taken
      obtain ⟨gone, -⟩ := Manager.objects_of_not_installed allowed
      exact Manager.initMuxNetwork_unmixed_iff gone ctx allocated
  | closeWifiNetwork =>
      cases taken
      exact iff_of_true (Manager.unmixed_of_no_sender rfl) trivial
  | closeBLENetwork =>
      cases taken
      refine iff_of_true ?_ trivial
      cases coreBluetooth with
      | false => exact unmixed
      | true => exact Manager.unmixed_of_no_sender (Manager.bleNetworkDelete_senderObject before)
  | nativeCloseBLENetwork environment =>
      cases taken
      refine iff_of_true ?_ trivial
      cases environment with
      | false => exact unmixed
      | true => exact Manager.unmixed_of_no_sender rfl
  | closeMuxNetwork =>
      obtain ⟨-, closed⟩ := Option.ite_none_left_eq_some.mp taken
      cases closed
      exact iff_of_true (Manager.unmixed_of_no_sender rfl) trivial

/-- Calls, with `Init` only while no transport is installed. -/
def Step (coreBluetooth : Bool) : Manager → Call → Manager → Prop :=
  restrict Allowed (enabled (next coreBluetooth))

theorem Step.functional {coreBluetooth : Bool} {manager first second : Manager} {call : Call}
    (left : Step coreBluetooth manager call first)
    (right : Step coreBluetooth manager call second) : first = second :=
  Option.some.inj (left.2.symm.trans right.2)

/-- **A manager keeps its transports apart in every state that a run passes exactly if every
call of the run is clean.** -/
theorem unmixed_iff_clean {coreBluetooth : Bool} {calls : List Call} {manager : Manager}
    (run : Run (Step coreBluetooth) .new calls manager) :
    (∀ passed, passed <+: calls → ∀ reached, Run (Step coreBluetooth) .new passed reached →
      reached.Unmixed) ↔
        Run (restrict (Clean coreBluetooth) (Step coreBluetooth)) .new calls manager := by
  refine run.always_iff Manager.Unmixed (Clean coreBluetooth) ?_ ?_ ?_
  · intro _ _ _ _ left right
    exact left.functional right
  · intro before call after unmixed taken
    exact next_unmixed_iff unmixed taken.1 taken.2
  · exact Manager.unmixed_of_no_sender rfl

/-- Every step of `InitWifiNetwork` succeeds. -/
def wifiSucceeds : WifiAnswers :=
  ⟨true, true, true, true, ⟨true, true, none⟩, ⟨true, true, none⟩⟩

/-- A session over Mux, and then one over WiFi. -/
theorem unmixed_mux_then_wifi :
    ∃ manager, [initMuxNetwork true true, closeMuxNetwork,
        initWifiNetwork (some "192.168.42.1") wifiSucceeds].foldlM (next false) .new =
          some manager ∧
      ∀ passed, passed <+: [initMuxNetwork true true, closeMuxNetwork,
        initWifiNetwork (some "192.168.42.1") wifiSucceeds] →
          ∀ reached, Run (Step false) .new passed reached → reached.Unmixed := by
  have idle : ¬ Manager.new.Installed := by decide
  have run : Run (restrict (Clean false) (Step false)) .new
      [initMuxNetwork true true, closeMuxNetwork,
        initWifiNetwork (some "192.168.42.1") wifiSucceeds] _ :=
    .cons ⟨fun _ _ _ _ => .inl rfl, idle, rfl⟩
      (.cons ⟨trivial, trivial, rfl⟩ (.single ⟨trivial, idle, rfl⟩))
  exact ⟨_, rfl, (unmixed_iff_clean run.of_restrict).mpr run⟩

/-- After a session over WiFi, Mux keeps the class selectors of WiFi. -/
theorem mixed_wifi_then_mux :
    ¬ ∀ (calls : List Call) (manager : Manager), Run (Step false) .new calls manager →
      manager.Unmixed := by
  intro claimed
  have idle : ¬ Manager.new.Installed := by decide
  have run : Run (Step false) .new
      [initWifiNetwork (some "192.168.42.1") wifiSucceeds, closeWifiNetwork,
        initMuxNetwork true true] _ :=
    .cons ⟨idle, rfl⟩ (.cons ⟨trivial, rfl⟩ (.single ⟨idle, rfl⟩))
  obtain ⟨-, belongs⟩ := claimed _ _ run .mux rfl
  have selector := belongs .setSendClassSelector
  exact absurd selector (by decide)

end Call

end ARNetworkAL
