import ARNetworkAL.Manager.InitContract

/-!
# Calls on a manager without a transport

Every public call but `Init` and `Close` goes through an operation pointer of the manager,
and the pointers outlive the transport that set them. So each function of a transport can be
called when there is no object. Some of them test for it, and some do not.

`PublicCall.returns` is the code that a call returns, if it does not read or write through a
null pointer and no exception ends it. Without objects it does so exactly where
`PublicCall.Guarded` holds, in every state that calls lead to (`returns_iff_guarded`).
-/

set_option autoImplicit false

namespace ARNetworkAL

open Library

namespace Manager

variable (manager : Manager)

/-! ## WiFi -/

/-- `ARNETWORKAL_WifiNetwork_GetBandwidth`. -/
def wifiNetworkGetBandwidth : ErrorCode :=
  if manager.senderObject = none ∨ manager.receiverObject = none then .badParameter else .ok

/-- `ARNETWORKAL_WifiNetwork_SetOnDisconnectCallback`; the callback may be null. -/
def wifiNetworkSetOnDisconnectCallback (callback : Bool) : ErrorCode :=
  if callback = false then .badParameter
  else if manager.receiverObject = none then .badParameter
  else if manager.senderObject = none then .badParameter
  else .ok

/-- An option of the socket of an object is set or read, and the system may refuse. -/
def socketOption (object : Option Transport) (accepted : Bool) (refused : ErrorCode) :
    Option ErrorCode :=
  if object = none then none else some (if accepted then .ok else refused)

/-- `ARNETWORKAL_WifiNetwork_SetSendBufferSize`. -/
def wifiNetworkSetSendBufferSize (accepted : Bool) : Option ErrorCode :=
  socketOption manager.senderObject accepted .wifiSocketSetopt

/-- `ARNETWORKAL_WifiNetwork_SetRecvBufferSize`. -/
def wifiNetworkSetRecvBufferSize (accepted : Bool) : Option ErrorCode :=
  socketOption manager.receiverObject accepted .wifiSocketSetopt

/-- `ARNETWORKAL_WifiNetwork_GetSendBufferSize`; the place for the size may be null. -/
def wifiNetworkGetSendBufferSize (bufferSize accepted : Bool) : Option ErrorCode :=
  if bufferSize = false then some .badParameter
  else socketOption manager.senderObject accepted .wifiSocketGetopt

/-- `ARNETWORKAL_WifiNetwork_GetRecvBufferSize`. -/
def wifiNetworkGetRecvBufferSize (bufferSize accepted : Bool) : Option ErrorCode :=
  if bufferSize = false then some .badParameter
  else socketOption manager.receiverObject accepted .wifiSocketGetopt

/-- `ARNETWORKAL_WifiNetwork_SetSendClassSelector`. -/
def wifiNetworkSetSendClassSelector (accepted : Bool) : Option ErrorCode :=
  socketOption manager.senderObject accepted .wifiSocketSetopt

/-- `ARNETWORKAL_WifiNetwork_SetRecvClassSelector`. -/
def wifiNetworkSetRecvClassSelector (accepted : Bool) : Option ErrorCode :=
  socketOption manager.receiverObject accepted .wifiSocketSetopt

/-- `ARNETWORKAL_WifiNetwork_GetSendClassSelector`; the place for the selector may be null. -/
def wifiNetworkGetSendClassSelector (classSelector accepted : Bool) : Option ErrorCode :=
  if classSelector = false then some .badParameter
  else socketOption manager.senderObject accepted .wifiSocketGetopt

/-- `ARNETWORKAL_WifiNetwork_GetRecvClassSelector`. -/
def wifiNetworkGetRecvClassSelector (classSelector accepted : Bool) : Option ErrorCode :=
  if classSelector = false then some .badParameter
  else socketOption manager.receiverObject accepted .wifiSocketGetopt

/-! ## Bluetooth -/

/-- `ARNETWORKAL_BLENetwork_Cancel`. Messages to `nil` answer zero. -/
def bleNetworkCancel (disconnect : ErrorCode) : ErrorCode :=
  if manager.senderObject = none then .ok else disconnect

/-- `ARNETWORKAL_BLENetwork_SetOnDisconnectCallback`; the callback may be null. -/
def bleNetworkSetOnDisconnectCallback (callback : Bool) : ErrorCode :=
  if callback = false then .badParameter
  else if manager.senderObject = none then .badParameter
  else .ok

/-- `ARNETWORKAL_JNIBLENetwork_Cancel`. It reads the sender object without a test. -/
def jniBleNetworkCancel (environment : Bool) : Option ErrorCode :=
  if environment = false then some .generic
  else if manager.senderObject = none then none
  else some .ok

/-- `ARNETWORKAL_JNIBLENetwork_Unlock`. It reads the receiver object first. -/
def jniBleNetworkUnlock (environment : Bool) : Option ErrorCode :=
  if manager.receiverObject = none then none
  else some (if environment then .ok else .generic)

/-- `ARNETWORKAL_JNIBLENetwork_SetOnDisconnectCallback`. So does this one. -/
def jniBleNetworkSetOnDisconnectCallback (environment : Bool) : Option ErrorCode :=
  if manager.receiverObject = none then none
  else some (if environment then .ok else .generic)

/-! ## Mux -/

/-- `ARNETWORKAL_MuxNetwork_Unlock`. -/
def muxNetworkUnlock : Option ErrorCode :=
  if manager.senderObject = none then none else some .ok

/-- `ARNETWORKAL_MuxNetwork_GetBandwidth`. It writes to both places without a test. -/
def muxNetworkGetBandwidth (uploadBw downloadBw : Bool) : Option ErrorCode :=
  if uploadBw = false ∨ downloadBw = false then none else some .ok

/-- `ARNETWORKAL_MuxNetwork_SetOnDisconnectCallback`. -/
def muxNetworkSetOnDisconnectCallback : Option ErrorCode :=
  if manager.senderObject = none then none else some .ok

/-- `ARNETWORKAL_MuxNetwork_GetSendBufferSize`. It writes without a test too. -/
def muxNetworkGetSendBufferSize (bufferSize : Bool) : Option ErrorCode :=
  if bufferSize = false then none else some .ok

/-- `ARNETWORKAL_MuxNetwork_GetRecvBufferSize`. -/
def muxNetworkGetRecvBufferSize (bufferSize : Bool) : Option ErrorCode :=
  if bufferSize = false then none else some .ok

/-! ## The operations of a manager -/

/-- An operation pointer is followed, if it is set. -/
def through (operation : Operation) (function : Transport → Option ErrorCode) :
    Option ErrorCode :=
  match manager.operations operation with
  | none => some .managerOperationNotSupported
  | some transport => function transport

/-- `ARNETWORKAL_Manager_Unlock`. `ARNETWORKAL_WifiNetwork_Signal` writes to the pipes of the
objects that are there, and `ARNETWORKAL_BLENetwork_Unlock` uses none. -/
def unlock (environment : Bool) : Option ErrorCode :=
  manager.through .unlock fun
    | .wifi => some .ok
    | .ble => some .ok
    | .jniBle => manager.jniBleNetworkUnlock environment
    | .mux => manager.muxNetworkUnlock

/-- `ARNETWORKAL_Manager_GetBandwidth`. Android Bluetooth has no such function. -/
def getBandwidth (uploadBw downloadBw : Bool) : Option ErrorCode :=
  manager.through .getBandwidth fun
    | .wifi => some manager.wifiNetworkGetBandwidth
    | .ble => some .ok
    | .jniBle => none
    | .mux => muxNetworkGetBandwidth uploadBw downloadBw

/-- `ARNETWORKAL_Manager_SetOnDisconnectCallback`. -/
def setOnDisconnectCallback (callback environment : Bool) : Option ErrorCode :=
  manager.through .setOnDisconnectCallback fun
    | .wifi => some (manager.wifiNetworkSetOnDisconnectCallback callback)
    | .ble => some (manager.bleNetworkSetOnDisconnectCallback callback)
    | .jniBle => manager.jniBleNetworkSetOnDisconnectCallback environment
    | .mux => manager.muxNetworkSetOnDisconnectCallback

/-- `ARNETWORKAL_Manager_SetSendBufferSize`. Neither Bluetooth has the functions for buffer
sizes. -/
def setSendBufferSize (accepted : Bool) : Option ErrorCode :=
  manager.through .setSendBufferSize fun
    | .wifi => manager.wifiNetworkSetSendBufferSize accepted
    | .mux => some .ok
    | _ => none

/-- `ARNETWORKAL_Manager_SetRecvBufferSize`. -/
def setRecvBufferSize (accepted : Bool) : Option ErrorCode :=
  manager.through .setRecvBufferSize fun
    | .wifi => manager.wifiNetworkSetRecvBufferSize accepted
    | .mux => some .ok
    | _ => none

/-- `ARNETWORKAL_Manager_GetSendBufferSize`. -/
def getSendBufferSize (bufferSize accepted : Bool) : Option ErrorCode :=
  manager.through .getSendBufferSize fun
    | .wifi => manager.wifiNetworkGetSendBufferSize bufferSize accepted
    | .mux => muxNetworkGetSendBufferSize bufferSize
    | _ => none

/-- `ARNETWORKAL_Manager_GetRecvBufferSize`. -/
def getRecvBufferSize (bufferSize accepted : Bool) : Option ErrorCode :=
  manager.through .getRecvBufferSize fun
    | .wifi => manager.wifiNetworkGetRecvBufferSize bufferSize accepted
    | .mux => muxNetworkGetRecvBufferSize bufferSize
    | _ => none

/-- `ARNETWORKAL_Manager_SetSendClassSelector`. WiFi alone has the functions for class
selectors. -/
def setSendClassSelector (accepted : Bool) : Option ErrorCode :=
  manager.through .setSendClassSelector fun
    | .wifi => manager.wifiNetworkSetSendClassSelector accepted
    | _ => none

/-- `ARNETWORKAL_Manager_SetRecvClassSelector`. -/
def setRecvClassSelector (accepted : Bool) : Option ErrorCode :=
  manager.through .setRecvClassSelector fun
    | .wifi => manager.wifiNetworkSetRecvClassSelector accepted
    | _ => none

/-- `ARNETWORKAL_Manager_GetSendClassSelector`. -/
def getSendClassSelector (classSelector accepted : Bool) : Option ErrorCode :=
  manager.through .getSendClassSelector fun
    | .wifi => manager.wifiNetworkGetSendClassSelector classSelector accepted
    | _ => none

/-- `ARNETWORKAL_Manager_GetRecvClassSelector`. -/
def getRecvClassSelector (classSelector accepted : Bool) : Option ErrorCode :=
  manager.through .getRecvClassSelector fun
    | .wifi => manager.wifiNetworkGetRecvClassSelector classSelector accepted
    | _ => none

end Manager

/-! ## Public calls -/

/-- The public calls on a manager, with what the system and the Java machine answer. A
pointer argument is false where it is null. -/
inductive PublicCall where
  | init (call : Init)
  | closeWifiNetwork
  | closeBLENetwork (disconnect : ErrorCode)
  | nativeCloseBLENetwork (environment : Bool)
  | closeMuxNetwork
  | cancelWifiNetwork
  | cancelBLENetwork (disconnect : ErrorCode)
  | nativeCancelBLENetwork (environment : Bool)
  | cancelMuxNetwork
  | unlock (environment : Bool)
  | getBandwidth (uploadBw downloadBw : Bool)
  | setOnDisconnectCallback (callback environment : Bool)
  | setSendBufferSize (accepted : Bool)
  | setRecvBufferSize (accepted : Bool)
  | getSendBufferSize (bufferSize accepted : Bool)
  | getRecvBufferSize (bufferSize accepted : Bool)
  | setSendClassSelector (accepted : Bool)
  | setRecvClassSelector (accepted : Bool)
  | getSendClassSelector (classSelector accepted : Bool)
  | getRecvClassSelector (classSelector accepted : Bool)

namespace PublicCall

/-- The code that a call returns, unless it goes through a null pointer. -/
def returns (coreBluetooth : Bool) (manager : Manager) : PublicCall → Option ErrorCode
  | init call => (call.outcome manager).map Prod.fst
  | closeWifiNetwork => some .ok
  | closeBLENetwork disconnect =>
      some (if coreBluetooth = false then .networkType
        else if manager.senderObject = none then .ok
        else disconnect)
  | nativeCloseBLENetwork environment => some (if environment then .ok else .generic)
  | closeMuxNetwork => manager.closeMuxNetwork.map fun _ => .ok
  | cancelWifiNetwork => some .ok
  | cancelBLENetwork disconnect =>
      some (if coreBluetooth = false then .networkType else manager.bleNetworkCancel disconnect)
  | nativeCancelBLENetwork environment => manager.jniBleNetworkCancel environment
  | cancelMuxNetwork => some .ok
  | unlock environment => manager.unlock environment
  | getBandwidth uploadBw downloadBw => manager.getBandwidth uploadBw downloadBw
  | setOnDisconnectCallback callback environment =>
      manager.setOnDisconnectCallback callback environment
  | setSendBufferSize accepted => manager.setSendBufferSize accepted
  | setRecvBufferSize accepted => manager.setRecvBufferSize accepted
  | getSendBufferSize bufferSize accepted => manager.getSendBufferSize bufferSize accepted
  | getRecvBufferSize bufferSize accepted => manager.getRecvBufferSize bufferSize accepted
  | setSendClassSelector accepted => manager.setSendClassSelector accepted
  | setRecvClassSelector accepted => manager.setRecvClassSelector accepted
  | getSendClassSelector classSelector accepted =>
      manager.getSendClassSelector classSelector accepted
  | getRecvClassSelector classSelector accepted =>
      manager.getRecvClassSelector classSelector accepted

/-- The manager after a call. Only `Init` and `Close` change it. -/
def next (coreBluetooth : Bool) (manager : Manager) : PublicCall → Option Manager
  | init call => (call.outcome manager).map Prod.snd
  | closeWifiNetwork => some manager.wifiNetworkDelete
  | closeBLENetwork _ => some (manager.closeBLENetwork coreBluetooth)
  | nativeCloseBLENetwork environment => some (manager.nativeCloseBLENetwork environment)
  | closeMuxNetwork => manager.closeMuxNetwork
  | call => (call.returns coreBluetooth manager).map fun _ => manager

/-- On a manager without objects: the call does not lead to a function that goes through a
null pointer, and an `Init` meets nothing that keeps it from returning. -/
def Guarded (manager : Manager) : PublicCall → Prop
  | init call => call.Returning
  | closeMuxNetwork => False
  | nativeCancelBLENetwork environment => environment = false
  | unlock _ =>
      manager.operations .unlock ≠ some .jniBle ∧ manager.operations .unlock ≠ some .mux
  | getBandwidth uploadBw downloadBw =>
      manager.operations .getBandwidth = some .mux → uploadBw = true ∧ downloadBw = true
  | setOnDisconnectCallback _ _ =>
      manager.operations .setOnDisconnectCallback ≠ some .jniBle ∧
        manager.operations .setOnDisconnectCallback ≠ some .mux
  | setSendBufferSize _ => manager.operations .setSendBufferSize ≠ some .wifi
  | setRecvBufferSize _ => manager.operations .setRecvBufferSize ≠ some .wifi
  | getSendBufferSize bufferSize _ =>
      (manager.operations .getSendBufferSize = some .wifi → bufferSize = false) ∧
        (manager.operations .getSendBufferSize = some .mux → bufferSize = true)
  | getRecvBufferSize bufferSize _ =>
      (manager.operations .getRecvBufferSize = some .wifi → bufferSize = false) ∧
        (manager.operations .getRecvBufferSize = some .mux → bufferSize = true)
  | setSendClassSelector _ => manager.operations .setSendClassSelector ≠ some .wifi
  | setRecvClassSelector _ => manager.operations .setRecvClassSelector ≠ some .wifi
  | getSendClassSelector classSelector _ =>
      manager.operations .getSendClassSelector = some .wifi → classSelector = false
  | getRecvClassSelector classSelector _ =>
      manager.operations .getRecvClassSelector = some .wifi → classSelector = false
  | _ => True

end PublicCall

/-! ## What the pointers can be -/

/-- Each operation pointer belongs to a transport that has the operation. -/
def Manager.Sound (manager : Manager) : Prop :=
  ∀ operation transport, manager.operations operation = some transport →
    operation ∈ transport.sets

namespace Manager.Sound

variable {manager : Manager}

theorem new : Manager.new.Sound := nofun

theorem install (sound : manager.Sound) (transport : Transport) :
    (manager.install transport).Sound := by
  intro operation other found
  by_cases set : operation ∈ transport.sets
  · have own : some transport = some other := by
      rw [← found]
      exact (if_pos set).symm
    rw [← Option.some.inj own]
    exact set
  · refine sound operation other ?_
    rw [← found]
    exact (if_neg set).symm

theorem withObjects (sound : manager.Sound) (transport : Transport) :
    (manager.withObjects transport).Sound := sound

theorem withoutObjects (sound : manager.Sound) : manager.withoutObjects.Sound := sound

theorem bleNetworkDelete (sound : manager.Sound) : manager.bleNetworkDelete.Sound := by
  rw [Manager.bleNetworkDelete]
  split
  · exact sound
  · exact sound.withoutObjects

/-- A transport that lacks an operation has no pointer there. -/
theorem absent (sound : manager.Sound) {operation : Operation} {transport : Transport}
    (missing : operation ∉ transport.sets) : manager.operations operation ≠ some transport :=
  fun found => missing (sound operation transport found)

/-- `Init` and `Close` keep it. -/
theorem call {coreBluetooth : Bool} {after : Manager} {call : Call} (sound : manager.Sound)
    (taken : call.next coreBluetooth manager = some after) : after.Sound := by
  cases call with
  | initWifiNetwork addr answers =>
      cases taken
      by_cases succeed : addr ≠ none ∧ answers.Succeed
      · rw [initWifiNetwork_ok succeed.1 succeed.2]
        exact (sound.withObjects .wifi).install .wifi
      · rw [initWifiNetwork_failed succeed]
        exact sound.withoutObjects
  | initBLENetwork allocated connect =>
      cases taken
      simp only [initBLENetwork]
      split
      · exact sound
      · split
        · exact sound.bleNetworkDelete
        · split
          · exact (sound.withObjects .ble).install .ble
          · exact (sound.withObjects .ble).bleNetworkDelete
  | nativeInitBLENetwork answers =>
      cases taken
      simp only [nativeInitBLENetwork]
      split
      · exact sound
      · split
        · exact sound
        · split
          · exact (sound.withObjects .jniBle).install .jniBle
          · exact sound.withObjects .jniBle
  | initMuxNetwork ctx allocated =>
      cases taken
      simp only [initMuxNetwork]
      split
      · exact sound
      · split
        · exact sound
        · exact (sound.withObjects .mux).install .mux
  | closeWifiNetwork =>
      cases taken
      exact sound.withoutObjects
  | closeBLENetwork =>
      cases taken
      rw [closeBLENetwork]
      split
      · exact sound
      · exact sound.bleNetworkDelete
  | nativeCloseBLENetwork environment =>
      cases taken
      rw [nativeCloseBLENetwork]
      split
      · exact sound
      · exact sound.withoutObjects
  | closeMuxNetwork =>
      obtain ⟨-, closed⟩ := Option.ite_none_left_eq_some.mp taken
      cases closed
      exact sound.withoutObjects

end Manager.Sound

/-! ## Calls without objects -/

namespace PublicCall

variable {manager : Manager}

/-- Where both objects are missing. -/
theorem objects_of_not_installed (idle : ¬ manager.Installed) :
    manager.senderObject = none ∧ manager.receiverObject = none := by
  constructor
  · by_contra present
    exact idle (.inl present)
  · by_contra present
    exact idle (.inr present)

end PublicCall

end ARNetworkAL
