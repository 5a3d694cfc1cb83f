import ARNetworkAL.Ble.Ios
import ARNetworkAL.Library.Requests
import ARNetworkAL.Manager

/-!
# Connecting to a peripheral on iOS

`connectWithBTManager:` goes through five stages: it connects, discovers the services, and
the characteristics of each Parrot service, chooses a service to send to and one to receive
from, and turns notifications on. Each stage asks `ARSAL_BLEManager`, and an error ends the
call. Only between the third and the fifth stage does the object take note of the peripheral.

`InitBLENetwork` calls `Delete` after an error, and `disconnect` disconnects the peripheral
that the object has noted. So an error before the services were chosen leaves the peripheral
connected (`disconnects_iff`).

What `ARSAL_BLEManager` answers to a call may depend on all the calls before it.
-/

set_option autoImplicit false

namespace ARNetworkAL

open Library

namespace BleNetwork

namespace Ios

/-! ## Peripherals -/

/-- `CBCharacteristicPropertyWriteWithoutResponse`. -/
def propertyWriteWithoutResponse : ℕ := 0x04

/-- `CBCharacteristicPropertyNotify`. -/
def propertyNotify : ℕ := 0x10

/-- A `CBCharacteristic`. -/
structure Characteristic where
  shortUuid : List Char
  properties : ℕ
  deriving DecidableEq, Repr

/-- A property is among those of a characteristic. -/
def Characteristic.has (characteristic : Characteristic) (property : ℕ) : Bool :=
  characteristic.properties &&& property == property

/-- A `CBService`. -/
structure Service where
  shortUuid : List Char
  characteristics : List Characteristic
  deriving DecidableEq, Repr

/-- Its short UUID starts with `ARNETWORKAL_BLENETWORK_PARROT_SERVICE_PREFIX_UUID`. -/
def Service.isParrot (service : Service) : Bool := ['f'].isPrefixOf service.shortUuid

/-- A `CBPeripheral`, with the services and characteristics that it shows when they are
discovered. -/
structure Peripheral where
  identifier : ℕ
  services : List Service
  deriving DecidableEq, Repr

/-! ## ARSAL_BLEManager -/

/-- The values of `eARSAL_ERROR` that are told apart. -/
inductive SalError where
  | ok
  | bleCharacteristicConfiguring
  | bleNotConnected
  | other (code : ℤ)
  deriving DecidableEq, Repr

/-- A call on `ARSAL_BLEManager`. The delegate is the object or `nil`. -/
inductive BleCall where
  | connectToPeripheral (peripheral : Peripheral) (centralManager : Option ℕ)
  | discoverNetworkServices
  | discoverNetworkCharacteristics (service : Service)
  | setDelegate (object : Bool)
  | setNotificationCharacteristic (characteristic : Characteristic)
  | registerNotificationCharacteristics (characteristics : List Characteristic)
  | disconnectPeripheral (peripheral : Peripheral) (centralManager : Option ℕ)
  | reset
  deriving DecidableEq, Repr

/-- What it answers to the last of the calls so far. -/
abbrev BleAnswers := List BleCall → SalError

/-- The last of the calls so far succeeds. -/
abbrev BleAnswers.Accept (answers : BleAnswers) (calls : List BleCall) : Prop :=
  answers calls = .ok

/-- `ARNETWORKAL_BLENetwork`, with the fields of a connection. -/
structure BleObject extends Network Characteristic where
  peripheral : Option Peripheral
  centralManager : Option ℕ
  recvService : Option Service
  recvNotificationCharacteristicArray : List Characteristic
  bwSem : ℕ
  bwThreadRunning : ℕ

/-- `-[ARNETWORKAL_BLENetwork initWithManager:]`. -/
def BleObject.new : BleObject where
  sendService := none
  recvArray := []
  bwCurrentUp := 0
  bwCurrentDown := 0
  peripheral := none
  centralManager := none
  recvService := none
  recvNotificationCharacteristicArray := []
  bwSem := 0
  bwThreadRunning := 0

/-! ## The loops of connect -/

section

variable (answers : BleAnswers)

/-- The characteristics of the Parrot services are discovered, until one fails. -/
def discoverCharacteristics : List Service → List BleCall → ErrorCode × List BleCall
  | [], calls => (.ok, calls)
  | service :: services, calls =>
      if service.isParrot then
        let calls := calls ++ [.discoverNetworkCharacteristics service]
        if answers calls = .ok then discoverCharacteristics services calls
        else (.bleDisconnection, calls)
      else discoverCharacteristics services calls

/-- The services to send to and to receive from, by their first characteristics. The loop
ends when both are found. -/
def selectServices : List Service → Option Service → Option Service →
    Option Service × Option Service
  | [], senderService, receiverService => (senderService, receiverService)
  | service :: services, senderService, receiverService =>
      if senderService = none ∨ receiverService = none then
        if service.isParrot then
          match service.characteristics with
          | [] => selectServices services senderService receiverService
          | characteristic :: _ =>
              selectServices services
                (if senderService = none ∧ characteristic.has propertyWriteWithoutResponse then
                  some service else senderService)
                (if receiverService = none ∧ characteristic.has propertyNotify then
                  some service else receiverService)
        else selectServices services senderService receiverService
      else (senderService, receiverService)

/-- `objectAtIndex:` of an `int`. It raises `NSRangeException` where there is no object. -/
def objectAtIndex {α : Type} (objects : List α) (index : ℤ) : Option α :=
  if 0 ≤ index then objects[index.toNat]? else none

/-- The characteristics to notify: those of the identifiers, or all of the service. -/
def notificationCharacteristics (receiverService : Service) (notificationIDs : Option (List ℤ)) :
    Option (List Characteristic) :=
  match notificationIDs with
  | none => some receiverService.characteristics
  | some ids => ids.mapM (objectAtIndex receiverService.characteristics)

/-- Notifications are turned on for the characteristics that have them. The loop goes on
after an error, and the last error stays. -/
def setNotifications : List Characteristic → ErrorCode → List Characteristic → List BleCall →
    ErrorCode × List Characteristic × List BleCall
  | [], result, registered, calls => (result, registered, calls)
  | characteristic :: characteristics, result, registered, calls =>
      if characteristic.has propertyNotify then
        let calls := calls ++ [.setNotificationCharacteristic characteristic]
        match answers calls with
        | .ok => setNotifications characteristics result (registered ++ [characteristic]) calls
        | .bleCharacteristicConfiguring =>
            setNotifications characteristics .bleCharacteristicConfiguring registered calls
        | .bleNotConnected => setNotifications characteristics .bleConnection registered calls
        | .other _ => setNotifications characteristics .bleConnection registered calls
      else setNotifications characteristics result registered calls

/-- The short UUID starts with one of the two `ARNETWORKAL_BLENETWORK_PARROT_CHARACTERISTIC`
prefixes of FTP. -/
def Characteristic.isFtp (characteristic : Characteristic) : Bool :=
  "fd23".toList.isPrefixOf characteristic.shortUuid ||
    "fd53".toList.isPrefixOf characteristic.shortUuid

/-- Notifications are turned on for the FTP characteristics of a service, until one fails. -/
def setFtpCharacteristics : List Characteristic → List BleCall → ErrorCode × List BleCall
  | [], calls => (.ok, calls)
  | characteristic :: characteristics, calls =>
      if characteristic.has propertyNotify && characteristic.isFtp then
        let calls := calls ++ [.setNotificationCharacteristic characteristic]
        if answers calls = .ok then setFtpCharacteristics characteristics calls
        else (.bleCharacteristicConfiguring, calls)
      else setFtpCharacteristics characteristics calls

/-- The same for every Parrot service. -/
def setFtpNotifications : List Service → List BleCall → ErrorCode × List BleCall
  | [], calls => (.ok, calls)
  | service :: services, calls =>
      if service.isParrot then
        let (result, calls) := setFtpCharacteristics answers service.characteristics calls
        if result = .ok then setFtpNotifications services calls else (result, calls)
      else setFtpNotifications services calls

end

/-! ## Connect, Delete and Init -/

/-- What `connectWithBTManager:` returns and does: the error, unless the call ends by an
exception, the object afterwards, and the calls on `ARSAL_BLEManager`. -/
structure ConnectOutcome where
  result : Option ErrorCode
  object : BleObject
  calls : List BleCall

section

variable (answers : BleAnswers) (mainThread : Bool) (centralManager : Option ℕ)

/-- The part of `connectWithBTManager:` with the services found. -/
def configure (peripheral : Peripheral) (senderService receiverService : Service)
    (notificationIDs : Option (List ℤ)) (object : BleObject) (calls : List BleCall) :
    ConnectOutcome :=
  let object :=
    { object with
      bwCurrentUp := 0
      bwCurrentDown := 0
      bwThreadRunning := object.bwThreadRunning + 1
      centralManager := centralManager
      peripheral := some peripheral
      sendService := some senderService.characteristics
      recvService := some receiverService }
  let calls := calls ++ [.setDelegate true]
  match notificationCharacteristics receiverService notificationIDs with
  | none => ⟨none, object, calls⟩
  | some characteristics =>
      let (result, registered, calls) :=
        setNotifications answers characteristics .ok object.recvNotificationCharacteristicArray
          calls
      let object := { object with recvNotificationCharacteristicArray := registered }
      let calls := calls ++ [.registerNotificationCharacteristics registered]
      if result = .ok then
        let (result, calls) := setFtpNotifications answers peripheral.services calls
        ⟨some result, object, calls⟩
      else ⟨some result, object, calls⟩

/-- `-[ARNETWORKAL_BLENetwork connectWithBTManager:peripheral:andTimeout:andNotificationIDArray:]`.
The peripheral may be `nil`. -/
def connect (peripheral : Option Peripheral) (notificationIDs : Option (List ℤ))
    (object : BleObject) : ConnectOutcome :=
  if mainThread then ⟨some .mainThread, object, []⟩
  else
    match peripheral with
    | none => ⟨some .badParameter, object, []⟩
    | some peripheral =>
        let object := { object with recvNotificationCharacteristicArray := [] }
        let calls : List BleCall := [.connectToPeripheral peripheral centralManager]
        if answers calls ≠ .ok then ⟨some .bleConnection, object, calls⟩
        else
          let calls := calls ++ [.discoverNetworkServices]
          if answers calls ≠ .ok then ⟨some .bleDisconnection, object, calls⟩
          else
            let (result, calls) := discoverCharacteristics answers peripheral.services calls
            if result ≠ .ok then ⟨some result, object, calls⟩
            else
              match selectServices peripheral.services none none with
              | (some senderService, some receiverService) =>
                  configure answers centralManager peripheral senderService receiverService
                    notificationIDs object calls
              | _ => ⟨some .bleServicesDiscovering, object, calls⟩

/-- `-[ARNETWORKAL_BLENetwork disconnect]`: the error, the object afterwards and the calls,
if it does not wait for ever. -/
def disconnect (object : BleObject) : Option (ErrorCode × BleObject × List BleCall) :=
  match object.peripheral with
  | none => some (.ok, object, [])
  | some peripheral =>
      if mainThread then some (.mainThread, object, [])
      -- `ARSAL_Sem_Wait (&_bw_threadRunning)`
      else if object.bwThreadRunning = 0 then none
      else
        some (.ok,
          { object with
            bwSem := object.bwSem + 1
            bwThreadRunning := object.bwThreadRunning - 1
            peripheral := none },
          [.setDelegate false, .disconnectPeripheral peripheral object.centralManager])

/-- What `InitBLENetwork` returns and does: the error, unless the call does not return, the
manager afterwards, and the calls on `ARSAL_BLEManager`. -/
structure InitOutcome where
  result : Option ErrorCode
  manager : Manager
  calls : List BleCall

/-- `ARNETWORKAL_Manager_InitBLENetwork`, of a manager without a transport. An error of
`disconnect` is not returned. -/
def initBLENetwork (allocated : Bool) (device : Option Peripheral)
    (notificationIDs : Option (List ℤ)) (manager : Manager) : InitOutcome :=
  if allocated = false then ⟨some .alloc, manager.bleNetworkDelete, []⟩
  else
    let manager := manager.withObjects .ble
    let outcome := connect answers mainThread centralManager device notificationIDs .new
    match outcome.result with
    | none => ⟨none, manager, outcome.calls⟩
    | some error =>
        if error = .ok then ⟨some .ok, manager.install .ble, outcome.calls⟩
        else
          match disconnect mainThread outcome.object with
          | none => ⟨none, manager, outcome.calls⟩
          | some (_, _, calls) =>
              ⟨some error, manager.bleNetworkDelete, outcome.calls ++ calls ++ [.reset]⟩

end

/-! ## What the loops do -/

/-- The calls that discover the characteristics of the Parrot services. -/
def discoveries (services : List Service) : List BleCall :=
  (services.filter Service.isParrot).map .discoverNetworkCharacteristics

/-- They are made until one is refused. -/
theorem discoverCharacteristics_eq (answers : BleAnswers) (services : List Service)
    (calls : List BleCall) :
    discoverCharacteristics answers services calls =
      (if (requestAll answers.Accept calls (discoveries services)).1 then .ok
        else .bleDisconnection,
        (requestAll answers.Accept calls (discoveries services)).2) := by
  induction services generalizing calls with
  | nil => rfl
  | cons service services ih =>
      simp only [discoverCharacteristics]
      by_cases parrot : service.isParrot = true
      · have first : discoveries (service :: services) =
            .discoverNetworkCharacteristics service :: discoveries services := by
          simp [discoveries, parrot]
        rw [if_pos parrot, first]
        simp only [requestAll]
        split
        · exact ih _
        · rfl
      · have skipped : discoveries (service :: services) = discoveries services := by
          simp [discoveries, parrot]
        rw [if_neg parrot, skipped]
        exact ih calls

/-- A Parrot service whose first characteristic has a property. -/
def Service.offers (property : ℕ) (service : Service) : Bool :=
  service.isParrot && service.characteristics.head?.any fun first => first.has property

/-- A choice that is kept once it was made goes on as a search that starts here. -/
theorem choose_or {α : Type} [DecidableEq α] (chosen : Option α) (here : α) (others : List α)
    (fits : α → Bool) :
    (if chosen = none ∧ fits here = true then some here else chosen).or (others.find? fits) =
      chosen.or ((here :: others).find? fits) := by
  rw [List.find?_cons]
  cases chosen with
  | none => cases fits here <;> rfl
  | some earlier => cases fits here <;> rfl

/-- **The first service that offers each property is chosen**, unless one was chosen before. -/
theorem selectServices_eq (services : List Service) (sender receiver : Option Service) :
    selectServices services sender receiver =
      (sender.or (services.find? (Service.offers propertyWriteWithoutResponse)),
        receiver.or (services.find? (Service.offers propertyNotify))) := by
  induction services generalizing sender receiver with
  | nil => simp [selectServices]
  | cons service services ih =>
      simp only [selectServices]
      by_cases looking : sender = none ∨ receiver = none
      · rw [if_pos looking]
        by_cases parrot : service.isParrot = true
        · rw [if_pos parrot]
          cases first : service.characteristics with
          | nil =>
              simp only [ih]
              simp [Service.offers, first]
          | cons characteristic others =>
              have offers : ∀ property,
                  service.offers property = characteristic.has property := by
                intro property
                simp [Service.offers, parrot, first]
              simp only [ih, ← offers, choose_or]
        · rw [if_neg parrot, ih]
          simp [Service.offers, parrot]
      · obtain ⟨sent, received⟩ := not_or.mp looking
        obtain ⟨sending, rfl⟩ := Option.ne_none_iff_exists'.mp sent
        obtain ⟨receiving, rfl⟩ := Option.ne_none_iff_exists'.mp received
        rw [if_neg looking]
        rfl

/-! ## When the peripheral is noted -/

/-- The first calls of a connection. -/
def opening (peripheral : Peripheral) (centralManager : Option ℕ) : List BleCall :=
  [.connectToPeripheral peripheral centralManager, .discoverNetworkServices]

/-- After the connection both stages of the discovery succeed, and they show a service to
send to and one to receive from. -/
structure ServicesFound (answers : BleAnswers) (centralManager : Option ℕ)
    (peripheral : Peripheral) : Prop where
  services : answers (opening peripheral centralManager) = .ok
  characteristics : ∀ passed, passed <+: discoveries peripheral.services → passed ≠ [] →
    answers (opening peripheral centralManager ++ passed) = .ok
  sender : ∃ service ∈ peripheral.services, service.offers propertyWriteWithoutResponse
  receiver : ∃ service ∈ peripheral.services, service.offers propertyNotify

/-- What the object holds once the services are configured, however the call ends. -/
theorem configure_notes (answers : BleAnswers) (centralManager : Option ℕ)
    (peripheral : Peripheral) (notificationIDs : Option (List ℤ)) (object : BleObject)
    (senderService receiverService : Service) (calls : List BleCall) :
    let outcome := configure answers centralManager peripheral senderService receiverService
      notificationIDs object calls
    outcome.object.peripheral = some peripheral ∧
      outcome.object.centralManager = centralManager ∧
        outcome.object.bwThreadRunning = object.bwThreadRunning + 1 := by
  intro outcome
  simp only [outcome, configure]
  split
  · exact ⟨rfl, rfl, rfl⟩
  · split
    · exact ⟨rfl, rfl, rfl⟩
    · exact ⟨rfl, rfl, rfl⟩

/-- The third stage succeeds exactly if every call in it does, and makes calls of the third
stage only. -/
theorem discoverCharacteristics_made (answers : BleAnswers) (services : List Service)
    (calls : List BleCall) :
    ((discoverCharacteristics answers services calls).1 = .ok ↔
      ∀ passed, passed <+: discoveries services → passed ≠ [] →
        answers (calls ++ passed) = .ok) ∧
      ∃ passed, passed <+: discoveries services ∧
        (discoverCharacteristics answers services calls).2 = calls ++ passed := by
  rw [discoverCharacteristics_eq]
  refine ⟨?_, requestAll_made answers.Accept calls (discoveries services)⟩
  refine Iff.trans ?_ (requestAll_fst_iff answers.Accept)
  rw [ite_eq_left_iff]
  simp

/-- The object as a connection begins. -/
def BleObject.cleared (object : BleObject) : BleObject :=
  { object with recvNotificationCharacteristicArray := [] }

section

variable {answers : BleAnswers} {centralManager : Option ℕ} {peripheral : Peripheral}
  (notificationIDs : Option (List ℤ)) (object : BleObject)

/-- The connection after the second stage. -/
theorem connect_discovered
    (connected : answers [.connectToPeripheral peripheral centralManager] = .ok)
    (second : answers (opening peripheral centralManager) = .ok) :
    let third := discoverCharacteristics answers peripheral.services
      (opening peripheral centralManager)
    connect answers false centralManager (some peripheral) notificationIDs object =
      if third.1 = .ok then
        match peripheral.services.find? (Service.offers propertyWriteWithoutResponse),
          peripheral.services.find? (Service.offers propertyNotify) with
        | some senderService, some receiverService =>
            configure answers centralManager peripheral senderService receiverService
              notificationIDs object.cleared third.2
        | _, _ => ⟨some .bleServicesDiscovering, object.cleared, third.2⟩
      else ⟨some third.1, object.cleared, third.2⟩ := by
  intro third
  rw [opening] at second
  simp only [connect, Bool.false_eq_true, if_false, connected, ne_eq, not_true_eq_false,
    List.cons_append, List.nil_append, second, selectServices_eq, Option.none_or, ite_not]
  by_cases discovered : third.1 = .ok
  · rw [if_pos discovered]
    refine (if_pos discovered).trans ?_
    cases peripheral.services.find? (Service.offers propertyWriteWithoutResponse) with
    | none => rfl
    | some senderService =>
        cases peripheral.services.find? (Service.offers propertyNotify) with
        | none => rfl
        | some receiverService => rfl
  · rw [if_neg discovered]
    exact if_neg discovered

/-- **A connection that finds the services goes on with them.** -/
theorem connect_found (connected : answers [.connectToPeripheral peripheral centralManager] = .ok)
    (found : ServicesFound answers centralManager peripheral) :
    ∃ senderService receiverService calls,
      peripheral.services.find? (Service.offers propertyWriteWithoutResponse) =
          some senderService ∧
        peripheral.services.find? (Service.offers propertyNotify) = some receiverService ∧
          connect answers false centralManager (some peripheral) notificationIDs object =
            configure answers centralManager peripheral senderService receiverService
              notificationIDs object.cleared (opening peripheral centralManager ++ calls) := by
  obtain ⟨senderService, sender⟩ := Option.isSome_iff_exists.mp
    (List.find?_isSome.mpr found.sender)
  obtain ⟨receiverService, receiver⟩ := Option.isSome_iff_exists.mp
    (List.find?_isSome.mpr found.receiver)
  obtain ⟨discovers, passed, -, made⟩ :=
    discoverCharacteristics_made answers peripheral.services (opening peripheral centralManager)
  refine ⟨senderService, receiverService, passed, sender, receiver, ?_⟩
  rw [connect_discovered notificationIDs object connected found.services,
    if_pos (discovers.mpr found.characteristics), sender, receiver, made]

/-- **A connection that does not find them ends with an error**, and has noted nothing. -/
theorem connect_not_found
    (connected : answers [.connectToPeripheral peripheral centralManager] = .ok)
    (missing : ¬ ServicesFound answers centralManager peripheral) :
    ∃ error calls, error ≠ .ok ∧
      connect answers false centralManager (some peripheral) notificationIDs object =
        ⟨some error, object.cleared, .connectToPeripheral peripheral centralManager :: calls⟩ ∧
      ∀ call ∈ calls, call = .discoverNetworkServices ∨
        ∃ service, call = .discoverNetworkCharacteristics service := by
  obtain ⟨discovers, passed, start, made⟩ :=
    discoverCharacteristics_made answers peripheral.services (opening peripheral centralManager)
  have discovering : ∀ call ∈ .discoverNetworkServices :: passed,
      call = .discoverNetworkServices ∨
        ∃ service, call = .discoverNetworkCharacteristics service := by
    intro call member
    rcases List.mem_cons.mp member with first | later
    · exact .inl first
    · obtain ⟨service, -, same⟩ := List.mem_map.mp (start.subset later)
      exact .inr ⟨service, same.symm⟩
  by_cases second : answers (opening peripheral centralManager) = .ok
  · have connecting := connect_discovered notificationIDs object connected second
    simp only [made] at connecting
    by_cases third : (discoverCharacteristics answers peripheral.services
        (opening peripheral centralManager)).1 = .ok
    · rw [if_pos third] at connecting
      refine ⟨.bleServicesDiscovering, .discoverNetworkServices :: passed, by decide, ?_,
        discovering⟩
      rw [connecting]
      split
      · rename_i sender receiver
        exact absurd ⟨second, discovers.mp third, List.find?_isSome.mp (by rw [sender]; rfl),
          List.find?_isSome.mp (by rw [receiver]; rfl)⟩ missing
      · rfl
    · rw [if_neg third] at connecting
      exact ⟨_, .discoverNetworkServices :: passed, third, connecting, discovering⟩
  · refine ⟨.bleDisconnection, [.discoverNetworkServices], by decide, ?_, by simp⟩
    rw [opening] at second
    simp only [connect, Bool.false_eq_true, if_false, connected, ne_eq, not_true_eq_false,
      List.cons_append, List.nil_append, second, not_false_eq_true, if_true]
    rfl

/-- The peripheral that is noted is disconnected. The bandwidth thread is not waited for:
connecting has posted its semaphore. -/
theorem disconnect_noted {object : BleObject} (noted : object.peripheral = some peripheral)
    (posted : object.bwThreadRunning ≠ 0) :
    ∃ after, disconnect false object =
      some (.ok, after,
        [.setDelegate false, .disconnectPeripheral peripheral object.centralManager]) := by
  simp only [disconnect, noted, Bool.false_eq_true, if_false, if_neg posted]
  exact ⟨_, rfl⟩

/-- Otherwise nothing is done. -/
theorem disconnect_unnoted {object : BleObject} (mainThread : Bool)
    (unnoted : object.peripheral = none) :
    disconnect mainThread object = some (.ok, object, []) := by
  simp only [disconnect, unnoted]

end

/-! ## Init -/

section

variable {answers : BleAnswers} {centralManager : Option ℕ} {peripheral : Peripheral}
  {notificationIDs : Option (List ℤ)}

/-- An `Init` that returns an error after the peripheral was connected has disconnected it and
leaves no object. -/
def Disconnects (answers : BleAnswers) (centralManager : Option ℕ) (peripheral : Peripheral)
    (outcome : InitOutcome) : Prop :=
  ∀ error, outcome.result = some error → error ≠ .ok →
    [.connectToPeripheral peripheral centralManager] <+: outcome.calls →
      answers [.connectToPeripheral peripheral centralManager] = .ok →
        .disconnectPeripheral peripheral centralManager ∈ outcome.calls ∧
          outcome.manager.senderObject = none ∧ outcome.manager.receiverObject = none

theorem bleNetworkDelete_withObjects (manager : Manager) (transport : Transport) :
    (manager.withObjects transport).bleNetworkDelete = manager.withoutObjects := rfl

/-- An error before the peripheral is noted. -/
theorem initBLENetwork_unnoted (mainThread : Bool) (device : Option Peripheral)
    (manager : Manager) {error : ErrorCode} {object : BleObject} {calls : List BleCall}
    (failed : error ≠ .ok) (unnoted : object.peripheral = none)
    (connecting : connect answers mainThread centralManager device notificationIDs .new =
      ⟨some error, object, calls⟩) :
    initBLENetwork answers mainThread centralManager true device notificationIDs manager =
      ⟨some error, manager.withoutObjects, calls ++ [.reset]⟩ := by
  simp only [initBLENetwork, Bool.true_eq_false, if_false, connecting, if_neg failed,
    disconnect_unnoted mainThread unnoted, bleNetworkDelete_withObjects, List.append_nil]

/-- With the services found `Delete` finds the peripheral. -/
theorem disconnects_found (manager : Manager)
    (found : ServicesFound answers centralManager peripheral) :
    Disconnects answers centralManager peripheral
      (initBLENetwork answers false centralManager true (some peripheral) notificationIDs
        manager) := by
  intro error failed notOk _ connected
  obtain ⟨senderService, receiverService, calls, -, -, connecting⟩ :=
    connect_found notificationIDs .new connected found
  obtain ⟨noted, central, posted⟩ :=
    configure_notes answers centralManager peripheral notificationIDs BleObject.new.cleared
      senderService receiverService (opening peripheral centralManager ++ calls)
  rw [← connecting] at noted central posted
  obtain ⟨after, disconnected⟩ := disconnect_noted noted (by rw [posted]; simp)
  rw [central] at disconnected
  simp only [initBLENetwork, Bool.true_eq_false, if_false] at failed ⊢
  split at failed
  · cases failed
  · split at failed
    · cases failed
      exact absurd rfl notOk
    · rename_i error' result ok
      simp only [disconnected] at failed
      cases failed
      simp only [if_neg ok, disconnected, bleNetworkDelete_withObjects]
      exact ⟨by simp, rfl, rfl⟩

/-- Without the services the peripheral stays connected. -/
theorem not_disconnects_not_found (manager : Manager)
    (connected : answers [.connectToPeripheral peripheral centralManager] = .ok)
    (missing : ¬ ServicesFound answers centralManager peripheral) :
    ¬ Disconnects answers centralManager peripheral
      (initBLENetwork answers false centralManager true (some peripheral) notificationIDs
        manager) := by
  intro disconnects
  obtain ⟨error, calls, failed, connecting, discovering⟩ :=
    connect_not_found notificationIDs .new connected missing
  rw [initBLENetwork_unnoted false (some peripheral) manager failed rfl connecting] at disconnects
  obtain ⟨disconnected, -, -⟩ := disconnects error rfl failed ⟨_, rfl⟩ connected
  simp only [List.cons_append, List.mem_cons, List.mem_append, reduceCtorEq, List.not_mem_nil,
    or_false, false_or] at disconnected
  rcases discovering _ disconnected with services | ⟨service, characteristics⟩
  · cases services
  · cases characteristics

/-- **A failed `Init` disconnects the peripheral that it has connected exactly if the services
were found** before the failure. -/
theorem disconnects_iff (answers : BleAnswers) (centralManager : Option ℕ) (allocated : Bool)
    (peripheral : Peripheral) (notificationIDs : Option (List ℤ)) (manager : Manager) :
    Disconnects answers centralManager peripheral
        (initBLENetwork answers false centralManager allocated (some peripheral) notificationIDs
          manager) ↔
      (allocated = true → answers [.connectToPeripheral peripheral centralManager] = .ok →
        ServicesFound answers centralManager peripheral) := by
  cases allocated with
  | false =>
      refine iff_of_true ?_ fun made => absurd made Bool.false_ne_true
      intro error _ _ begun
      exact absurd (List.prefix_nil.mp begun) (List.cons_ne_nil _ _)
  | true =>
      constructor
      · intro disconnects _ connected
        by_contra missing
        exact not_disconnects_not_found manager connected missing disconnects
      · intro needed error failed notOk begun connected
        exact disconnects_found manager (needed rfl connected) error failed notOk begun connected

/-- A peripheral with a battery service only. It stays connected, whatever succeeds. -/
theorem not_disconnects_battery :
    ¬ ∀ (answers : BleAnswers) (centralManager : Option ℕ) (peripheral : Peripheral)
      (manager : Manager), Disconnects answers centralManager peripheral
        (initBLENetwork answers false centralManager true (some peripheral) none manager) := by
  intro claimed
  let peripheral : Peripheral := ⟨1, [⟨"180f".toList, [⟨"2a19".toList, 0x12⟩]⟩]⟩
  have disconnected := (claimed (fun _ => .ok) none peripheral .new .bleServicesDiscovering rfl
    (by decide) (by decide) rfl).1
  exact absurd disconnected (by decide)

end

/-! ## When Init returns -/

/-- Every identifier is that of a characteristic of the service. -/
def InRange (receiverService : Service) (notificationIDs : Option (List ℤ)) : Prop :=
  ∀ ids, notificationIDs = some ids →
    ∀ id ∈ ids, 0 ≤ id ∧ id < receiverService.characteristics.length

theorem objectAtIndex_isSome_iff {α : Type} {objects : List α} {index : ℤ} :
    (objectAtIndex objects index).isSome ↔ 0 ≤ index ∧ index < objects.length := by
  rw [objectAtIndex]
  split
  · rename_i positive
    have within : objects[index.toNat]?.isSome ↔ index.toNat < objects.length := by simp
    rw [within]
    omega
  · rename_i negative
    exact iff_of_false Bool.false_ne_true fun range => negative range.1

theorem mapM_isSome_iff {α β : Type} {f : α → Option β} {list : List α} :
    (list.mapM f).isSome ↔ ∀ element ∈ list, (f element).isSome := by
  induction list with
  | nil => simp
  | cons first rest ih =>
      rw [List.forall_mem_cons, ← ih, List.mapM_cons]
      cases f first with
      | none => simp
      | some value => cases rest.mapM f <;> simp

theorem notificationCharacteristics_isSome_iff {receiverService : Service}
    {notificationIDs : Option (List ℤ)} :
    (notificationCharacteristics receiverService notificationIDs).isSome ↔
      InRange receiverService notificationIDs := by
  cases notificationIDs with
  | none => exact iff_of_true rfl fun ids given => absurd given.symm (Option.some_ne_none ids)
  | some ids =>
      simp only [notificationCharacteristics, mapM_isSome_iff, objectAtIndex_isSome_iff, InRange,
        Option.some.injEq, forall_eq']

/-- A connection gets to the notification identifiers: it is called off the main thread, of a
peripheral that is connected and shows the services. -/
structure GetsToIds (answers : BleAnswers) (mainThread : Bool) (centralManager : Option ℕ)
    (device : Option Peripheral) (peripheral : Peripheral) : Prop where
  offMainThread : mainThread = false
  device : device = some peripheral
  connected : answers [.connectToPeripheral peripheral centralManager] = .ok
  found : ServicesFound answers centralManager peripheral

/-- The identifiers are in range for the service that is chosen to receive from, if the
connection gets there. -/
def IdsInRange (answers : BleAnswers) (mainThread : Bool) (centralManager : Option ℕ)
    (device : Option Peripheral) (notificationIDs : Option (List ℤ)) : Prop :=
  ∀ peripheral, GetsToIds answers mainThread centralManager device peripheral →
    ∀ receiverService,
      peripheral.services.find? (Service.offers propertyNotify) = some receiverService →
        InRange receiverService notificationIDs

section

variable {answers : BleAnswers} {mainThread : Bool} {centralManager : Option ℕ}
  {device : Option Peripheral} {notificationIDs : Option (List ℤ)}

theorem configure_returns_iff (peripheral : Peripheral)
    (senderService receiverService : Service) (object : BleObject) (calls : List BleCall) :
    (configure answers centralManager peripheral senderService receiverService notificationIDs
      object calls).result.isSome ↔ InRange receiverService notificationIDs := by
  rw [← notificationCharacteristics_isSome_iff, configure]
  cases notificationCharacteristics receiverService notificationIDs with
  | none => exact Iff.rfl
  | some characteristics =>
      refine iff_of_true ?_ rfl
      simp only
      split
      · rfl
      · rfl

/-- The bandwidth thread is not waited for in vain. -/
def BleObject.Posted (object : BleObject) : Prop :=
  object.peripheral ≠ none → object.bwThreadRunning ≠ 0

/-- A connection that does not get there returns an error, and has noted nothing. -/
theorem connect_stopped (notificationIDs : Option (List ℤ)) (object : BleObject)
    (stops : ¬ ∃ peripheral, GetsToIds answers mainThread centralManager device peripheral) :
    ∃ error after calls, error ≠ .ok ∧ after.peripheral = object.peripheral ∧
      connect answers mainThread centralManager device notificationIDs object =
        ⟨some error, after, calls⟩ := by
  cases mainThread with
  | true => exact ⟨_, _, _, by decide, rfl, rfl⟩
  | false =>
      cases device with
      | none => exact ⟨_, _, _, by decide, rfl, rfl⟩
      | some peripheral =>
          by_cases connected : answers [.connectToPeripheral peripheral centralManager] = .ok
          · have missing : ¬ ServicesFound answers centralManager peripheral :=
              fun found => stops ⟨peripheral, rfl, rfl, connected, found⟩
            obtain ⟨error, calls, failed, connecting, -⟩ :=
              connect_not_found notificationIDs object connected missing
            exact ⟨error, object.cleared, _, failed, rfl, connecting⟩
          · refine ⟨.bleConnection, object.cleared,
              [.connectToPeripheral peripheral centralManager], by decide, rfl, ?_⟩
            simp only [connect, Bool.false_eq_true, if_false, ne_eq, connected,
              not_false_eq_true, if_true]
            rfl

/-- **`connect` returns exactly if no identifier is out of range**, and leaves an object that
can be disconnected. -/
theorem connect_returns_iff :
    ((connect answers mainThread centralManager device notificationIDs .new).result.isSome ↔
      IdsInRange answers mainThread centralManager device notificationIDs) ∧
      (connect answers mainThread centralManager device notificationIDs .new).object.Posted := by
  by_cases reached : ∃ peripheral, GetsToIds answers mainThread centralManager device peripheral
  · obtain ⟨peripheral, rfl, rfl, connected, found⟩ := reached
    obtain ⟨senderService, receiverService, calls, -, receiver, connecting⟩ :=
      connect_found notificationIDs .new connected found
    obtain ⟨-, -, posted⟩ :=
      configure_notes answers centralManager peripheral notificationIDs BleObject.new.cleared
        senderService receiverService (opening peripheral centralManager ++ calls)
    rw [connecting, configure_returns_iff]
    refine ⟨⟨?_, ?_⟩, fun _ => by rw [posted]; exact Nat.succ_ne_zero _⟩
    · intro range other gets chosen receives
      cases gets.device
      cases receiver.symm.trans receives
      exact range
    · intro range
      exact range peripheral ⟨rfl, rfl, connected, found⟩ receiverService receiver
  · obtain ⟨error, after, calls, -, unnoted, connecting⟩ :=
      connect_stopped notificationIDs .new reached
    rw [connecting]
    refine ⟨iff_of_true rfl ?_, fun noted => absurd unnoted noted⟩
    intro peripheral gets
    exact absurd ⟨peripheral, gets⟩ reached

theorem disconnect_returns {object : BleObject} (mainThread : Bool) (posted : object.Posted) :
    ∃ error after calls, disconnect mainThread object = some (error, after, calls) := by
  rw [disconnect]
  cases noted : object.peripheral with
  | none => exact ⟨_, _, _, rfl⟩
  | some peripheral =>
      have free : object.bwThreadRunning ≠ 0 := posted (by rw [noted]; simp)
      cases mainThread with
      | true => exact ⟨_, _, _, rfl⟩
      | false =>
          simp only [Bool.false_eq_true, if_false, if_neg free]
          exact ⟨_, _, _, rfl⟩

/-- **`Init` returns exactly if no identifier is out of range**, and then does with the manager
what `Manager.initBLENetwork` does. -/
theorem initBLENetwork_returns_iff (allocated : Bool) (manager : Manager) :
    ((initBLENetwork answers mainThread centralManager allocated device notificationIDs
      manager).result.isSome ↔
      (allocated = true →
        IdsInRange answers mainThread centralManager device notificationIDs)) ∧
      ∀ error, (initBLENetwork answers mainThread centralManager allocated device
        notificationIDs manager).result = some error →
        (error, (initBLENetwork answers mainThread centralManager allocated device
          notificationIDs manager).manager) = manager.initBLENetwork true allocated error := by
  cases allocated with
  | false =>
      refine ⟨iff_of_true rfl fun made => absurd made Bool.false_ne_true, ?_⟩
      intro error failed
      cases failed
      rfl
  | true =>
      obtain ⟨returns, posted⟩ :=
        @connect_returns_iff answers mainThread centralManager device notificationIDs
      rw [forall_prop_of_true rfl, ← returns]
      simp only [initBLENetwork, Bool.true_eq_false, if_false]
      cases result : (connect answers mainThread centralManager device notificationIDs .new).result
        with
      | none => exact ⟨Iff.rfl, fun error failed => (Option.some_ne_none _ failed.symm).elim⟩
      | some error =>
          simp only
          split
          · rename_i ok
            subst ok
            refine ⟨Iff.rfl, ?_⟩
            intro returned same
            cases same
            rfl
          · rename_i failed
            obtain ⟨_, _, _, disconnected⟩ := disconnect_returns mainThread posted
            rw [disconnected]
            refine ⟨Iff.rfl, ?_⟩
            intro returned same
            cases same
            simp only [Manager.initBLENetwork, Bool.true_eq_false, if_false, if_neg failed]

end

end Ios

end BleNetwork

end ARNetworkAL
