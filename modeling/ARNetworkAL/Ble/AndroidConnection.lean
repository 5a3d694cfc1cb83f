import ARNetworkAL.Ble.Android
import ARNetworkAL.Ble.Connection

/-!
# Connecting to a device on Android

The Java method `connect` goes through the stages that iOS goes through: it connects, discovers
the services, chooses one to send to and one to receive from, and turns notifications on. It is
more lenient in each of them. An identifier past the last characteristic is skipped, one that
the stack refuses to notify is registered all the same, and the last loop, which turns on the
FTP and RFCOMM notifications, cannot fail the call.

So it succeeds exactly if the services are found and no notification finds the device
disconnected (`connect_ok_iff`), and wherever iOS succeeds against the same stack it succeeds
too (`connect_ok_of_ios`).

What `ARSALBLEManager` answers to a call may depend on all the calls before it.
-/

set_option autoImplicit false

namespace ARNetworkAL

open Library

namespace BleNetwork

namespace Java

open Ios (Characteristic Service propertyNotify propertyWriteWithoutResponse)

/-! ## ARSALBLEManager -/

/-- The values of `ARSAL_ERROR_ENUM` that are told apart. -/
inductive SalError where
  | ok
  | bleStack
  | bleCharacteristicConfiguring
  | bleNotConnected
  | other (code : ℤ)
  deriving DecidableEq, Repr

/-- A call on `ARSALBLEManager`. A device is what tells it from others; the listener is the
object or null. -/
inductive BleCall where
  | connect (device : ℕ)
  | discoverBLENetworkServices
  | getGatt
  | getServices
  | setListener (object : Bool)
  | setCharacteristicNotification (service : Service) (characteristic : Characteristic)
  | registerNotificationCharacteristics (characteristics : List Characteristic)
  | disconnect
  | reset
  deriving DecidableEq, Repr

/-- What it answers to the last of the calls so far: an error, whether there is a
`BluetoothGatt`, and the services, which may be null. -/
structure BleStack where
  answer : List BleCall → SalError
  gatt : List BleCall → Bool
  services : List BleCall → Option (List Service)

/-- `ARNetworkALBLENetwork`, with the fields of a connection. -/
structure BleObject extends Network Characteristic where
  deviceBLEService : Option ℕ
  recvService : Option Service

/-- The constructor. -/
def BleObject.new : BleObject where
  sendService := none
  recvArray := []
  bwCurrentUp := 0
  bwCurrentDown := 0
  deviceBLEService := none
  recvService := none

/-! ## The loops of connect -/

/-- The short UUID starts with one of the two prefixes of FTP or with that of RFCOMM that is
read. -/
def isFtpOrRfcomm (characteristic : Characteristic) : Bool :=
  characteristic.isFtp || "fe02".toList.isPrefixOf characteristic.shortUuid

/-- The characteristics of the identifiers. One past the last is skipped, and a negative one
throws. -/
def characteristicsOf (characteristics : List Characteristic) :
    List ℤ → Option (List Characteristic)
  | [] => some []
  | id :: ids =>
      if id < characteristics.length then
        (Ios.objectAtIndex characteristics id).bind fun characteristic =>
          (characteristicsOf characteristics ids).map (characteristic :: ·)
      else characteristicsOf characteristics ids

/-- The characteristics to notify: those of the identifiers, or all of the service. -/
def notificationCharacteristics (receiverService : Service) (notificationIDs : Option (List ℤ)) :
    Option (List Characteristic) :=
  match notificationIDs with
  | none => some receiverService.characteristics
  | some ids => characteristicsOf receiverService.characteristics ids

section

variable (stack : BleStack)

/-- Notifications are turned on for the characteristics that have them. The last answer is
looked at again for one that has none. -/
def setNotifications (receiverService : Service) : List Characteristic → SalError → ErrorCode →
    List BleCall → ErrorCode × List BleCall
  | [], _, result, calls => (result, calls)
  | characteristic :: characteristics, last, result, calls =>
      let (setNotifCharacteristicResult, calls) :=
        if characteristic.has propertyNotify then
          let calls := calls ++ [.setCharacteristicNotification receiverService characteristic]
          (stack.answer calls, calls)
        else (last, calls)
      let result :=
        match setNotifCharacteristicResult with
        | .ok => result
        | .bleCharacteristicConfiguring => result
        | .bleNotConnected => .bleConnection
        | .bleStack => result
        | .other _ => result
      setNotifications receiverService characteristics setNotifCharacteristicResult result calls

/-- Notifications are turned on for the FTP and RFCOMM characteristics of a service, until one
fails. -/
def setFtpCharacteristics (service : Service) : List Characteristic → SalError → List BleCall →
    SalError × List BleCall
  | [], resultSal, calls => (resultSal, calls)
  | characteristic :: characteristics, resultSal, calls =>
      if resultSal = .ok then
        if isFtpOrRfcomm characteristic then
          let calls := calls ++ [.setCharacteristicNotification service characteristic]
          setFtpCharacteristics service characteristics (stack.answer calls) calls
        else setFtpCharacteristics service characteristics resultSal calls
      else (resultSal, calls)

/-- The same for every service. -/
def setFtpNotifications : List Service → SalError → List BleCall → List BleCall
  | [], _, calls => calls
  | service :: services, resultSal, calls =>
      if resultSal = .ok then
        let (resultSal, calls) :=
          setFtpCharacteristics stack service service.characteristics resultSal calls
        setFtpNotifications services resultSal calls
      else calls

end

/-! ## Connect and disconnect -/

/-- What `connect` returns and does: the error, unless the call ends by an exception, the object
afterwards, and the calls on `ARSALBLEManager`. -/
structure ConnectOutcome where
  result : Option ErrorCode
  object : BleObject
  calls : List BleCall

section

variable (stack : BleStack)

/-- The part of `connect` with the services found. -/
def configure (device : ℕ) (senderService receiverService : Service)
    (notificationIDs : Option (List ℤ)) (object : BleObject) (calls : List BleCall) :
    ConnectOutcome :=
  let object :=
    { object with
      deviceBLEService := some device
      recvService := some receiverService
      sendService := some senderService.characteristics }
  let calls := calls ++ [.setListener true]
  match notificationCharacteristics receiverService notificationIDs with
  | none => ⟨none, object, calls⟩
  | some characteristics =>
      let (result, calls) := setNotifications stack receiverService characteristics .ok .ok calls
      let calls := calls ++ [.registerNotificationCharacteristics characteristics]
      if result = .ok then
        let calls := calls ++ [.getServices]
        match stack.services calls with
        -- `size` is called on null
        | none => ⟨none, object, calls⟩
        | some services => ⟨some result, object, setFtpNotifications stack services .ok calls⟩
      else ⟨some result, object, calls⟩

/-- `ARNetworkALBLENetwork.connect`. The device may be null. The services are chosen by the
loop of iOS. -/
def connect (deviceBLEService : Option ℕ) (notificationIDs : Option (List ℤ))
    (object : BleObject) : ConnectOutcome :=
  match deviceBLEService with
  | none => ⟨some .badParameter, object, []⟩
  | some device =>
      let calls : List BleCall := [.connect device]
      match stack.answer calls with
      | .ok =>
          let calls := calls ++ [.discoverBLENetworkServices]
          if stack.answer calls ≠ .ok then ⟨some .bleServicesDiscovering, object, calls⟩
          else
            let calls := calls ++ [.getGatt]
            if stack.gatt calls = false then ⟨some .bleNotConnected, object, calls⟩
            else
              let calls := calls ++ [.getServices]
              match Ios.selectServices ((stack.services calls).getD []) none none with
              | (some senderService, some receiverService) =>
                  configure stack device senderService receiverService notificationIDs object calls
              | _ => ⟨some .bleServicesDiscovering, object, calls⟩
      | .bleStack => ⟨some .bleStack, object, calls⟩
      | .bleCharacteristicConfiguring => ⟨some .bleConnection, object, calls⟩
      | .bleNotConnected => ⟨some .bleConnection, object, calls⟩
      | .other _ => ⟨some .bleConnection, object, calls⟩

end

/-! ## What the loops do -/

/-- The characteristics that have notifications. -/
def notifiable (characteristics : List Characteristic) : List Characteristic :=
  characteristics.filter fun characteristic => characteristic.has propertyNotify

theorem notifiable_cons (characteristic : Characteristic)
    (characteristics : List Characteristic) :
    notifiable (characteristic :: characteristics) =
      if characteristic.has propertyNotify then characteristic :: notifiable characteristics
      else notifiable characteristics :=
  List.filter_cons

/-- The calls that turn notifications on. -/
def notifications (receiverService : Service) (characteristics : List Characteristic) :
    List BleCall :=
  (notifiable characteristics).map (.setCharacteristicNotification receiverService)

/-- The characteristics of the identifiers that are not past the last one. -/
def listed (receiverService : Service) : Option (List ℤ) → List Characteristic
  | none => receiverService.characteristics
  | some ids => ids.filterMap fun id => receiverService.characteristics[id.toNat]?

/-- No identifier is negative. -/
def NoneNegative (notificationIDs : Option (List ℤ)) : Prop :=
  ∀ ids, notificationIDs = some ids → ∀ id ∈ ids, 0 ≤ id

theorem characteristicsOf_eq (characteristics : List Characteristic) (ids : List ℤ) :
    characteristicsOf characteristics ids =
      if ∀ id ∈ ids, 0 ≤ id then
        some (ids.filterMap fun id => characteristics[id.toNat]?)
      else none := by
  induction ids with
  | nil => simp [characteristicsOf]
  | cons id ids ih =>
      simp only [characteristicsOf, ih, List.forall_mem_cons, Ios.objectAtIndex]
      by_cases positive : 0 ≤ id
      · by_cases within : id < characteristics.length
        · by_cases others : ∀ id ∈ ids, 0 ≤ id
          · simp [within, positive]
          · simp [within, positive, others]
        · have past : characteristics[id.toNat]? = none := List.getElem?_eq_none (by omega)
          simp [within, positive, past]
      · have within : id < characteristics.length := by omega
        simp [within, positive]

theorem notificationCharacteristics_eq_some_iff {receiverService : Service}
    {notificationIDs : Option (List ℤ)} {characteristics : List Characteristic} :
    notificationCharacteristics receiverService notificationIDs = some characteristics ↔
      NoneNegative notificationIDs ∧ listed receiverService notificationIDs = characteristics := by
  cases notificationIDs with
  | none =>
      simp [notificationCharacteristics, NoneNegative, listed]
  | some ids =>
      simp only [notificationCharacteristics, characteristicsOf_eq, NoneNegative, listed,
        Option.some.injEq, forall_eq']
      split
      · rename_i positive
        rw [Option.some.injEq]
        exact (and_iff_right positive).symm
      · rename_i negative
        simp [negative]

/-- **All the calls are made, and the error is there in the end exactly if one of them found the
device disconnected.** The answer that is looked at again has been acted on. -/
theorem setNotifications_spec (stack : BleStack) (receiverService : Service)
    (characteristics : List Characteristic) {last : SalError} {result : ErrorCode}
    (acted : last = .bleNotConnected → result = .bleConnection) (calls : List BleCall) :
    (setNotifications stack receiverService characteristics last result calls).2 =
        calls ++ notifications receiverService characteristics ∧
      ((setNotifications stack receiverService characteristics last result calls).1 = .ok ↔
        result = .ok ∧
          Throughout (fun made => stack.answer made ≠ .bleNotConnected) calls
            (notifications receiverService characteristics)) := by
  induction characteristics generalizing last result calls with
  | nil =>
      refine ⟨(List.append_nil calls).symm, ?_⟩
      exact ⟨fun ok => ⟨ok, .nil⟩, fun ok => ok.1⟩
  | cons characteristic characteristics ih =>
      by_cases notifies : characteristic.has propertyNotify = true
      · have first : notifications receiverService (characteristic :: characteristics) =
            .setCharacteristicNotification receiverService characteristic ::
              notifications receiverService characteristics := by
          rw [notifications, notifiable_cons, if_pos notifies, List.map_cons, notifications]
        have grown (others : List BleCall) :
            calls ++ .setCharacteristicNotification receiverService characteristic :: others =
              (calls ++ [.setCharacteristicNotification receiverService characteristic]) ++
                others := by simp
        rw [first, Throughout.cons_iff, grown]
        simp only [setNotifications, if_pos notifies]
        generalize calls ++ [.setCharacteristicNotification receiverService characteristic] = made
        by_cases gone : stack.answer made = .bleNotConnected
        · rw [gone]
          obtain ⟨all, ok⟩ := ih (fun _ => rfl) made
          refine ⟨all, ok.trans ?_⟩
          simp
        · have kept : (match stack.answer made with
              | .ok => result
              | .bleCharacteristicConfiguring => result
              | .bleNotConnected => .bleConnection
              | .bleStack => result
              | .other _ => result) = result := by
            split <;> first | rfl | contradiction
          rw [kept]
          obtain ⟨all, ok⟩ := ih (fun other => absurd other gone) made
          exact ⟨all, ok.trans (by simp [gone])⟩
      · have skipped : notifications receiverService (characteristic :: characteristics) =
            notifications receiverService characteristics := by
          rw [notifications, notifiable_cons, if_neg notifies, notifications]
        rw [skipped]
        simp only [setNotifications, if_neg notifies]
        cases last with
        | bleNotConnected =>
            rw [acted rfl]
            exact ih (fun _ => rfl) calls
        | ok => exact ih acted calls
        | bleStack => exact ih acted calls
        | bleCharacteristicConfiguring => exact ih acted calls
        | other code => exact ih acted calls

/-! ## When a connection succeeds -/

/-- The calls of a connection before the services are chosen. -/
def opening (device : ℕ) : List BleCall :=
  [.connect device, .discoverBLENetworkServices, .getGatt, .getServices]

/-- The stages before succeed, and these services are the first to offer what is looked for. -/
structure Found (stack : BleStack) (device : ℕ) (senderService receiverService : Service) :
    Prop where
  connected : stack.answer [.connect device] = .ok
  discovered : stack.answer [.connect device, .discoverBLENetworkServices] = .ok
  gatt : stack.gatt [.connect device, .discoverBLENetworkServices, .getGatt] = true
  sender : ((stack.services (opening device)).getD []).find?
    (Service.offers propertyWriteWithoutResponse) = some senderService
  receiver : ((stack.services (opening device)).getD []).find?
    (Service.offers propertyNotify) = some receiverService

/-- No notification finds the device disconnected, and the services are still there after the
last. -/
structure Notifies (stack : BleStack) (receiverService : Service)
    (characteristics : List Characteristic) (calls : List BleCall) : Prop where
  connected : Throughout (fun made => stack.answer made ≠ .bleNotConnected) calls
    (notifications receiverService characteristics)
  services : stack.services (calls ++ notifications receiverService characteristics ++
    [.registerNotificationCharacteristics characteristics, .getServices]) ≠ none

section

variable {stack : BleStack} {device : ℕ} {senderService receiverService : Service}
  {notificationIDs : Option (List ℤ)}

theorem configure_ok_iff (object : BleObject) (calls : List BleCall) :
    (configure stack device senderService receiverService notificationIDs object calls).result =
        some .ok ↔
      NoneNegative notificationIDs ∧
        Notifies stack receiverService (listed receiverService notificationIDs)
          (calls ++ [.setListener true]) := by
  rw [configure]
  cases characteristics : notificationCharacteristics receiverService notificationIDs with
  | none =>
      refine iff_of_false (by simp) ?_
      rintro ⟨positive, -⟩
      have given := notificationCharacteristics_eq_some_iff.mpr
        ⟨positive, (rfl : listed receiverService notificationIDs = _)⟩
      rw [given] at characteristics
      cases characteristics
  | some characteristics =>
      obtain ⟨positive, rfl⟩ := notificationCharacteristics_eq_some_iff.mp characteristics
      have acted : SalError.ok = .bleNotConnected → ErrorCode.ok = .bleConnection :=
        fun other => by cases other
      obtain ⟨made, ok⟩ := setNotifications_spec stack receiverService
        (listed receiverService notificationIDs) acted (calls ++ [.setListener true])
      simp only [made]
      split
      · rename_i notified
        rw [List.append_assoc _ [_] [_], List.singleton_append]
        split
        · rename_i gone
          refine iff_of_false (by simp) ?_
          intro needed
          exact needed.2.services gone
        · rename_i services there
          refine iff_of_true ?_ ⟨positive, (ok.mp notified).2, ?_⟩
          · exact congrArg some notified
          · rw [there]
            exact Option.some_ne_none services
      · rename_i refused
        refine iff_of_false ?_ ?_
        · simpa using refused
        · intro needed
          exact refused (ok.mpr ⟨rfl, needed.2.connected⟩)

/-- A call that finds the services goes on with them. -/
theorem connect_of_found (found : Found stack device senderService receiverService)
    (object : BleObject) :
    connect stack (some device) notificationIDs object =
      configure stack device senderService receiverService notificationIDs object
        (opening device) := by
  have sender := found.sender
  have receiver := found.receiver
  rw [opening] at sender receiver
  simp [connect, opening, found.connected, found.discovered, found.gatt, Ios.selectServices_eq,
    sender, receiver]

/-- No other call succeeds. -/
theorem found_of_connect_ok {deviceBLEService : Option ℕ} {object : BleObject}
    (succeeds : (connect stack deviceBLEService notificationIDs object).result = some .ok) :
    ∃ device senderService receiverService, deviceBLEService = some device ∧
      Found stack device senderService receiverService := by
  cases deviceBLEService with
  | none => cases succeeds
  | some device =>
      simp only [connect] at succeeds
      split at succeeds
      · rename_i connected
        split at succeeds
        · cases succeeds
        · rename_i discovered
          split at succeeds
          · cases succeeds
          · rename_i gatt
            split at succeeds
            · rename_i senderService receiverService chosen
              rw [Ios.selectServices_eq, Option.none_or, Option.none_or, Prod.mk.injEq] at chosen
              exact ⟨device, senderService, receiverService, rfl, connected,
                not_not.mp discovered, Bool.eq_true_of_not_eq_false gatt, chosen.1, chosen.2⟩
            · cases succeeds
      · cases succeeds
      · cases succeeds
      · cases succeeds
      · cases succeeds

end

/-- **`connect` succeeds exactly if the services are found, no identifier is negative, no
notification finds the device disconnected, and the services are still there in the end.** What
else the stack answers to the notifications, and what it answers to the last loop, is ignored. -/
theorem connect_ok_iff (stack : BleStack) (deviceBLEService : Option ℕ)
    (notificationIDs : Option (List ℤ)) (object : BleObject) :
    (connect stack deviceBLEService notificationIDs object).result = some .ok ↔
      NoneNegative notificationIDs ∧
        ∃ device senderService receiverService, deviceBLEService = some device ∧
          Found stack device senderService receiverService ∧
          Notifies stack receiverService (listed receiverService notificationIDs)
            (opening device ++ [.setListener true]) := by
  constructor
  · intro succeeds
    obtain ⟨device, senderService, receiverService, rfl, found⟩ := found_of_connect_ok succeeds
    rw [connect_of_found found, configure_ok_iff] at succeeds
    exact ⟨succeeds.1, device, senderService, receiverService, rfl, found, succeeds.2⟩
  · rintro ⟨positive, device, senderService, receiverService, rfl, found, notifies⟩
    rw [connect_of_found found, configure_ok_iff]
    exact ⟨positive, notifies⟩

/-! ## Against iOS -/

section

variable {answers : Ios.BleAnswers}

/-- On iOS all the notifications are accepted, if no error is there in the end, and the
characteristics that have them are registered. -/
theorem setNotifications_ios_ok (characteristics : List Characteristic) {result : ErrorCode}
    {registered : List Characteristic} {calls : List Ios.BleCall}
    (succeeds :
      (Ios.setNotifications answers characteristics result registered calls).1 = .ok) :
    result = .ok ∧
      Throughout answers.Accept calls
        ((notifiable characteristics).map .setNotificationCharacteristic) ∧
      (Ios.setNotifications answers characteristics result registered calls).2.1 =
        registered ++ notifiable characteristics := by
  induction characteristics generalizing result registered calls with
  | nil => exact ⟨succeeds, .nil, (List.append_nil registered).symm⟩
  | cons characteristic characteristics ih =>
      simp only [Ios.setNotifications] at succeeds ⊢
      by_cases notifies : characteristic.has propertyNotify = true
      · rw [if_pos notifies] at succeeds ⊢
        rw [notifiable_cons, if_pos notifies, List.map_cons, Throughout.cons_iff]
        split at succeeds
        · rename_i accepted
          obtain ⟨same, rest, all⟩ := ih succeeds
          refine ⟨same, ⟨accepted, rest⟩, ?_⟩
          simpa using all
        · exact absurd (ih succeeds).1 (by decide)
        · exact absurd (ih succeeds).1 (by decide)
        · exact absurd (ih succeeds).1 (by decide)
      · rw [if_neg notifies] at succeeds ⊢
        rw [notifiable_cons, if_neg notifies]
        exact ih succeeds

/-- The identifiers that iOS takes are those that Android takes. -/
theorem listed_of_ios {receiverService : Service} {notificationIDs : Option (List ℤ)}
    {characteristics : List Characteristic}
    (taken : Ios.notificationCharacteristics receiverService notificationIDs =
      some characteristics) :
    NoneNegative notificationIDs ∧ listed receiverService notificationIDs = characteristics := by
  have range := Ios.notificationCharacteristics_isSome_iff.mp (Option.isSome_iff_exists.mpr
    ⟨characteristics, taken⟩)
  refine ⟨fun ids given id member => (range ids given id member).1, ?_⟩
  cases notificationIDs with
  | none => exact Option.some.inj taken
  | some ids =>
      have within := range ids rfl
      rw [Ios.notificationCharacteristics] at taken
      rw [listed]
      clear range
      induction ids generalizing characteristics with
      | nil => exact Option.some.inj taken
      | cons id ids ih =>
          obtain ⟨⟨positive, _⟩, others⟩ := List.forall_mem_cons.mp within
          rw [List.mapM_cons] at taken
          obtain ⟨first, here, rest⟩ := Option.bind_eq_some_iff.mp taken
          obtain ⟨more, further, same⟩ := Option.bind_eq_some_iff.mp rest
          rw [Ios.objectAtIndex, if_pos positive] at here
          rw [List.filterMap_cons, here, ih further others]
          exact Option.some.inj same

/-- The calls on iOS that a call on Android stands for. The characteristics come with the
services. -/
def iosCalls (peripheral : Ios.Peripheral) (centralManager : Option ℕ) :
    BleCall → List Ios.BleCall
  | .connect _ => [.connectToPeripheral peripheral centralManager]
  | .discoverBLENetworkServices =>
      .discoverNetworkServices :: Ios.discoveries peripheral.services
  | .getGatt => []
  | .getServices => []
  | .setListener object => [.setDelegate object]
  | .setCharacteristicNotification _ characteristic =>
      [.setNotificationCharacteristic characteristic]
  | .registerNotificationCharacteristics characteristics =>
      [.registerNotificationCharacteristics (notifiable characteristics)]
  | .disconnect => [.disconnectPeripheral peripheral centralManager]
  | .reset => [.reset]

/-- The stack of Android accepts what that of iOS accepts, and shows the services of the
peripheral. -/
structure AsGoodAs (stack : BleStack) (answers : Ios.BleAnswers) (peripheral : Ios.Peripheral)
    (centralManager : Option ℕ) : Prop where
  answer : ∀ calls, answers (calls.flatMap (iosCalls peripheral centralManager)) = .ok →
    stack.answer calls = .ok
  gatt : ∀ calls, stack.gatt calls = true
  services : ∀ calls, stack.services calls = some peripheral.services

/-- What the calls of a connection on Android stand for, up to the notifications. -/
theorem flatMap_iosCalls (peripheral : Ios.Peripheral) (centralManager : Option ℕ) (device : ℕ)
    (receiverService : Service) (characteristics : List Characteristic) :
    ((opening device ++ [BleCall.setListener true]) ++
        characteristics.map (BleCall.setCharacteristicNotification receiverService)).flatMap
          (iosCalls peripheral centralManager) =
      (Ios.opening peripheral centralManager ++ Ios.discoveries peripheral.services ++
        [.setDelegate true]) ++ characteristics.map .setNotificationCharacteristic := by
  rw [List.flatMap_append, List.flatMap_map, List.map_eq_flatMap]
  simp [opening, Ios.opening, iosCalls]

/-- What a connection on iOS has gone through that succeeds, and what it leaves. -/
structure ConnectedIos (answers : Ios.BleAnswers) (peripheral : Ios.Peripheral)
    (centralManager : Option ℕ) (notificationIDs : Option (List ℤ)) (object : Ios.BleObject)
    (senderService receiverService : Service) (characteristics : List Characteristic) : Prop where
  connected : answers [.connectToPeripheral peripheral centralManager] = .ok
  discovered : answers (Ios.opening peripheral centralManager ++
    Ios.discoveries peripheral.services) = .ok
  sender : peripheral.services.find? (Service.offers propertyWriteWithoutResponse) =
    some senderService
  receiver : peripheral.services.find? (Service.offers propertyNotify) = some receiverService
  taken : Ios.notificationCharacteristics receiverService notificationIDs = some characteristics
  notified : Throughout answers.Accept (Ios.opening peripheral centralManager ++
      Ios.discoveries peripheral.services ++ [.setDelegate true])
    ((notifiable characteristics).map .setNotificationCharacteristic)
  sendService : object.sendService = some senderService.characteristics
  recvService : object.recvService = some receiverService
  registered : object.recvNotificationCharacteristicArray = notifiable characteristics

theorem ios_connect_ok {mainThread : Bool} {centralManager : Option ℕ}
    {peripheral : Ios.Peripheral} {notificationIDs : Option (List ℤ)} {object : Ios.BleObject}
    (succeeds : (Ios.connect answers mainThread centralManager (some peripheral) notificationIDs
      object).result = some .ok) :
    ∃ senderService receiverService characteristics,
      ConnectedIos answers peripheral centralManager notificationIDs
        (Ios.connect answers mainThread centralManager (some peripheral) notificationIDs
          object).object senderService receiverService characteristics := by
  obtain ⟨reached, rfl, same, connected, found⟩ : ∃ reached,
      Ios.GetsToIds answers mainThread centralManager (some peripheral) reached := by
    by_contra stops
    obtain ⟨error, after, calls, failed, _, outcome⟩ :=
      Ios.connect_stopped notificationIDs object stops
    rw [outcome] at succeeds
    exact failed (Option.some.inj succeeds)
  cases same
  obtain ⟨senderService, sender⟩ := Option.isSome_iff_exists.mp
    (List.find?_isSome.mpr found.sender)
  obtain ⟨receiverService, receiver⟩ := Option.isSome_iff_exists.mp
    (List.find?_isSome.mpr found.receiver)
  have third := (Ios.discoverCharacteristics_made answers peripheral.services
    (Ios.opening peripheral centralManager)).1.mpr found.characteristics
  have made : (Ios.discoverCharacteristics answers peripheral.services
      (Ios.opening peripheral centralManager)).2 =
        Ios.opening peripheral centralManager ++ Ios.discoveries peripheral.services := by
    rw [Ios.discoverCharacteristics_eq] at third ⊢
    apply requestAll_snd_of_fst
    by_contra refused
    rw [if_neg refused] at third
    cases third
  have discovered : answers (Ios.opening peripheral centralManager ++
      Ios.discoveries peripheral.services) = .ok := by
    by_cases none : Ios.discoveries peripheral.services = []
    · rw [none, List.append_nil]
      exact found.services
    · exact found.characteristics _ (List.prefix_refl _) none
  rw [Ios.connect_discovered notificationIDs object connected found.services, if_pos third,
    sender, receiver, made] at succeeds ⊢
  simp only [Ios.configure] at succeeds ⊢
  cases taken : Ios.notificationCharacteristics receiverService notificationIDs with
  | none =>
      rw [taken] at succeeds
      cases succeeds
  | some characteristics =>
      rw [taken] at succeeds
      refine ⟨senderService, receiverService, characteristics, ?_⟩
      simp only at succeeds ⊢
      split at succeeds
      · rename_i accepted
        obtain ⟨_, notified, registered⟩ := setNotifications_ios_ok characteristics accepted
        rw [if_pos accepted]
        exact ⟨connected, discovered, sender, receiver, taken, notified, rfl, rfl, registered⟩
      · rename_i refused
        exact absurd (Option.some.inj succeeds) refused

/-- With the services found the object notes them, however the call ends. -/
theorem configure_notes (stack : BleStack) (device : ℕ) (senderService receiverService : Service)
    (notificationIDs : Option (List ℤ)) (object : BleObject) (calls : List BleCall) :
    let outcome := configure stack device senderService receiverService notificationIDs object
      calls
    outcome.object.deviceBLEService = some device ∧
      outcome.object.sendService = some senderService.characteristics ∧
        outcome.object.recvService = some receiverService := by
  intro outcome
  simp only [outcome, configure]
  split
  · exact ⟨rfl, rfl, rfl⟩
  · split
    · split
      · exact ⟨rfl, rfl, rfl⟩
      · exact ⟨rfl, rfl, rfl⟩
    · exact ⟨rfl, rfl, rfl⟩

/-- **Where a connection on iOS succeeds, it succeeds on Android**, against a stack that accepts
what the one on iOS does, with the same services, and the notifications that iOS registers are
those that Android turns on. -/
theorem connect_ok_of_ios {stack : BleStack} {mainThread : Bool} {centralManager : Option ℕ}
    {peripheral : Ios.Peripheral} (asGood : AsGoodAs stack answers peripheral centralManager)
    (device : ℕ) (notificationIDs : Option (List ℤ)) (object : BleObject)
    {iosObject : Ios.BleObject}
    (succeeds : (Ios.connect answers mainThread centralManager (some peripheral) notificationIDs
      iosObject).result = some .ok) :
    let outcome := connect stack (some device) notificationIDs object
    let ios := Ios.connect answers mainThread centralManager (some peripheral) notificationIDs
      iosObject
    outcome.result = some .ok ∧ outcome.object.sendService = ios.object.sendService ∧
      outcome.object.recvService = ios.object.recvService ∧
      ∃ receiverService characteristics, ios.object.recvService = some receiverService ∧
        notificationCharacteristics receiverService notificationIDs = some characteristics ∧
        ios.object.recvNotificationCharacteristicArray = notifiable characteristics := by
  intro outcome ios
  obtain ⟨senderService, receiverService, characteristics, connected⟩ := ios_connect_ok succeeds
  obtain ⟨positive, taken⟩ := listed_of_ios connected.taken
  have found : Found stack device senderService receiverService := by
    refine ⟨asGood.answer _ connected.connected, asGood.answer _ ?_, asGood.gatt _, ?_, ?_⟩
    · simpa [iosCalls, Ios.opening] using connected.discovered
    · rw [asGood.services]
      exact connected.sender
    · rw [asGood.services]
      exact connected.receiver
  have notifies : Notifies stack receiverService (listed receiverService notificationIDs)
      (opening device ++ [.setListener true]) := by
    rw [taken]
    refine ⟨?_, ?_⟩
    · rw [notifications]
      refine connected.notified.of_map ?_
      intro passed _ accepted refused
      have answered : stack.answer (opening device ++ [.setListener true] ++
          passed.map (.setCharacteristicNotification receiverService)) = .ok := by
        apply asGood.answer
        rw [flatMap_iosCalls]
        exact accepted
      rw [answered] at refused
      cases refused
    · rw [asGood.services]
      exact Option.some_ne_none _
  obtain ⟨-, sends, receives⟩ := configure_notes stack device senderService
    receiverService notificationIDs object (opening device)
  rw [← connect_of_found found] at sends receives
  refine ⟨?_, sends.trans connected.sendService.symm, receives.trans connected.recvService.symm,
    receiverService, characteristics, connected.recvService, ?_, connected.registered⟩
  · rw [connect_ok_iff]
    exact ⟨positive, device, senderService, receiverService, rfl, found, notifies⟩
  · exact notificationCharacteristics_eq_some_iff.mpr ⟨positive, taken⟩

/-- A peripheral with a service to send to and one to receive from. -/
def minidrone : Ios.Peripheral :=
  ⟨1, [⟨"fa00".toList, [⟨"fa01".toList, 0x04⟩]⟩, ⟨"fb00".toList, [⟨"fb01".toList, 0x10⟩]⟩]⟩

/-- A stack that accepts everything. -/
def acceptingStack : BleStack := ⟨fun _ => .ok, fun _ => true, fun _ => some minidrone.services⟩

theorem connect_ok_of_ios_minidrone :
    let outcome := connect acceptingStack (some 1) (some [0]) .new
    let ios := Ios.connect (fun _ => .ok) false none (some minidrone) (some [0]) .new
    outcome.result = some .ok ∧ outcome.object.sendService = ios.object.sendService ∧
      outcome.object.recvService = ios.object.recvService ∧
      ∃ receiverService characteristics, ios.object.recvService = some receiverService ∧
        notificationCharacteristics receiverService (some [0]) = some characteristics ∧
        ios.object.recvNotificationCharacteristicArray = notifiable characteristics :=
  connect_ok_of_ios ⟨fun _ _ => rfl, fun _ => rfl, fun _ => rfl⟩ 1 (some [0]) .new (by decide)

end

end Java

end BleNetwork

end ARNetworkAL
