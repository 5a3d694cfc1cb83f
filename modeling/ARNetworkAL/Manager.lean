import ARNetworkAL.Wifi.Object

/-!
# The manager

A manager carries sixteen operation pointers, the two objects of the transport that is
installed, and two limits. `Init` of a transport creates the objects and sets the
pointers it knows; `Close` frees the objects.

An object is modelled by the transport that created it, and an operation pointer by the
transport whose function of that name it holds. What the system answers during a call
is an argument of it.
-/

set_option autoImplicit false

namespace ARNetworkAL

/-- `eARNETWORKAL_ERROR`. -/
inductive ErrorCode where
  | ok
  | generic
  | alloc
  | badParameter
  | fifoInit
  | mainThread
  | manager
  | managerOperationNotSupported
  | network
  | networkType
  | wifi
  | wifiSocketCreation
  | wifiSocketPermissionDenied
  | wifiSocketGetopt
  | wifiSocketSetopt
  | bleConnection
  | bleNotConnected
  | bleDisconnection
  | bleServicesDiscovering
  | bleCharacteristicsDiscovering
  | bleCharacteristicConfiguring
  | bleStack
  deriving DecidableEq, Repr

/-- The transports. Bluetooth has one implementation for iOS and one for Android. -/
inductive Transport where
  | wifi
  | ble
  | jniBle
  | mux
  deriving DecidableEq, Repr

/-- The operation pointers of a manager. -/
inductive Operation where
  | pushFrame
  | popFrame
  | send
  | receive
  | unlock
  | getBandwidth
  | bandwidthThread
  | setOnDisconnectCallback
  | setSendBufferSize
  | setRecvBufferSize
  | getSendBufferSize
  | getRecvBufferSize
  | setSendClassSelector
  | setRecvClassSelector
  | getSendClassSelector
  | getRecvClassSelector
  deriving DecidableEq, Repr

/-- `ARNETWORKAL_Manager_t`. -/
structure Manager where
  operations : Operation → Option Transport
  senderObject : Option Transport
  receiverObject : Option Transport
  maxIds : ℕ
  maxBufferSize : ℕ

/-- `ARNETWORKAL_MANAGER_DEFAULT_ID_MAX`, which is also `ARNETWORKAL_MANAGER_WIFI_ID_MAX`. -/
def managerDefaultIdMax : ℕ := 256

/-- `ARNETWORKAL_MANAGER_BLE_ID_MAX`. -/
def managerBleIdMax : ℕ := managerDefaultIdMax / 8

/-- `ARNETWORKAL_BLENETWORK_MAX_BUFFER_SIZE` and its JNI namesake. -/
def bleNetworkMaxBufferSize : ℕ := 20 - 2

namespace Manager

/-- `ARNETWORKAL_Manager_New`. -/
def new : Manager where
  operations _ := none
  senderObject := none
  receiverObject := none
  maxIds := managerDefaultIdMax
  maxBufferSize := 0

/-- Some transport is installed. -/
def Installed (manager : Manager) : Prop :=
  manager.senderObject ≠ none ∨ manager.receiverObject ≠ none

instance (manager : Manager) : Decidable manager.Installed :=
  inferInstanceAs (Decidable (_ ∨ _))

/-- The objects of a transport are in place. -/
def withObjects (manager : Manager) (transport : Transport) : Manager :=
  { manager with senderObject := some transport, receiverObject := some transport }

/-- Both objects are gone. The operation pointers stay. -/
def withoutObjects (manager : Manager) : Manager :=
  { manager with senderObject := none, receiverObject := none }

end Manager

/-! ## What Init sets -/

/-- The pointers that the `Init` of a transport sets. -/
def Transport.sets : Transport → List Operation
  | wifi =>
      [.pushFrame, .popFrame, .send, .receive, .unlock, .getBandwidth, .bandwidthThread,
        .setOnDisconnectCallback, .setRecvBufferSize, .getRecvBufferSize, .setSendBufferSize,
        .getSendBufferSize, .setRecvClassSelector, .getRecvClassSelector, .setSendClassSelector,
        .getSendClassSelector]
  | ble =>
      [.pushFrame, .popFrame, .send, .receive, .unlock, .getBandwidth, .bandwidthThread,
        .setOnDisconnectCallback]
  | jniBle => [.pushFrame, .popFrame, .send, .receive, .unlock, .setOnDisconnectCallback]
  | mux =>
      [.pushFrame, .popFrame, .send, .receive, .unlock, .getBandwidth, .bandwidthThread,
        .setOnDisconnectCallback, .setSendBufferSize, .setRecvBufferSize, .getSendBufferSize,
        .getRecvBufferSize]

/-- WiFi sets them all. -/
theorem mem_sets_wifi (operation : Operation) : operation ∈ Transport.wifi.sets := by
  cases operation <;> decide

/-- The identifiers a transport allows. -/
def Transport.maxIds : Transport → ℕ
  | wifi => managerDefaultIdMax
  | mux => managerDefaultIdMax
  | ble => managerBleIdMax
  | jniBle => managerBleIdMax

/-- The payload a transport allows. -/
def Transport.maxBufferSize : Transport → ℕ
  | wifi => WifiNetwork.maxDataBufferSize
  | mux => 16384
  | ble => bleNetworkMaxBufferSize
  | jniBle => bleNetworkMaxBufferSize

/-- The assignments with which the `Init` of a transport ends. -/
def Manager.install (manager : Manager) (transport : Transport) : Manager :=
  { manager with
    operations := fun operation =>
      if operation ∈ transport.sets then some transport else manager.operations operation
    maxIds := transport.maxIds
    maxBufferSize := transport.maxBufferSize }

/-! ## WiFi -/

/-- What the system answers while a socket is set up by `Connect` or `Bind`: whether the
socket and the pipe are created, and the error of `connect` or `bind`, if any. -/
structure SocketAnswers where
  created : Bool
  piped : Bool
  failure : Option Errno
  deriving DecidableEq, Repr

/-- The error that `Connect` and `Bind` return for them. A pipe that fails hides a socket
that fails. -/
def SocketAnswers.error (answers : SocketAnswers) : ErrorCode :=
  if answers.piped = false then .fifoInit
  else if answers.created = false then .wifiSocketCreation
  else
    match answers.failure with
    | none => .ok
    | some .eacces => .wifiSocketPermissionDenied
    | some _ => .wifi

/-- What the system answers to `InitWifiNetwork`: which of the four allocations succeed,
and the two sockets. -/
structure WifiAnswers where
  senderObject : Bool
  senderBuffer : Bool
  receiverObject : Bool
  receiverBuffer : Bool
  connect : SocketAnswers
  bind : SocketAnswers
  deriving DecidableEq, Repr

namespace Manager

/-- `ARNETWORKAL_WifiNetwork_New`. -/
def wifiNetworkNew (answers : WifiAnswers) (manager : Manager) : ErrorCode × Manager :=
  if answers.senderObject = false then
    (.alloc, { manager with senderObject := none })
  else
    let manager := { manager with senderObject := some .wifi }
    if answers.senderBuffer = false then (.alloc, manager)
    else if answers.receiverObject = false then
      (.alloc, { manager with receiverObject := none })
    else
      let manager := { manager with receiverObject := some .wifi }
      if answers.receiverBuffer = false then (.alloc, manager) else (.ok, manager)

/-- `ARNETWORKAL_WifiNetwork_Connect`. -/
def wifiNetworkConnect (answers : SocketAnswers) (manager : Manager) : ErrorCode :=
  if manager.senderObject = none then .badParameter else answers.error

/-- `ARNETWORKAL_WifiNetwork_Bind`. -/
def wifiNetworkBind (answers : SocketAnswers) (manager : Manager) : ErrorCode :=
  if manager.receiverObject = none then .badParameter else answers.error

/-- `ARNETWORKAL_WifiNetwork_Delete`. -/
def wifiNetworkDelete (manager : Manager) : Manager := manager.withoutObjects

/-- `ARNETWORKAL_Manager_InitWifiNetwork`; the address may be null. -/
def initWifiNetwork (addr : Option String) (answers : WifiAnswers) (manager : Manager) :
    ErrorCode × Manager :=
  let (error, manager) :=
    if addr = none then (.badParameter, manager) else manager.wifiNetworkNew answers
  let error := if error = .ok then manager.wifiNetworkConnect answers.connect else error
  let error := if error = .ok then manager.wifiNetworkBind answers.bind else error
  if error = .ok then (.ok, manager.install .wifi) else (error, manager.wifiNetworkDelete)

end Manager

/-! ## Bluetooth -/

/-- What the Java machine answers to `nativeInitBLENetwork`. -/
structure JniAnswers where
  environment : Bool
  allocated : Bool
  connect : ErrorCode
  deriving DecidableEq, Repr

namespace Manager

/-- `ARNETWORKAL_BLENetwork_Delete`. Without a sender object nothing happens. -/
def bleNetworkDelete (manager : Manager) : Manager :=
  if manager.senderObject = none then manager else manager.withoutObjects

/-- `ARNETWORKAL_Manager_InitBLENetwork`, on a platform with or without Core Bluetooth.
The answers are whether the object is allocated and what the connection returns. -/
def initBLENetwork (coreBluetooth allocated : Bool) (connect : ErrorCode) (manager : Manager) :
    ErrorCode × Manager :=
  if coreBluetooth = false then (.networkType, manager)
  else if allocated = false then (.alloc, manager.bleNetworkDelete)
  else
    let manager := manager.withObjects .ble
    if connect = .ok then (.ok, manager.install .ble) else (connect, manager.bleNetworkDelete)

/-- `ARNETWORKAL_Manager_CloseBLENetwork`. -/
def closeBLENetwork (coreBluetooth : Bool) (manager : Manager) : Manager :=
  if coreBluetooth = false then manager else manager.bleNetworkDelete

/-- `nativeInitBLENetwork`. A connection that fails leaves the objects. -/
def nativeInitBLENetwork (answers : JniAnswers) (manager : Manager) : ErrorCode × Manager :=
  if answers.environment = false then (.generic, manager)
  else if answers.allocated = false then (.alloc, manager)
  else
    let manager := manager.withObjects .jniBle
    if answers.connect = .ok then (.ok, manager.install .jniBle) else (answers.connect, manager)

/-- `nativeCloseBLENetwork`. -/
def nativeCloseBLENetwork (environment : Bool) (manager : Manager) : Manager :=
  if environment = false then manager else manager.withoutObjects

/-! ## Mux -/

/-- `ARNETWORKAL_Manager_InitMuxNetwork`; the context may be null. -/
def initMuxNetwork (ctx allocated : Bool) (manager : Manager) : ErrorCode × Manager :=
  if ctx = false then (.badParameter, manager)
  else if allocated = false then (.alloc, manager)
  else (.ok, (manager.withObjects .mux).install .mux)

/-- `ARNETWORKAL_Manager_CloseMuxNetwork`. It reads the sender object without a test. -/
def closeMuxNetwork (manager : Manager) : Option Manager :=
  if manager.senderObject = none then none else some manager.withoutObjects

end Manager

end ARNetworkAL
