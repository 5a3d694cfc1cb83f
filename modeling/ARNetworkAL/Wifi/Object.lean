import ARNetworkAL.Frame
import ARNetworkAL.Library.Pointer

/-!
# The WiFi network object

A WiFi transport owns two objects of one type, a sender and a receiver. Each has
a socket, a buffer of 65527 bytes with a cursor in it, and the state of the
disconnection detection and of the bandwidth measure.

`malloc` does not clear what it returns, so an object starts from arbitrary
contents and `newSender` and `newReceiver` say which fields
`ARNETWORKAL_WifiNetwork_New` sets. The cursor of the receiver is not one of
them. `Placed` is what `malloc` promises of where it puts the buffer.
-/

set_option autoImplicit false

namespace ARNetworkAL

open Library

namespace WifiNetwork

/-- `IP_MAXPACKET`. -/
def ipMaxPacket : ℕ := 65535

/-- `UDP_HEADER_SIZE`. -/
def udpHeaderSize : ℕ := 8

/-- `ARNETWORKAL_WIFINETWORK_MAX_DATA_BUFFER_SIZE`. -/
def maxDataBufferSize : ℕ := ipMaxPacket - udpHeaderSize - offsetofDataPtr

/-- `ARNETWORKAL_WIFINETWORK_SENDING_BUFFER_SIZE`. -/
def sendingBufferSize : ℕ := maxDataBufferSize + offsetofDataPtr

/-- `ARNETWORKAL_WIFINETWORK_RECEIVING_BUFFER_SIZE`. -/
def receivingBufferSize : ℕ := maxDataBufferSize + offsetofDataPtr

/-- `ARNETWORKAL_WIFINETWORK_DISCONNECT_TIMEOUT_MS`. -/
def disconnectTimeoutMs : ℤ := 5000

/-- `ARNETWORKAL_BW_NB_ELEMS`. -/
def bwNbElems : ℕ := 10

@[simp] theorem sendingBufferSize_eq : sendingBufferSize = 65527 := rfl

@[simp] theorem receivingBufferSize_eq : receivingBufferSize = 65527 := rfl

@[simp] theorem disconnectTimeoutMs_eq : disconnectTimeoutMs = 5000 := rfl

/-- `struct timespec`. -/
structure Timespec where
  tvSec : ℤ
  tvNsec : ℤ
  deriving DecidableEq, Repr

/-- The date that `New` writes. -/
def Timespec.zero : Timespec := ⟨0, 0⟩

/-- The test by which `Receive` takes a date for "never". -/
def Timespec.IsZero (date : Timespec) : Prop := date.tvSec = 0 ∧ date.tvNsec = 0

instance (date : Timespec) : Decidable date.IsZero := inferInstanceAs (Decidable (_ ∧ _))

/-- `ARNETWORKAL_WifiNetworkObject` on a target with `w`-bit pointers, and the
memory its buffer points into. A null pointer is zero. -/
structure WifiNetworkObject (w : ℕ) where
  socket : ℤ
  socketBufferSize : ℤ
  fifo : ℤ × ℤ
  buffer : BitVec w
  currentFrame : BitVec w
  size : UInt32
  timeoutSec : UInt32
  lastDataReceivedDate : Timespec
  isDisconnected : UInt8
  recvIsFlushed : UInt8
  onDisconnect : BitVec w
  onDisconnectCustomData : BitVec w
  bwSem : ℕ
  bwThreadRunning : ℕ
  bwIndex : ℤ
  bwElements : List UInt32
  bwCurrent : UInt32
  heap : Mem UInt8

variable {w : ℕ}

/-- The fields that `New` sets in the same way in both objects. -/
def initObject (raw : WifiNetworkObject w) : WifiNetworkObject w :=
  { raw with
    socket := -1
    socketBufferSize := -1
    fifo := (-1, -1)
    lastDataReceivedDate := Timespec.zero
    isDisconnected := 0
    recvIsFlushed := 0
    onDisconnect := 0
    onDisconnectCustomData := 0
    bwIndex := 0
    bwCurrent := 0
    bwElements := List.replicate bwNbElems 0
    bwSem := 0
    bwThreadRunning := 1 }

/-- The sender object after `New`, from what `malloc` returned. -/
def newSender (raw : WifiNetworkObject w) (buffer : BitVec w) : WifiNetworkObject w :=
  { initObject raw with buffer := buffer, size := 0, currentFrame := buffer }

/-- The receiver object after `New`. Nothing sets its `currentFrame`. -/
def newReceiver (raw : WifiNetworkObject w) (buffer : BitVec w) : WifiNetworkObject w :=
  { initObject raw with buffer := buffer, size := 0 }

/-- What a successful `ARNETWORKAL_WifiNetwork_Connect` leaves in the sender. -/
def WifiNetworkObject.connected (object : WifiNetworkObject w) (socket : ℤ) (fifo : ℤ × ℤ)
    (socketBufferSize : ℤ) : WifiNetworkObject w :=
  { object with socket := socket, fifo := fifo, socketBufferSize := socketBufferSize }

/-- What a successful `ARNETWORKAL_WifiNetwork_Bind` leaves in the receiver. -/
def WifiNetworkObject.bound (object : WifiNetworkObject w) (socket : ℤ) (fifo : ℤ × ℤ)
    (timeoutSec : UInt32) : WifiNetworkObject w :=
  { object with socket := socket, fifo := fifo, timeoutSec := timeoutSec }

/-- What `ARNETWORKAL_WifiNetwork_SetOnDisconnectCallback` leaves in either object. -/
def WifiNetworkObject.setOnDisconnect (object : WifiNetworkObject w)
    (onDisconnectCallback customData : BitVec w) : WifiNetworkObject w :=
  { object with
    onDisconnect := onDisconnectCallback
    onDisconnectCustomData := customData }

/-- The address after the bytes of the buffer that are in use. -/
def WifiNetworkObject.bufferEnd (object : WifiNetworkObject w) : BitVec w :=
  Pointer.advance object.buffer object.size.toNat

/-- The bytes of the buffer that are in use. -/
def WifiNetworkObject.window (object : WifiNetworkObject w) : List UInt8 :=
  object.heap.slice object.buffer.toNat object.size.toNat

@[simp] theorem length_window (object : WifiNetworkObject w) :
    object.window.length = object.size.toNat :=
  Mem.length_slice _ _ _

/-! ## Where a buffer lies -/

/-- What `malloc` promises of a buffer of 65527 bytes: it is not null, it is
aligned for any object, and it ends before the address space does. -/
structure Placed (buffer : BitVec w) : Prop where
  word : 32 ≤ w
  nonNull : buffer ≠ 0
  aligned : 8 ∣ buffer.toNat
  high : buffer.toNat + sendingBufferSize < 2 ^ w

namespace Placed

variable {buffer : BitVec w}

theorem addressSpace (placed : Placed buffer) : 2 ^ 32 ≤ 2 ^ w :=
  Nat.pow_le_pow_right Nat.two_pos placed.word

/-- There is room for a header before the buffer. -/
theorem low (placed : Placed buffer) : offsetofDataPtr ≤ buffer.toNat := by
  obtain ⟨multiple, position⟩ := placed.aligned
  have positive : buffer.toNat ≠ 0 := by
    intro null
    apply placed.nonNull
    apply BitVec.eq_of_toNat_eq
    simpa using null
  rw [offsetofDataPtr_eq]
  omega

/-- Moving forward inside the buffer does not wrap. -/
theorem toNat_advance (placed : Placed buffer) {count : ℕ} (within : count ≤ 65527) :
    (Pointer.advance buffer count).toNat = buffer.toNat + count := by
  have high := placed.high
  rw [sendingBufferSize_eq] at high
  exact Pointer.toNat_advance (by omega)

end Placed

theorem WifiNetworkObject.toNat_bufferEnd {object : WifiNetworkObject w}
    (placed : Placed object.buffer) (sized : object.size.toNat ≤ 65527) :
    object.bufferEnd.toNat = object.buffer.toNat + object.size.toNat :=
  placed.toNat_advance sized

/-! ## A placement -/

/-- An object in memory that held zeros. -/
def WifiNetworkObject.cleared (w : ℕ) : WifiNetworkObject w where
  socket := 0
  socketBufferSize := 0
  fifo := (0, 0)
  buffer := 0
  currentFrame := 0
  size := 0
  timeoutSec := 0
  lastDataReceivedDate := Timespec.zero
  isDisconnected := 0
  recvIsFlushed := 0
  onDisconnect := 0
  onDisconnectCustomData := 0
  bwSem := 0
  bwThreadRunning := 0
  bwIndex := 0
  bwElements := []
  bwCurrent := 0
  heap := fun _ => 0

/-- A buffer that starts at 4 GiB on a 64-bit target. -/
def fourGiB : BitVec 64 := BitVec.ofNat 64 (2 ^ 32)

theorem placed_fourGiB : Placed fourGiB where
  word := by decide
  nonNull := by decide
  aligned := by decide
  high := by decide

/-- A new receiver with its buffer there. -/
def newAtFourGiB : WifiNetworkObject 64 := (newReceiver (.cleared 64) fourGiB).bound 3 (4, 5) 1

end WifiNetwork

end ARNetworkAL
