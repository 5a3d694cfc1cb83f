import ARNetworkAL.Frame
import ARNetworkAL.Library.HexText
import ARNetworkAL.Library.Pointer

/-!
# Frames over Bluetooth

Over Bluetooth a frame travels as the value of a characteristic: its type, its sequence
number, and its payload. The identifier is not among the bytes, and neither is the size. The
sender writes to the characteristic whose place in the send service is the identifier, and
the receiver takes it from the short UUID of the characteristic that notifies and the size
from the length of the value.

`packet` and `unpacket` are that format. The rest is what the iOS and the Android
implementation share: their fields, the check of the size before a frame is sent, and the
part of `popFrame` that fills the frame.
-/

set_option autoImplicit false

namespace ARNetworkAL

open Library

namespace BleNetwork

/-- `ARNETWORKAL_BLENETWORK_MEDIA_MTU`. -/
def mediaMtu : ℕ := 20

/-- `ARNETWORKAL_BLENETWORK_HEADER_SIZE`. -/
def headerSize : ℕ := 2

@[simp] theorem mediaMtu_eq : mediaMtu = 20 := rfl

@[simp] theorem headerSize_eq : headerSize = 2 := rfl

/-! ## The format -/

/-- The value that carries a message. -/
def packet (message : Message) : List UInt8 := message.type :: message.seq :: message.payload

/-- The message that a value carries on a characteristic. Its size has 32 bits. -/
def unpacket (id : UInt8) : List UInt8 → Option Message
  | type :: seq :: payload =>
      let size := UInt32.ofNat (offsetofDataPtr + payload.length)
      some ⟨type, id, seq, size, payload.take (size.toNat - offsetofDataPtr)⟩
  | _ => none

theorem unpacket_packet {message : Message} (sized : message.WellSized) :
    unpacket message.id (packet message) = some message := by
  have counted : offsetofDataPtr + message.payload.length = message.size.toNat := sized
  have whole : message.payload.take (message.size.toNat - offsetofDataPtr) = message.payload :=
    List.take_of_length_le (by omega)
  rw [packet, unpacket, counted, UInt32.ofNat_toNat, whole]

/-- A value with a header carries a message. -/
theorem unpacket_isSome_iff {id : UInt8} {value : List UInt8} :
    (unpacket id value).isSome ↔ headerSize ≤ value.length := by
  match value with
  | [] => simp [unpacket]
  | [_] => simp [unpacket]
  | _ :: _ :: _ => simp [unpacket]

/-! ## Notifications -/

/-- A notification: the short UUID of the characteristic and its value. -/
structure Notification where
  shortUuid : List Char
  value : List UInt8
  deriving DecidableEq, Repr

/-- Short UUIDs have four digits. -/
def IsShortUuid (text : List Char) : Prop := HexDigits text ∧ text.length = 4

instance (text : List Char) : Decidable (IsShortUuid text) :=
  inferInstanceAs (Decidable (_ ∧ _))

/-- The low byte of a short UUID. -/
def Notification.id (notification : Notification) : UInt8 :=
  UInt8.ofNat (hexNumber notification.shortUuid)

theorem ofInt_natCast (number : ℕ) : UInt8.ofInt number = UInt8.ofNat number := by
  have low : ((number : ℤ) % 2 ^ 8).toNat = number % 2 ^ 8 := by omega
  apply UInt8.toNat_inj.mp
  rw [UInt8.ofInt, low, UInt8.toNat_ofNat', UInt8.toNat_ofNat', Nat.mod_mod]

/-- What a notification carries. -/
def Notification.message? (notification : Notification) : Option Message :=
  unpacket notification.id notification.value

theorem IsShortUuid.ne_nil {text : List Char} (short : IsShortUuid text) : text ≠ [] := by
  intro empty
  have four := short.2
  rw [empty] at four
  cases four

theorem scanHex_shortUuid {text : List Char} (short : IsShortUuid text) :
    scanHex 4 text = some (hexNumber text : ℤ) :=
  scanHex_digits short.1 short.ne_nil (Nat.le_of_eq short.2)

theorem parseHex_shortUuid {text : List Char} (short : IsShortUuid text) :
    parseHex text = some (hexNumber text : ℤ) :=
  parseHex_digits short.1 short.ne_nil (by rw [short.2]; decide)

/-! ## What the two implementations share -/

/-- The fields of `ARNETWORKAL_BLENetwork`, on iOS, and of `ARNetworkALBLENetwork`, on
Android, that frames pass through. -/
structure Network (κ : Type) where
  sendService : Option (List κ)
  recvArray : List Notification
  bwCurrentUp : UInt32
  bwCurrentDown : UInt32

variable {w : ℕ}

/-- The length of the value that a frame needs, as the test of it is computed. -/
def valueLength (frame : Frame w) : BitVec w :=
  BitVec.ofNat w frame.size.toNat - BitVec.ofNat w offsetofDataPtr + BitVec.ofNat w headerSize

/-- The number of payload bytes, in 32 bits. -/
def dataSize (frame : Frame w) : UInt32 := frame.size - UInt32.ofNat offsetofDataPtr

/-- A frame whose payload fits a value. -/
def FitsValue (frame : Frame w) : Prop :=
  offsetofDataPtr ≤ frame.size.toNat ∧
    frame.size.toNat ≤ offsetofDataPtr + (mediaMtu - headerSize)

instance (frame : Frame w) : Decidable (FitsValue frame) := inferInstanceAs (Decidable (_ ∧ _))

/-- **The test of the length passes from two bytes below a header on**: the computation goes
below zero, to the top of the words, only for a size below five. -/
theorem valueLength_le_iff (word : 32 ≤ w) (frame : Frame w) :
    (valueLength frame).toNat ≤ mediaMtu ↔
      offsetofDataPtr - headerSize ≤ frame.size.toNat ∧
        frame.size.toNat ≤ offsetofDataPtr + (mediaMtu - headerSize) := by
  have space : 2 ^ 32 ≤ 2 ^ w := Nat.pow_le_pow_right Nat.two_pos word
  have bounded : frame.size.toNat < 2 ^ 32 := UInt32.toNat_lt _
  have size : (BitVec.ofNat w frame.size.toNat).toNat = frame.size.toNat := by
    rw [BitVec.toNat_ofNat, Nat.mod_eq_of_lt (by omega)]
  have value : valueLength frame = Pointer.retreat (BitVec.ofNat w frame.size.toNat) 5 :=
    Pointer.advance_retreat _ (by decide)
  rw [value]
  simp only [offsetofDataPtr_eq, headerSize_eq, mediaMtu_eq]
  rcases Nat.lt_or_ge frame.size.toNat 5 with few | enough
  · rw [Pointer.toNat_retreat_wraps (by rw [size]; exact few) (by omega), size]
    omega
  · rw [Pointer.toNat_retreat (by rw [size]; exact enough), size]
    omega

/-- A frame that fits a value passes the test. -/
theorem valueLength_le (word : 32 ≤ w) {frame : Frame w} (fits : FitsValue frame) :
    (valueLength frame).toNat ≤ mediaMtu :=
  (valueLength_le_iff word frame).mpr ⟨(Nat.sub_le _ _).trans fits.1, fits.2⟩

/-- What a call of `PushFrame` meets: whether there is a Java environment, whether the array
for the payload can be allocated, and whether the value is written. iOS asks the last only. -/
structure PushAnswers where
  env : Bool
  newByteArray : Bool
  writeData : Bool
  deriving DecidableEq, Repr

/-- A value that is to be written, and the place of the characteristic in the send service. -/
structure Write where
  characteristic : Option ℕ
  data : List UInt8
  deriving DecidableEq, Repr

/-- What a call of `PushFrame` returns and does: the result, unless the call ends by an
exception, the object afterwards, the values handed to `writeData`, and the blocks read from
the caller's memory. -/
structure PushOutcome (σ : Type) where
  result : Option ManagerReturn
  object : σ
  writes : List Write
  reads : List Region

/-- Where a value is put: from `address` on, with other bytes behind it. -/
structure Placement (w : ℕ) where
  address : BitVec w
  beyond : Mem UInt8

namespace Placement

/-- The memory as seen from the address of a value. -/
def memory (placement : Placement w) (value : List UInt8) : Mem UInt8 := fun offset =>
  value.getD offset (placement.beyond offset)

/-- What a frame says whose payload pointer leads into a value. -/
def content (placement : Placement w) (value : List UInt8) (frame : Frame w) : Message where
  type := frame.type
  id := frame.id
  seq := frame.seq
  size := frame.size
  payload :=
    (placement.memory value).slice (frame.dataPtr - placement.address).toNat
      (frame.size.toNat - offsetofDataPtr)

/-- A block inside the value. -/
theorem slice_memory (placement : Placement w) {value : List UInt8} {offset count : ℕ}
    (inside : offset + count ≤ value.length) :
    (placement.memory value).slice offset count = (value.drop offset).take count := by
  apply List.ext_getElem
  · rw [Mem.length_slice, List.length_take, List.length_drop]
    omega
  · intro index within _
    rw [Mem.length_slice] at within
    have bounded : offset + index < value.length := by omega
    simp [Mem.slice, memory, List.getElem?_eq_getElem bounded]

end Placement

/-- The size that a value gives a frame, computed in `size_t`. -/
def frameSize (value : List UInt8) (w : ℕ) : UInt32 :=
  .ofBitVec ((BitVec.ofNat w value.length - BitVec.ofNat w headerSize +
    BitVec.ofNat w offsetofDataPtr).setWidth 32)

/-- A frame is filled from the place where a value lies. -/
def fillFrame (frameId : ℤ) (placement : Placement w) (value : List UInt8) (frame : Frame w) :
    Frame w :=
  let frame := { frame with id := UInt8.ofInt frameId }
  let frame := { frame with type := placement.memory value 0 }
  let frame := { frame with seq := placement.memory value 1 }
  let frame := { frame with size := frameSize value w }
  { frame with dataPtr := Pointer.advance placement.address headerSize }

/-- What `fillFrame` reads of a value: its type and its sequence number. -/
def fillReads : List Region := [⟨0, 1⟩, ⟨1, 1⟩]

/-- What a call of `PopFrame` returns and does: the result, unless the call ends by an
exception, the object afterwards, the frame, the value that its payload pointer leads into,
and the blocks read from that value. -/
structure PopOutcome (w : ℕ) (σ : Type) where
  result : Option ManagerReturn
  object : σ
  frame : Frame w
  currentFrame : List UInt8
  reads : List Region

/-- What the frame of such a call says. -/
def PopOutcome.content {σ : Type} (outcome : PopOutcome w σ) (placement : Placement w) :
    Message :=
  placement.content outcome.currentFrame outcome.frame

/-- The message of a frame that was reset. -/
def emptyMessage : Message := ⟨frameTypeUninitialized, 0, 0, 0, []⟩

/-- What popping a queue gives: the result, what the frame says, and what remains. -/
structure Popped where
  result : ManagerReturn
  message : Message
  remaining : List Notification
  deriving DecidableEq, Repr

/-- **Popping a queue, whatever the implementation.** -/
def popQueue : List Notification → Popped
  | [] => ⟨.bufferEmpty, emptyMessage, []⟩
  | notification :: rest =>
      match notification.message? with
      | some message => ⟨.default, message, rest⟩
      | none => ⟨.badFrame, emptyMessage, rest⟩

/-- A notification with a short UUID, whose value is empty or holds a header. -/
def Notification.Readable (notification : Notification) : Prop :=
  IsShortUuid notification.shortUuid ∧
    (notification.value = [] ∨ headerSize ≤ notification.value.length)

instance (notification : Notification) : Decidable notification.Readable :=
  inferInstanceAs (Decidable (_ ∧ _))

theorem frameSize_eq (word : 32 ≤ w) {value : List UInt8} (header : headerSize ≤ value.length) :
    frameSize value w = UInt32.ofNat (offsetofDataPtr + (value.length - headerSize)) := by
  have divides : 2 ^ 32 ∣ 2 ^ w := Nat.pow_dvd_pow 2 word
  have split : BitVec.ofNat w value.length =
      BitVec.ofNat w (value.length - headerSize) + BitVec.ofNat w headerSize := by
    rw [← BitVec.ofNat_add, Nat.sub_add_cancel header]
  have size : BitVec.ofNat w value.length - BitVec.ofNat w headerSize +
      BitVec.ofNat w offsetofDataPtr =
        BitVec.ofNat w (offsetofDataPtr + (value.length - headerSize)) := by
    rw [split, BitVec.add_sub_cancel, ← BitVec.ofNat_add, Nat.add_comm]
  apply UInt32.toNat_inj.mp
  rw [frameSize, size]
  simp only [UInt32.toNat_ofBitVec, BitVec.toNat_setWidth, BitVec.toNat_ofNat, UInt32.toNat_ofNat']
  exact Nat.mod_mod_of_dvd _ divides

/-- **A value with a header fills a frame with the message that it carries.** -/
theorem content_fillFrame (word : 32 ≤ w) (placement : Placement w)
    (notification : Notification) {message : Message}
    (carried : notification.message? = some message) (frame : Frame w) :
    placement.content notification.value
      (fillFrame (hexNumber notification.shortUuid) placement notification.value frame) =
        message := by
  obtain ⟨shortUuid, value⟩ := notification
  match value, carried with
  | type :: seq :: payload, carried =>
      have header : headerSize ≤ (type :: seq :: payload).length := Nat.le_add_left 2 _
      have size : frameSize (type :: seq :: payload) w =
          UInt32.ofNat (offsetofDataPtr + payload.length) := frameSize_eq word header
      have apart : (Pointer.advance placement.address headerSize - placement.address).toNat =
          headerSize := by
        have space : 2 ^ 32 ≤ 2 ^ w := Nat.pow_le_pow_right Nat.two_pos word
        exact Pointer.toNat_advance_sub _ (by rw [headerSize_eq]; omega)
      have short : (UInt32.ofNat (offsetofDataPtr + payload.length)).toNat - offsetofDataPtr ≤
          payload.length := by
        have wrapped := Nat.mod_le (offsetofDataPtr + payload.length) (2 ^ 32)
        rw [UInt32.toNat_ofNat']
        omega
      rw [Notification.message?, unpacket, Option.some.injEq] at carried
      rw [← carried, Placement.content]
      simp only [fillFrame]
      simp only [size, apart]
      rw [placement.slice_memory (by simp only [List.length_cons, headerSize_eq]; omega),
        ofInt_natCast]
      rfl

/-- A notification whose value holds a header carries a message. -/
theorem Notification.Readable.message {notification : Notification}
    (readable : notification.Readable) (nonempty : notification.value.length ≠ 0) :
    ∃ message, notification.message? = some message := by
  have header := readable.2.resolve_left (fun empty => nonempty (by rw [empty, List.length_nil]))
  exact Option.isSome_iff_exists.mp (unpacket_isSome_iff.mpr header)

/-- A call of `PopFrame` pops the queue. -/
structure Pops {σ : Type} (popped : Popped) (outcome : PopOutcome w σ) (placement : Placement w)
    (recvArray : List Notification) : Prop where
  result : outcome.result = some popped.result
  content : outcome.content placement = popped.message
  remaining : recvArray = popped.remaining

end BleNetwork

end ARNetworkAL
