import ARNetworkAL.Library.ByteOrder
import ARNetworkAL.Library.Memory
import ARNetworkAL.Library.Records

/-!
# Frames and their wire format

A frame is what the layers above hand to a transport: three one-byte fields, a
32-bit size that counts the header, and a pointer to the payload. On the WiFi
and Mux transports it travels as seven header bytes followed by the payload.

`Frame` is the structure of the C code, pointer included. `Message` is what such
a frame says once its payload is read from memory (`Frame.content`), and
`frameFormat` is the wire format as a format of self-delimiting records: the
size field decides where the next frame starts.
-/

set_option autoImplicit false

namespace ARNetworkAL

open Library

/-- `eARNETWORKAL_MANAGER_RETURN`. -/
inductive ManagerReturn where
  | default
  | bufferFull
  | bufferEmpty
  | badFrame
  | noDataAvailable
  | badParameters
  | networkError
  deriving DecidableEq, Repr

/-- The values of `errno` that the transports tell apart. -/
inductive Errno where
  | eagain
  | enxio
  | eacces
  | other (code : ℕ)
  deriving DecidableEq, Repr

/-- `ARNETWORKAL_FRAME_TYPE_UNINITIALIZED`. -/
def frameTypeUninitialized : UInt8 := 0

/-- `ARNETWORKAL_Frame_t`, on a target with `w`-bit pointers. -/
structure Frame (w : ℕ) where
  type : UInt8
  id : UInt8
  seq : UInt8
  size : UInt32
  dataPtr : BitVec w
  deriving DecidableEq, Repr

/-- `offsetof (ARNETWORKAL_Frame_t, dataPtr)`; the structure is packed. -/
def offsetofDataPtr : ℕ := 7

@[simp] theorem offsetofDataPtr_eq : offsetofDataPtr = 7 := rfl

/-- The frame as `PopFrame` resets it. -/
def Frame.reset (w : ℕ) : Frame w where
  type := frameTypeUninitialized
  id := 0
  seq := 0
  size := 0
  dataPtr := 0

/-- The byte order of the machine and the conversions of `ARSAL_Endianness`,
which are inverse to each other. -/
structure Endianness where
  hostOrder : ByteOrder
  htodl : UInt32 → UInt32
  dtohl : UInt32 → UInt32
  dtohl_htodl : ∀ value, dtohl (htodl value) = value
  htodl_dtohl : ∀ value, htodl (dtohl value) = value

/-- A little-endian machine, where the conversions do nothing. -/
def Endianness.littleEndianHost : Endianness where
  hostOrder := .little
  htodl := id
  dtohl := id
  dtohl_htodl _ := rfl
  htodl_dtohl _ := rfl

/-! ## What a frame says -/

/-- The contents of a frame, payload included. -/
structure Message where
  type : UInt8
  id : UInt8
  seq : UInt8
  size : UInt32
  payload : List UInt8
  deriving DecidableEq, Repr

/-- The size counts the header and the payload. -/
def Message.WellSized (message : Message) : Prop :=
  offsetofDataPtr + message.payload.length = message.size.toNat

/-- A frame with the payload its pointer designates in a memory. -/
def Frame.content {w : ℕ} (memory : Mem UInt8) (frame : Frame w) : Message where
  type := frame.type
  id := frame.id
  seq := frame.seq
  size := frame.size
  payload := memory.slice frame.dataPtr.toNat (frame.size.toNat - offsetofDataPtr)

theorem Frame.content_wellSized {w : ℕ} (memory : Mem UInt8) {frame : Frame w}
    (holdsHeader : offsetofDataPtr ≤ frame.size.toNat) : (frame.content memory).WellSized := by
  simp only [Message.WellSized, Frame.content, Mem.length_slice]
  omega

/-- The size without the header, in 32 bits. -/
theorem Frame.toNat_size_sub {w : ℕ} {frame : Frame w}
    (holdsHeader : offsetofDataPtr ≤ frame.size.toNat) :
    (frame.size - UInt32.ofNat offsetofDataPtr).toNat = frame.size.toNat - offsetofDataPtr := by
  have smaller : UInt32.ofNat offsetofDataPtr ≤ frame.size := by
    rw [UInt32.le_iff_toNat_le]
    exact holdsHeader
  rw [UInt32.toNat_sub_of_le _ _ smaller]
  rfl

/-! ## The wire format -/

variable (E : Endianness)

/-- The seven header bytes. -/
def header (type id seq : UInt8) (size : UInt32) : List UInt8 :=
  type :: id :: seq :: E.hostOrder.bytes (E.htodl size)

@[simp] theorem length_header (type id seq : UInt8) (size : UInt32) :
    (header E type id seq size).length = offsetofDataPtr := by
  simp [header]

/-- A message on the wire. -/
def wire (message : Message) : List UInt8 :=
  header E message.type message.id message.seq message.size ++ message.payload

theorem length_wire {message : Message} (sized : message.WellSized) :
    (wire E message).length = message.size.toNat := by
  rw [wire, List.length_append, length_header, sized]

/-- The size field that four stored bytes hold. -/
def sizeField (stored : List UInt8) : UInt32 := E.dtohl (E.hostOrder.value stored)

@[simp] theorem sizeField_bytes (size : UInt32) :
    sizeField E (E.hostOrder.bytes (E.htodl size)) = size := by
  rw [sizeField, ByteOrder.value_bytes, E.dtohl_htodl]

theorem bytes_sizeField {stored : List UInt8} (four : stored.length = 4) :
    E.hostOrder.bytes (E.htodl (sizeField E stored)) = stored := by
  rw [sizeField, E.htodl_dtohl, ByteOrder.bytes_value _ four]

/-- Strip one frame from the head of a byte string: a header whose size counts
at least the header and at most the bytes there are. -/
def decodeFrame : List UInt8 → Option (Message × List UInt8)
  | type :: id :: seq :: b₀ :: b₁ :: b₂ :: b₃ :: rest =>
      let size := sizeField E [b₀, b₁, b₂, b₃]
      if offsetofDataPtr ≤ size.toNat ∧ size.toNat - offsetofDataPtr ≤ rest.length then
        some (⟨type, id, seq, size, rest.take (size.toNat - offsetofDataPtr)⟩,
          rest.drop (size.toNat - offsetofDataPtr))
      else none
  | _ => none

theorem decodeFrame_wire (message : Message) (rest : List UInt8) (sized : message.WellSized) :
    decodeFrame E (wire E message ++ rest) = some (message, rest) := by
  obtain ⟨type, id, seq, size, payload⟩ := message
  have counted : size.toNat = offsetofDataPtr + payload.length := sized.symm
  have four : (E.hostOrder.bytes (E.htodl size)).length = 4 := ByteOrder.length_bytes _ _
  match stored : E.hostOrder.bytes (E.htodl size), four with
  | [b₀, b₁, b₂, b₃], _ =>
    have decoded : sizeField E [b₀, b₁, b₂, b₃] = size := by rw [← stored, sizeField_bytes]
    simp [wire, header, stored, decodeFrame, decoded, counted]

theorem wire_decodeFrame (stream : List UInt8) (message : Message) (rest : List UInt8)
    (decoded : decodeFrame E stream = some (message, rest)) :
    message.WellSized ∧ stream = wire E message ++ rest := by
  match stream, decoded with
  | type :: id :: seq :: b₀ :: b₁ :: b₂ :: b₃ :: tail, decoded =>
    simp only [decodeFrame] at decoded
    split at decoded
    · rename_i fits
      simp only [Option.some.injEq, Prod.mk.injEq] at decoded
      obtain ⟨rfl, rfl⟩ := decoded
      refine ⟨?_, ?_⟩
      · simp only [Message.WellSized, List.length_take]
        omega
      · simp [wire, header, bytes_sizeField]
    · cases decoded

/-- The wire format of frames. -/
def frameFormat : RecordFormat UInt8 Message where
  Valid := Message.WellSized
  encode := wire E
  decode := decodeFrame E
  decode_encode := decodeFrame_wire E
  encode_decode := wire_decodeFrame E
  decode_nil := rfl

end ARNetworkAL
