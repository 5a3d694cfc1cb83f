import ARNetworkAL.Frame
import ARNetworkAL.Library.Pointer

/-!
# The Mux network object

The Mux transport has one object for both directions. `PushFrame` copies a frame into a
new pomp buffer and gives it to the mux at once. `Receive` takes one buffer from the
receive queue into `rxbuf_recv`; `PopFrame` moves it to `rxbuf_pop` and reads one frame
from it; the next `Receive` releases it.

Buffers are pointers of an arbitrary type, which the code stores, moves and compares with
`NULL` only. What libpomp and libmux answer is an argument of each function.
-/

set_option autoImplicit false

namespace ARNetworkAL

open Library

namespace MuxNetwork

/-- `ARNETWORKAL_MuxNetworkObject`, on a target with `w`-bit pointers. -/
structure MuxNetworkObject (w : ℕ) (β : Type) where
  ctx : BitVec w
  rxbufRecv : Option β
  rxbufPop : Option β
  rxqueue : BitVec w
  onDisconnect : BitVec w
  onDisconnectCustomData : BitVec w
  disconnected : ℤ
  deriving DecidableEq, Repr

variable {w : ℕ} {β : Type}

/-- The object after `InitMuxNetwork`: cleared by `calloc`, with a context and the queue
that `mux_channel_alloc_queue` answers. -/
def newObject (ctx rxqueue : BitVec w) : MuxNetworkObject w β where
  ctx := ctx
  rxbufRecv := none
  rxbufPop := none
  rxqueue := rxqueue
  onDisconnect := 0
  onDisconnectCustomData := 0
  disconnected := 0

/-- What `ARNETWORKAL_MuxNetwork_SetOnDisconnectCallback` leaves. -/
def MuxNetworkObject.setOnDisconnect (object : MuxNetworkObject w β)
    (onDisconnectCallback customData : BitVec w) : MuxNetworkObject w β :=
  { object with
    onDisconnect := onDisconnectCallback
    onDisconnectCustomData := customData }

/-- The end of the two error paths: the disconnection is notified if it was not already.
The object afterwards, and whether the callback was called. -/
def MuxNetworkObject.disconnect (object : MuxNetworkObject w β) : MuxNetworkObject w β × Bool :=
  if object.disconnected = 0 then ({ object with disconnected := 1 }, object.onDisconnect ≠ 0)
  else (object, false)

/-- It touches one flag. -/
theorem MuxNetworkObject.disconnect_object (object : MuxNetworkObject w β) :
    ∃ disconnected, object.disconnect.1 = { object with disconnected := disconnected } := by
  simp only [disconnect]
  split
  · exact ⟨_, rfl⟩
  · exact ⟨object.disconnected, rfl⟩

/-! ## PushFrame -/

/-- What libpomp and libmux answer during one call of `PushFrame`: the new buffer with the
bytes it happens to hold, if any, and the results of the three other calls. -/
structure PushAnswers where
  buffer : Option (Mem UInt8)
  getData : ℤ
  setLen : ℤ
  encode : ℤ

/-- What a call of `PushFrame` returns and does: the object afterwards, the bytes given to
`mux_encode`, how often the new buffer is released, whether the callback was called, the
blocks written in the buffer and those read from the caller's memory. -/
structure PushOutcome (w : ℕ) (β : Type) where
  result : ManagerReturn
  senderObject : MuxNetworkObject w β
  encoded : Option (List UInt8)
  unrefs : ℕ
  notified : Bool
  writes : List Region
  reads : List Region

/-- A pomp buffer while a frame is copied into it. -/
structure Writing (w : ℕ) where
  data : Mem UInt8
  off : BitVec w
  writes : List Region

/-- `memcpy` to `data + off`, then `off += count`. -/
def Writing.memcpy (writing : Writing w) (source : Mem UInt8) (count : UInt32) : Writing w where
  data := writing.data.blit writing.off.toNat count.toNat source
  off := Pointer.advance writing.off count.toNat
  writes := writing.writes ++ [⟨writing.off.toNat, count.toNat⟩]

/-- The number of payload bytes that `PushFrame` copies. -/
def datasize (frame : Frame w) : UInt32 := frame.size - UInt32.ofNat offsetofDataPtr

theorem toNat_datasize {frame : Frame w} (holdsHeader : offsetofDataPtr ≤ frame.size.toNat) :
    (datasize frame).toNat = frame.size.toNat - offsetofDataPtr :=
  Frame.toNat_size_sub holdsHeader

variable (E : Endianness)

/-- The copy of a frame, its payload read from the caller's memory. -/
def copyFrame (caller raw : Mem UInt8) (frame : Frame w) : Writing w :=
  let writing : Writing w := ⟨raw, 0, []⟩
  let writing := writing.memcpy (.ofList [frame.type]) 1
  let writing := writing.memcpy (.ofList [frame.id]) 1
  let writing := writing.memcpy (.ofList [frame.seq]) 1
  let framesize := E.htodl frame.size
  let writing := writing.memcpy (.ofList (E.hostOrder.bytes framesize)) 4
  writing.memcpy (caller.view frame.dataPtr.toNat) (datasize frame)

/-- The last line of `PushFrame`. -/
def returnOf (res : ℤ) : ManagerReturn := if res = 0 then .default else .networkError

/-- `ARNETWORKAL_MuxNetwork_PushFrame`. -/
def pushFrame (caller : Mem UInt8) (answers : PushAnswers) (senderObject : MuxNetworkObject w β)
    (frame : Frame w) : PushOutcome w β :=
  match answers.buffer with
  -- `res` still has its first value
  | none => ⟨returnOf 0, senderObject, none, 0, false, [], []⟩
  | some raw =>
      if answers.getData < 0 then
        ⟨returnOf answers.getData, senderObject, none, 1, false, [], []⟩
      else
        let written := copyFrame E caller raw frame
        let reads : List Region := [⟨frame.dataPtr.toNat, (datasize frame).toNat⟩]
        if answers.setLen < 0 then
          ⟨returnOf answers.setLen, senderObject, none, 1, false, written.writes, reads⟩
        else
          let encoded := written.data.slice 0 written.off.toNat
          if answers.encode < 0 then
            let (senderObject, notified) := senderObject.disconnect
            ⟨returnOf answers.encode, senderObject, some encoded, 1, notified, written.writes,
              reads⟩
          else
            ⟨returnOf answers.encode, senderObject, some encoded, 1, false, written.writes, reads⟩

/-! ## The bytes of a frame -/

/-- What was copied so far is `bytes`, from the start of the buffer. -/
structure Filled (writing : Writing w) (bytes : List UInt8) : Prop where
  data : writing.data.slice 0 bytes.length = bytes
  off : writing.off.toNat = bytes.length

namespace Filled

variable {writing : Writing w} {bytes : List UInt8}

/-- Copying extends it by what is copied. -/
theorem memcpy (filled : Filled writing bytes) (source : Mem UInt8) (count : UInt32)
    (room : bytes.length + count.toNat < 2 ^ w) :
    Filled (writing.memcpy source count) (bytes ++ source.slice 0 count.toNat) := by
  have off := filled.off
  constructor
  · rw [List.length_append, Mem.length_slice]
    have copied := Mem.slice_blit_append writing.data source 0 bytes.length count.toNat
    rw [Nat.zero_add, filled.data] at copied
    rw [Writing.memcpy, off]
    exact copied
  · rw [List.length_append, Mem.length_slice, Writing.memcpy, Pointer.toNat_advance, off]
    rw [off]
    exact room

/-- A short list copied whole. -/
theorem memcpyList (filled : Filled writing bytes) (source : List UInt8) (count : UInt32)
    (counted : source.length = count.toNat) (room : bytes.length + count.toNat < 2 ^ w) :
    Filled (writing.memcpy (.ofList source) count) (bytes ++ source) := by
  have copied := filled.memcpy (.ofList source) count room
  rwa [← counted, Mem.slice_ofList] at copied

end Filled

/-- **A frame that counts a header is copied as its bytes on the wire.** -/
theorem copyFrame_filled (word : 32 ≤ w) (caller raw : Mem UInt8) {frame : Frame w}
    (holdsHeader : offsetofDataPtr ≤ frame.size.toNat) :
    Filled (copyFrame E caller raw frame) (wire E (frame.content caller)) := by
  have space : 2 ^ 32 ≤ 2 ^ w := Nat.pow_le_pow_right Nat.two_pos word
  have bounded : frame.size.toNat < 2 ^ 32 := UInt32.toNat_lt _
  have payload := toNat_datasize holdsHeader
  rw [offsetofDataPtr_eq] at holdsHeader payload
  have started : Filled (⟨raw, 0, []⟩ : Writing w) [] := ⟨rfl, by simp⟩
  have typed := started.memcpyList [frame.type] 1 rfl (by simp; omega)
  have identified := typed.memcpyList [frame.id] 1 rfl (by simp; omega)
  have numbered := identified.memcpyList [frame.seq] 1 rfl (by simp; omega)
  have measured := numbered.memcpyList (E.hostOrder.bytes (E.htodl frame.size)) 4
    (by simp) (by simp; omega)
  have filled := measured.memcpy (caller.view frame.dataPtr.toNat) (datasize frame)
    (by simp; omega)
  have spelled : wire E (frame.content caller) =
      [] ++ [frame.type] ++ [frame.id] ++ [frame.seq] ++
        E.hostOrder.bytes (E.htodl frame.size) ++
          (caller.view frame.dataPtr.toNat).slice 0 (datasize frame).toNat := by
    simp [wire, header, Frame.content, payload]
  rw [spelled]
  exact filled

section

variable (caller : Mem UInt8) {answers : PushAnswers} (senderObject : MuxNetworkObject w β)
  (frame : Frame w)

/-- Without a buffer nothing happens, and `res` still has its first value. -/
theorem pushFrame_unallocated (unallocated : answers.buffer = none) :
    pushFrame E caller answers senderObject frame =
      ⟨.default, senderObject, none, 0, false, [], []⟩ := by
  simp only [pushFrame, unallocated]
  rfl

/-- A new buffer that cannot be filled is not sent. -/
theorem pushFrame_unfilled {raw : Mem UInt8} (allocated : answers.buffer = some raw)
    (failed : answers.getData < 0 ∨ answers.setLen < 0) :
    (pushFrame E caller answers senderObject frame).result = .networkError ∧
      (pushFrame E caller answers senderObject frame).senderObject = senderObject ∧
      (pushFrame E caller answers senderObject frame).encoded = none := by
  simp only [pushFrame, allocated, returnOf]
  by_cases unread : answers.getData < 0
  · rw [if_pos unread]
    exact ⟨if_neg (Int.ne_of_lt unread), rfl, rfl⟩
  · have unset := failed.resolve_left unread
    rw [if_neg unread, if_pos unset]
    exact ⟨if_neg (Int.ne_of_lt unset), rfl, rfl⟩

/-- A buffer that is filled is given to the mux, whose answer is the result. -/
theorem pushFrame_filled {raw : Mem UInt8} (allocated : answers.buffer = some raw)
    (read : ¬ answers.getData < 0) (set : ¬ answers.setLen < 0) :
    (pushFrame E caller answers senderObject frame).result = returnOf answers.encode ∧
      (pushFrame E caller answers senderObject frame).encoded =
        some ((copyFrame E caller raw frame).data.slice 0
          (copyFrame E caller raw frame).off.toNat) := by
  simp only [pushFrame, allocated, if_neg read, if_neg set]
  split
  · exact ⟨rfl, rfl⟩
  · exact ⟨rfl, rfl⟩

end

/-! ## Receive -/

/-- What `mux_queue_timed_get_buf` answers. With an error no buffer is handed out. -/
inductive QueueAnswer (β : Type) where
  | buffer (buffer : β)
  | epipe
  | etimedout
  | failed
  deriving DecidableEq, Repr

/-- What a call of `Receive` returns and does: the object afterwards, the buffers it
releases, whether it used the queue, and whether the callback was called. -/
structure ReceiveOutcome (w : ℕ) (β : Type) where
  result : ManagerReturn
  receiverObject : MuxNetworkObject w β
  unrefs : List β
  queueUsed : Bool
  notified : Bool

/-- The buffers in the two slots. -/
def MuxNetworkObject.slots (object : MuxNetworkObject w β) : List β :=
  object.rxbufRecv.toList ++ object.rxbufPop.toList

/-- The previous buffers are released. -/
def MuxNetworkObject.released (object : MuxNetworkObject w β) : MuxNetworkObject w β :=
  { object with rxbufRecv := none, rxbufPop := none }

/-- `ARNETWORKAL_MuxNetwork_Receive`. -/
def receive (answer : QueueAnswer β) (receiverObject : MuxNetworkObject w β) :
    ReceiveOutcome w β :=
  let unrefs := receiverObject.slots
  let receiverObject := receiverObject.released
  if receiverObject.rxqueue = 0 then ⟨.networkError, receiverObject, unrefs, false, false⟩
  else
    match answer with
    | .buffer buffer =>
        ⟨.default, { receiverObject with rxbufRecv := some buffer }, unrefs, true, false⟩
    | .epipe | .etimedout =>
        let (receiverObject, notified) := { receiverObject with rxqueue := 0 }.disconnect
        ⟨.networkError, receiverObject, unrefs, true, notified⟩
    | .failed => ⟨.networkError, receiverObject, unrefs, true, false⟩

/-- A buffer that is handed out is the received one. -/
theorem receive_buffer (buffer : β) {object : MuxNetworkObject w β} (queue : object.rxqueue ≠ 0) :
    receive (.buffer buffer) object =
      ⟨.default, { object.released with rxbufRecv := some buffer }, object.slots, true, false⟩ :=
  if_neg queue

/-- **`Receive` by the queue and its answer.** -/
theorem receive_cases (answer : QueueAnswer β) (object : MuxNetworkObject w β) :
    (object.rxqueue = 0 ∧
      receive answer object = ⟨.networkError, object.released, object.slots, false, false⟩) ∨
    (object.rxqueue ≠ 0 ∧ ∃ buffer, answer = .buffer buffer ∧
      receive answer object =
        ⟨.default, { object.released with rxbufRecv := some buffer }, object.slots, true,
          false⟩) ∨
    (object.rxqueue ≠ 0 ∧ (answer = .epipe ∨ answer = .etimedout) ∧ ∃ disconnected notified,
      receive answer object =
        ⟨.networkError, { object.released with rxqueue := 0, disconnected := disconnected },
          object.slots, true, notified⟩) ∨
    (object.rxqueue ≠ 0 ∧ answer = .failed ∧
      receive answer object = ⟨.networkError, object.released, object.slots, true, false⟩) := by
  by_cases queue : object.rxqueue = 0
  · exact .inl ⟨queue, if_pos queue⟩
  · have closing : ∃ disconnected notified,
        { object.released with rxqueue := 0 }.disconnect =
          ({ object.released with rxqueue := 0, disconnected := disconnected }, notified) := by
      obtain ⟨disconnected, same⟩ := { object.released with rxqueue := 0 }.disconnect_object
      exact ⟨disconnected, _, Prod.ext same rfl⟩
    obtain ⟨disconnected, notified, closed⟩ := closing
    cases answer with
    | buffer buffer => exact .inr (.inl ⟨queue, buffer, rfl, if_neg queue⟩)
    | epipe =>
        refine .inr (.inr (.inl ⟨queue, .inl rfl, disconnected, notified, ?_⟩))
        rw [receive]
        simp only [closed]
        exact if_neg queue
    | etimedout =>
        refine .inr (.inr (.inl ⟨queue, .inr rfl, disconnected, notified, ?_⟩))
        rw [receive]
        simp only [closed]
        exact if_neg queue
    | failed => exact .inr (.inr (.inr ⟨queue, rfl, if_neg queue⟩))

/-! ## PopFrame -/

/-- The data that `pomp_buffer_get_cdata` gives: their address, and the bytes there. -/
structure Cdata (w : ℕ) where
  data : BitVec w
  bytes : List UInt8
  deriving DecidableEq, Repr

/-- What a frame says whose payload pointer leads into the data. -/
def Cdata.content (cdata : Cdata w) (frame : Frame w) : Message where
  type := frame.type
  id := frame.id
  seq := frame.seq
  size := frame.size
  payload :=
    (cdata.bytes.drop (frame.dataPtr - cdata.data).toNat).take
      (frame.size.toNat - offsetofDataPtr)

/-- What a call of `PopFrame` returns and does: the object afterwards, the frame, and the
buffer it took, if any. -/
structure PopOutcome (w : ℕ) (β : Type) where
  result : ManagerReturn
  receiverObject : MuxNetworkObject w β
  frame : Frame w
  popped : Option β

/-- The header at the start of the data. The payload pointer is set later. -/
def readHeader (cdata : Cdata w) (frame : Frame w) : Frame w :=
  { frame with
    type := cdata.bytes.getD 0 0
    id := cdata.bytes.getD 1 0
    seq := cdata.bytes.getD 2 0
    size := sizeField E ((cdata.bytes.drop 3).take 4) }

/-- The part of `PopFrame` that reads the data. -/
def readFrame (cdata : Cdata w) (frame : Frame w) : ManagerReturn × Frame w :=
  if cdata.bytes.length < 7 then (.badFrame, frame)
  else
    let frame := readHeader E cdata frame
    if cdata.bytes.length < frame.size.toNat then (.badFrame, frame)
    else (.default, { frame with dataPtr := Pointer.advance cdata.data 7 })

/-- `ARNETWORKAL_MuxNetwork_PopFrame`, from what the frame holds before. -/
def popFrame (getCdata : β → Option (Cdata w)) (receiverObject : MuxNetworkObject w β)
    (frame : Frame w) : PopOutcome w β :=
  match receiverObject.rxbufRecv with
  | none => ⟨.bufferEmpty, receiverObject, frame, none⟩
  | some buffer =>
      if receiverObject.rxbufPop.isSome then ⟨.networkError, receiverObject, frame, none⟩
      else
        let receiverObject :=
          { receiverObject with rxbufPop := some buffer, rxbufRecv := none }
        match getCdata buffer with
        | none => ⟨.networkError, receiverObject, frame, some buffer⟩
        | some cdata =>
            let (result, frame) := readFrame E cdata frame
            ⟨result, receiverObject, frame, some buffer⟩

section

variable (getCdata : β → Option (Cdata w)) {object : MuxNetworkObject w β} (frame : Frame w)

theorem popFrame_none (nothing : object.rxbufRecv = none) :
    popFrame E getCdata object frame = ⟨.bufferEmpty, object, frame, none⟩ := by
  simp only [popFrame, nothing]

/-- The received buffer is taken where no buffer was taken before. -/
theorem popFrame_some {buffer : β} (received : object.rxbufRecv = some buffer)
    (free : object.rxbufPop = none) {cdata : Cdata w} (read : getCdata buffer = some cdata) :
    popFrame E getCdata object frame =
      ⟨(readFrame E cdata frame).1, { object with rxbufPop := some buffer, rxbufRecv := none },
        (readFrame E cdata frame).2, some buffer⟩ := by
  simp only [popFrame, received, free, read, Option.isSome_none, Bool.false_eq_true, if_false]

/-- **`PopFrame` by its two slots.** -/
theorem popFrame_cases :
    (object.rxbufRecv = none ∧
      popFrame E getCdata object frame = ⟨.bufferEmpty, object, frame, none⟩) ∨
    (∃ buffer, object.rxbufRecv = some buffer ∧ object.rxbufPop ≠ none ∧
      popFrame E getCdata object frame = ⟨.networkError, object, frame, none⟩) ∨
    (∃ buffer, object.rxbufRecv = some buffer ∧ object.rxbufPop = none ∧ ∃ result filled,
      popFrame E getCdata object frame =
        ⟨result, { object with rxbufPop := some buffer, rxbufRecv := none }, filled,
          some buffer⟩) := by
  cases received : object.rxbufRecv with
  | none => exact .inl ⟨rfl, popFrame_none E getCdata frame received⟩
  | some buffer =>
      cases present : object.rxbufPop with
      | some other =>
          refine .inr (.inl ⟨buffer, rfl, by simp, ?_⟩)
          simp only [popFrame, received, present, Option.isSome_some, if_true]
      | none =>
          refine .inr (.inr ⟨buffer, rfl, rfl, ?_⟩)
          cases read : getCdata buffer with
          | none =>
              refine ⟨.networkError, frame, ?_⟩
              simp only [popFrame, received, present, read, Option.isSome_none,
                Bool.false_eq_true, if_false]
          | some cdata => exact ⟨_, _, popFrame_some E getCdata frame received present read⟩

/-- The first call after a buffer was handed out takes it. -/
theorem popFrame_received {buffer : β} (queue : object.rxqueue ≠ 0) {cdata : Cdata w}
    (read : getCdata buffer = some cdata) :
    popFrame E getCdata (receive (.buffer buffer) object).receiverObject frame =
      ⟨(readFrame E cdata frame).1, { object.released with rxbufPop := some buffer },
        (readFrame E cdata frame).2, some buffer⟩ := by
  rw [receive_buffer buffer queue]
  exact popFrame_some E getCdata frame rfl rfl read

end

/-- A frame is taken when the header is there and counts no more bytes than there are. -/
theorem readFrame_default_iff (cdata : Cdata w) (frame : Frame w) :
    (readFrame E cdata frame).1 = .default ↔
      7 ≤ cdata.bytes.length ∧
        (readHeader E cdata frame).size.toNat ≤ cdata.bytes.length := by
  simp only [readFrame]
  split
  · exact iff_of_false (by simp) (by omega)
  · split
    · exact iff_of_false (by simp) (by omega)
    · exact iff_of_true rfl (by omega)

theorem readFrame_of_default {cdata : Cdata w} {frame : Frame w}
    (taken : (readFrame E cdata frame).1 = .default) :
    (readFrame E cdata frame).2 =
      { readHeader E cdata frame with dataPtr := Pointer.advance cdata.data 7 } := by
  obtain ⟨header, inside⟩ := (readFrame_default_iff E cdata frame).mp taken
  rw [readFrame, if_neg (Nat.not_lt.mpr header)]
  simp only [if_neg (Nat.not_lt.mpr inside)]

/-- Any other frame is a bad one. -/
theorem readFrame_of_ne_default {cdata : Cdata w} {frame : Frame w}
    (refused : (readFrame E cdata frame).1 ≠ .default) :
    (readFrame E cdata frame).1 = .badFrame := by
  simp only [readFrame] at refused ⊢
  split
  · rfl
  · rename_i header
    rw [if_neg header] at refused
    split
    · rfl
    · rename_i inside
      rw [if_neg inside] at refused
      exact absurd rfl refused

end MuxNetwork

end ARNetworkAL
