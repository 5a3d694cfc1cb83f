import ARNetworkAL.Wifi.Object

/-!
# The WiFi sender

`PushFrame` appends a frame to the queue in the sender's buffer, and `Send`
hands the whole queue to the socket. What the operating system answers is an
argument of each function.

A frame is copied by five `memcpy`, each followed by an increment of the cursor
and of the size (`Appending.memcpy`). While the buffer has room, the bytes in use
are the bytes that were copied, in order (`Queued.appendFrame`).
-/

set_option autoImplicit false

namespace ARNetworkAL

open Library

namespace WifiNetwork

variable {w : ℕ}

/-! ## The room in the socket -/

/-- What `ioctl (TIOCOUTQ)` answers. -/
inductive OutqAnswer where
  | bytes (currentBytesInSocket : ℤ)
  | failed (err : Errno)
  deriving DecidableEq, Repr

/-- `ARNETWORKAL_WifiNetwork_GetAvailableSendSize`: the room in the socket,
negative when it is not known, and the sender object afterwards. -/
def getAvailableSendSize (answer : OutqAnswer) (senderObject : WifiNetworkObject w) :
    ℤ × WifiNetworkObject w :=
  if senderObject.socketBufferSize < 0 then (-1, senderObject)
  else
    match answer with
    | .bytes currentBytesInSocket =>
        let available := senderObject.socketBufferSize - currentBytesInSocket
        (if available < 0 then 0 else available, senderObject)
    | .failed .enxio => (-1, { senderObject with socketBufferSize := -1 })
    | .failed _ => (-1, senderObject)

/-- The query touches one field at most. -/
theorem getAvailableSendSize_object (answer : OutqAnswer) (senderObject : WifiNetworkObject w) :
    ∃ socketBufferSize, (getAvailableSendSize answer senderObject).2 =
      { senderObject with socketBufferSize := socketBufferSize } := by
  simp only [getAvailableSendSize]
  split
  · exact ⟨_, rfl⟩
  · split
    · exact ⟨_, rfl⟩
    · exact ⟨_, rfl⟩
    · exact ⟨_, rfl⟩

/-! ## Copying a frame -/

/-- A sender object while a frame is copied into it, and the blocks written so far. -/
structure Appending (w : ℕ) where
  object : WifiNetworkObject w
  writes : List Region

/-- `memcpy` to the cursor, then `currentFrame += count` and `size += count`. -/
def Appending.memcpy (appending : Appending w) (source : Mem UInt8) (count : UInt32) :
    Appending w where
  object :=
    { appending.object with
      heap :=
        appending.object.heap.blit appending.object.currentFrame.toNat count.toNat source
      currentFrame := Pointer.advance appending.object.currentFrame count.toNat
      size := appending.object.size + count }
  writes := appending.writes ++ [⟨appending.object.currentFrame.toNat, count.toNat⟩]

/-- The number of payload bytes that `PushFrame` copies. -/
def dataSize (frame : Frame w) : UInt32 := frame.size - UInt32.ofNat offsetofDataPtr

variable (E : Endianness)

/-- The copy of a frame, its payload read from the caller's memory. -/
def appendFrame (caller : Mem UInt8) (senderObject : WifiNetworkObject w) (frame : Frame w) :
    Appending w :=
  let appending : Appending w := ⟨senderObject, []⟩
  let appending := appending.memcpy (.ofList [frame.type]) 1
  let appending := appending.memcpy (.ofList [frame.id]) 1
  let appending := appending.memcpy (.ofList [frame.seq]) 1
  let droneEndianUInt32 := E.htodl frame.size
  let appending := appending.memcpy (.ofList (E.hostOrder.bytes droneEndianUInt32)) 4
  appending.memcpy (caller.view frame.dataPtr.toNat) (dataSize frame)

/-! ## PushFrame -/

/-- What a call of `PushFrame` returns and does: the object afterwards, the
blocks it writes in the buffer and those it reads from the caller's memory. -/
structure PushOutcome (w : ℕ) where
  result : ManagerReturn
  senderObject : WifiNetworkObject w
  writes : List Region
  reads : List Region

/-- `ARNETWORKAL_WifiNetwork_PushFrame`. -/
def pushFrame (caller : Mem UInt8) (answer : OutqAnswer) (senderObject : WifiNetworkObject w)
    (frame : Frame w) : PushOutcome w :=
  let nextSize := senderObject.size + frame.size
  if sendingBufferSize < nextSize.toNat then ⟨.bufferFull, senderObject, [], []⟩
  else
    let (availableSpaceInSocket, senderObject) := getAvailableSendSize answer senderObject
    -- a negative answer accepts the frame anyway
    if 0 ≤ availableSpaceInSocket ∧ UInt32.ofNat availableSpaceInSocket.toNat < nextSize then
      ⟨.bufferFull, senderObject, [], []⟩
    else
      let appended := appendFrame E caller senderObject frame
      ⟨.default, appended.object, appended.writes,
        [⟨frame.dataPtr.toNat, (dataSize frame).toNat⟩]⟩

/-- The two tests by which `PushFrame` takes a frame. -/
def Admits (answer : OutqAnswer) (senderObject : WifiNetworkObject w) (frame : Frame w) : Prop :=
  (senderObject.size + frame.size).toNat ≤ sendingBufferSize ∧
    (0 ≤ (getAvailableSendSize answer senderObject).1 →
      senderObject.size + frame.size ≤
        UInt32.ofNat (getAvailableSendSize answer senderObject).1.toNat)

instance (answer : OutqAnswer) (senderObject : WifiNetworkObject w) (frame : Frame w) :
    Decidable (Admits answer senderObject frame) :=
  inferInstanceAs (Decidable (_ ∧ _))

/-- A frame that is refused leaves everything but the known size of the socket buffer. -/
theorem pushFrame_refused (caller : Mem UInt8) {answer : OutqAnswer}
    {senderObject : WifiNetworkObject w} {frame : Frame w}
    (refused : ¬ Admits answer senderObject frame) :
    ∃ socketBufferSize, pushFrame E caller answer senderObject frame =
      ⟨.bufferFull, { senderObject with socketBufferSize := socketBufferSize }, [], []⟩ := by
  obtain ⟨socketBufferSize, asked⟩ := getAvailableSendSize_object answer senderObject
  simp only [pushFrame]
  split
  · exact ⟨senderObject.socketBufferSize, rfl⟩
  · rename_i small
    have full : 0 ≤ (getAvailableSendSize answer senderObject).1 ∧
        UInt32.ofNat (getAvailableSendSize answer senderObject).1.toNat <
          senderObject.size + frame.size := by
      rw [Admits, not_and, Classical.not_imp] at refused
      obtain ⟨known, exceeds⟩ := refused (Nat.le_of_not_lt small)
      exact ⟨known, UInt32.not_le.mp exceeds⟩
    rw [if_pos full, asked]
    exact ⟨socketBufferSize, rfl⟩

/-- A frame that is taken is copied. -/
theorem pushFrame_admitted (caller : Mem UInt8) {answer : OutqAnswer}
    {senderObject : WifiNetworkObject w} {frame : Frame w}
    (admitted : Admits answer senderObject frame) :
    ∃ socketBufferSize, pushFrame E caller answer senderObject frame =
      ⟨.default,
        (appendFrame E caller { senderObject with socketBufferSize := socketBufferSize }
          frame).object,
        (appendFrame E caller { senderObject with socketBufferSize := socketBufferSize }
          frame).writes,
        [⟨frame.dataPtr.toNat, (dataSize frame).toNat⟩]⟩ := by
  obtain ⟨socketBufferSize, asked⟩ := getAvailableSendSize_object answer senderObject
  have room : ¬ (0 ≤ (getAvailableSendSize answer senderObject).1 ∧
      UInt32.ofNat (getAvailableSendSize answer senderObject).1.toNat <
        senderObject.size + frame.size) := by
    rintro ⟨known, exceeds⟩
    exact UInt32.not_le.mpr exceeds (admitted.2 known)
  simp only [pushFrame, if_neg (Nat.not_lt.mpr admitted.1), if_neg room, asked]
  exact ⟨socketBufferSize, rfl⟩

theorem pushFrame_result (caller : Mem UInt8) (answer : OutqAnswer)
    (senderObject : WifiNetworkObject w) (frame : Frame w) :
    (pushFrame E caller answer senderObject frame).result =
      if Admits answer senderObject frame then .default else .bufferFull := by
  split
  · rename_i admitted
    obtain ⟨_, outcome⟩ := pushFrame_admitted E caller admitted
    rw [outcome]
  · rename_i refused
    obtain ⟨_, outcome⟩ := pushFrame_refused E caller refused
    rw [outcome]

/-! ## Send -/

/-- What `ARSAL_Socket_Send` answers. -/
inductive SocketSend where
  | sent (bytes : ℕ)
  | failed (err : Errno)
  deriving DecidableEq, Repr

/-- What a call of `Send` returns and does: the object afterwards, the datagram
that left and whether the disconnection callback was called. -/
structure SendOutcome (w : ℕ) where
  result : ManagerReturn
  senderObject : WifiNetworkObject w
  datagram : Option (List UInt8)
  notified : Bool

/-- The queue is dropped: `size = 0` and `currentFrame = buffer`. -/
def WifiNetworkObject.clearQueue (object : WifiNetworkObject w) : WifiNetworkObject w :=
  { object with size := 0, currentFrame := object.buffer }

/-- `ARNETWORKAL_WifiNetwork_Send`. -/
def send (answer : SocketSend) (senderObject : WifiNetworkObject w)
    (receiverObject : Option (WifiNetworkObject w)) : SendOutcome w :=
  if senderObject.size = 0 then ⟨.default, senderObject, none, false⟩
  else
    match answer with
    | .sent bytes =>
        ⟨.default,
          { senderObject.clearQueue with
            bwCurrent := senderObject.bwCurrent + UInt32.ofNat bytes },
          some (senderObject.window.take bytes), false⟩
    | .failed .eagain => ⟨.networkError, senderObject.clearQueue, none, false⟩
    | .failed _ =>
        if senderObject.isDisconnected = 0 then
          ⟨.networkError, { senderObject with isDisconnected := 1 }, none,
            senderObject.onDisconnect ≠ 0 &&
              receiverObject.all fun receiver => receiver.isDisconnected == 0⟩
        else ⟨.networkError, senderObject, none, false⟩

section

variable (answer : SocketSend) {senderObject : WifiNetworkObject w}
  (receiverObject : Option (WifiNetworkObject w))

/-- An empty queue is not sent. -/
theorem send_empty (empty : senderObject.size = 0) :
    send answer senderObject receiverObject = ⟨.default, senderObject, none, false⟩ :=
  if_pos empty

theorem send_sent (bytes : ℕ) (some : senderObject.size ≠ 0) :
    send (.sent bytes) senderObject receiverObject =
      ⟨.default,
        { senderObject.clearQueue with
          bwCurrent := senderObject.bwCurrent + UInt32.ofNat bytes },
        .some (senderObject.window.take bytes), false⟩ :=
  if_neg some

theorem send_eagain (some : senderObject.size ≠ 0) :
    send (.failed .eagain) senderObject receiverObject =
      ⟨.networkError, senderObject.clearQueue, none, false⟩ :=
  if_neg some

/-- Another error sets the sender's flag, and calls the callback unless the receiver's is set. -/
theorem send_failed {err : Errno} (other : err ≠ .eagain) (some : senderObject.size ≠ 0) :
    send (.failed err) senderObject receiverObject =
      if senderObject.isDisconnected = 0 then
        ⟨.networkError, { senderObject with isDisconnected := 1 }, none,
          senderObject.onDisconnect ≠ 0 &&
            receiverObject.all fun receiver => receiver.isDisconnected == 0⟩
      else ⟨.networkError, senderObject, none, false⟩ := by
  cases err with
  | eagain => exact absurd rfl other
  | enxio => exact if_neg some
  | eacces => exact if_neg some
  | other code => exact if_neg some

/-- It touches one flag at most. -/
theorem send_error {err : Errno} (other : err ≠ .eagain) (some : senderObject.size ≠ 0) :
    ∃ isDisconnected notified, send (.failed err) senderObject receiverObject =
      ⟨.networkError, { senderObject with isDisconnected := isDisconnected }, none,
        notified⟩ := by
  rw [send_failed receiverObject other some]
  split
  · exact ⟨_, _, rfl⟩
  · exact ⟨_, _, rfl⟩

end

/-- **`Send` by what is queued and what the socket answers.** -/
theorem send_cases (answer : SocketSend) (senderObject : WifiNetworkObject w)
    (receiverObject : Option (WifiNetworkObject w)) :
    (senderObject.size = 0 ∧
      send answer senderObject receiverObject = ⟨.default, senderObject, none, false⟩) ∨
    (senderObject.size ≠ 0 ∧ ∃ bytes, answer = .sent bytes ∧
      send answer senderObject receiverObject =
        ⟨.default,
          { senderObject.clearQueue with
            bwCurrent := senderObject.bwCurrent + UInt32.ofNat bytes },
          some (senderObject.window.take bytes), false⟩) ∨
    (senderObject.size ≠ 0 ∧ answer = .failed .eagain ∧
      send answer senderObject receiverObject =
        ⟨.networkError, senderObject.clearQueue, none, false⟩) ∨
    (senderObject.size ≠ 0 ∧ ∃ err, err ≠ .eagain ∧ answer = .failed err ∧
      ∃ isDisconnected notified, send answer senderObject receiverObject =
        ⟨.networkError, { senderObject with isDisconnected := isDisconnected }, none,
          notified⟩) := by
  by_cases empty : senderObject.size = 0
  · exact .inl ⟨empty, send_empty answer receiverObject empty⟩
  · cases answer with
    | sent bytes => exact .inr (.inl ⟨empty, bytes, rfl, send_sent receiverObject bytes empty⟩)
    | failed err =>
        by_cases again : err = .eagain
        · subst again
          exact .inr (.inr (.inl ⟨empty, rfl, send_eagain receiverObject empty⟩))
        · exact .inr (.inr (.inr ⟨empty, err, again, rfl, send_error receiverObject again empty⟩))

/-! ## The bytes in the queue -/

/-- The queue as `New` leaves it. The socket, what is known of its size and the
callback are what the later calls make them. -/
structure QueueAsNew (object : WifiNetworkObject w) : Prop where
  placed : Placed object.buffer
  size : object.size = 0
  currentFrame : object.currentFrame = object.buffer

theorem queueAsNew_connected (raw : WifiNetworkObject w) {buffer : BitVec w}
    (placed : Placed buffer) (socket : ℤ) (fifo : ℤ × ℤ) (socketBufferSize : ℤ) :
    QueueAsNew ((newSender raw buffer).connected socket fifo socketBufferSize) :=
  ⟨placed, rfl, rfl⟩

/-- The sender's buffer holds the bytes `bytes`, and its cursor is after them. -/
structure Queued (object : WifiNetworkObject w) (bytes : List UInt8) : Prop where
  placed : Placed object.buffer
  window : object.window = bytes
  within : bytes.length ≤ sendingBufferSize
  cursor : object.currentFrame = object.bufferEnd

namespace Queued

variable {object : WifiNetworkObject w} {bytes : List UInt8}

theorem size (queued : Queued object bytes) : object.size.toNat = bytes.length := by
  rw [← queued.window, length_window]

theorem of_queueAsNew (asNew : QueueAsNew object) : Queued object [] where
  placed := asNew.placed
  window := by simp [WifiNetworkObject.window, asNew.size]
  within := Nat.zero_le _
  cursor := by
    simp [WifiNetworkObject.bufferEnd, asNew.size, asNew.currentFrame, Pointer.advance]

theorem clearQueue (queued : Queued object bytes) : Queued object.clearQueue [] where
  placed := queued.placed
  window := rfl
  within := Nat.zero_le _
  cursor := by simp [WifiNetworkObject.bufferEnd, WifiNetworkObject.clearQueue, Pointer.advance]

/-- The cursor as a number. -/
theorem toNat_currentFrame (queued : Queued object bytes) :
    object.currentFrame.toNat = object.buffer.toNat + bytes.length := by
  have within := queued.within
  rw [queued.cursor, WifiNetworkObject.toNat_bufferEnd queued.placed, queued.size]
  rw [queued.size]
  exact within

/-- Copying what fits extends the queue by what is copied. -/
theorem memcpy {appending : Appending w} (queued : Queued appending.object bytes)
    (source : Mem UInt8) (count : UInt32)
    (room : bytes.length + count.toNat ≤ sendingBufferSize) :
    Queued (appending.memcpy source count).object (bytes ++ source.slice 0 count.toNat) := by
  have size := queued.size
  rw [sendingBufferSize_eq] at room
  have grown : (appending.object.size + count).toNat = bytes.length + count.toNat := by
    rw [UInt32.toNat_add, size, Nat.mod_eq_of_lt (by omega)]
  refine ⟨queued.placed, ?_, ?_, ?_⟩
  · simp only [WifiNetworkObject.window, Appending.memcpy, grown, queued.toNat_currentFrame]
    rw [Mem.slice_blit_append, ← size]
    exact congrArg (· ++ source.slice 0 count.toNat) queued.window
  · simpa using room
  · simp only [WifiNetworkObject.bufferEnd, Appending.memcpy, grown, queued.cursor]
    rw [Pointer.advance_advance, size]

/-- A short list copied whole. -/
theorem memcpyList {appending : Appending w} (queued : Queued appending.object bytes)
    (source : List UInt8) (count : UInt32) (counted : source.length = count.toNat)
    (room : bytes.length + count.toNat ≤ sendingBufferSize) :
    Queued (appending.memcpy (.ofList source) count).object (bytes ++ source) := by
  have copied := queued.memcpy (.ofList source) count room
  rwa [← counted, Mem.slice_ofList] at copied

end Queued

theorem toNat_dataSize {frame : Frame w} (holdsHeader : offsetofDataPtr ≤ frame.size.toNat) :
    (dataSize frame).toNat = frame.size.toNat - offsetofDataPtr := by
  have smaller : UInt32.ofNat offsetofDataPtr ≤ frame.size := by
    rw [UInt32.le_iff_toNat_le]
    exact holdsHeader
  rw [dataSize, UInt32.toNat_sub_of_le _ _ smaller]
  rfl

/-- **A frame that fits is appended as its bytes on the wire.** -/
theorem Queued.appendFrame {object : WifiNetworkObject w} {bytes : List UInt8}
    (queued : Queued object bytes) (caller : Mem UInt8) {frame : Frame w}
    (holdsHeader : offsetofDataPtr ≤ frame.size.toNat)
    (room : bytes.length + frame.size.toNat ≤ sendingBufferSize) :
    Queued (appendFrame E caller object frame).object
      (bytes ++ wire E (frame.content caller)) := by
  have payload := toNat_dataSize holdsHeader
  simp only [offsetofDataPtr_eq, sendingBufferSize_eq] at holdsHeader room payload
  have started : Queued (Appending.mk object []).object bytes := queued
  have typed := started.memcpyList [frame.type] 1 rfl (by simp; omega)
  have identified := typed.memcpyList [frame.id] 1 rfl (by simp; omega)
  have numbered := identified.memcpyList [frame.seq] 1 rfl (by simp; omega)
  have measured := numbered.memcpyList (E.hostOrder.bytes (E.htodl frame.size)) 4
    (by simp) (by simp; omega)
  have filled := measured.memcpy (caller.view frame.dataPtr.toNat) (dataSize frame)
    (by simp; omega)
  have spelled : bytes ++ wire E (frame.content caller) =
      bytes ++ [frame.type] ++ [frame.id] ++ [frame.seq] ++
        E.hostOrder.bytes (E.htodl frame.size) ++
          (caller.view frame.dataPtr.toNat).slice 0 (dataSize frame).toNat := by
    simp [wire, header, Frame.content, payload]
  rw [spelled]
  exact filled

/-- The blocks that such a frame is written to lie side by side after the queue. -/
theorem Queued.appendFrame_writes {object : WifiNetworkObject w} {bytes : List UInt8}
    (queued : Queued object bytes) (caller : Mem UInt8) {frame : Frame w}
    (holdsHeader : offsetofDataPtr ≤ frame.size.toNat)
    (room : bytes.length + frame.size.toNat ≤ sendingBufferSize) :
    (WifiNetwork.appendFrame E caller object frame).writes =
      [⟨object.buffer.toNat + bytes.length, 1⟩, ⟨object.buffer.toNat + bytes.length + 1, 1⟩,
        ⟨object.buffer.toNat + bytes.length + 2, 1⟩, ⟨object.buffer.toNat + bytes.length + 3, 4⟩,
        ⟨object.buffer.toNat + bytes.length + 7, frame.size.toNat - offsetofDataPtr⟩] := by
  have cursor := queued.toNat_currentFrame
  have high := queued.placed.high
  have payload := toNat_dataSize holdsHeader
  simp only [offsetofDataPtr_eq, sendingBufferSize_eq] at holdsHeader room high payload
  have moved (count : ℕ) (small : count ≤ 7) :
      (Pointer.advance object.currentFrame count).toNat =
        object.buffer.toNat + bytes.length + count := by
    rw [Pointer.toNat_advance (by omega), cursor]
  simp [WifiNetwork.appendFrame, Appending.memcpy, Pointer.advance_advance, moved, cursor, payload]

end WifiNetwork

end ARNetworkAL
