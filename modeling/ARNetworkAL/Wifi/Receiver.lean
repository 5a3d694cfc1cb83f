import ARNetworkAL.Wifi.Object

/-!
# The WiFi receiver

`Receive` waits for the socket, reads one datagram into the receiver's buffer and
keeps the state of the disconnection detection; `PopFrame` takes the frames out
of the buffer one by one.

What the operating system answers during one call of `Receive` is a
`ReceiveCall`: the outcome of `select`, the answers of `recv` in order, and the
dates that `ARSAL_Time_GetTime` gives at each place where the call reads the
clock. `ARSAL_Time_ComputeTimespecMsTimeDiff` is a parameter.
-/

set_option autoImplicit false

namespace ARNetworkAL

open Library

namespace WifiNetwork

variable {w : ℕ}

/-! ## What the operating system answers -/

/-- What `select` answers: a failure, or which of the socket and of the wake-up
pipe can be read (neither after a timeout). -/
inductive SelectAnswer where
  | failed
  | ready (socket fifo : Bool)
  deriving DecidableEq, Repr

/-- What `ARSAL_Socket_Recv` answers. No data is a size of zero. -/
inductive SocketRecv where
  | data (bytes : List UInt8)
  | failed (err : Errno)
  deriving DecidableEq, Repr

/-- The dates read in one call of `Receive`, by the place that reads them. -/
structure ReceiveClock where
  first : Timespec
  flushCheck : Timespec
  saveCheck : Timespec
  save : Timespec
  lostCheck : Timespec
  deriving DecidableEq, Repr

/-- A clock that stands still during the call. -/
def ReceiveClock.constant (date : Timespec) : ReceiveClock := ⟨date, date, date, date, date⟩

/-- The answers of the operating system during one call of `Receive`. A socket
that has no answer left has no data (`EAGAIN`). -/
structure ReceiveCall where
  select : SelectAnswer
  recvs : List SocketRecv
  clock : ReceiveClock
  deriving DecidableEq, Repr

/-- `ARSAL_Time_ComputeTimespecMsTimeDiff`: the milliseconds from the first date to the second. -/
abbrev TimeDiff := Timespec → Timespec → ℤ

/-- A date in milliseconds. -/
def Timespec.ms (date : Timespec) : ℤ := date.tvSec * 1000 + date.tvNsec / 1000000

/-- The numbers that an `int32_t` holds. -/
def FitsInt32 (number : ℤ) : Prop := -2 ^ 31 ≤ number ∧ number < 2 ^ 31

instance (number : ℤ) : Decidable (FitsInt32 number) := inferInstanceAs (Decidable (_ ∧ _))

/-- The difference of two dates is exact where an `int32_t` holds it. -/
def TimeDiff.Exact (timeDiff : TimeDiff) : Prop :=
  ∀ start finish, FitsInt32 (finish.ms - start.ms) →
    timeDiff start finish = finish.ms - start.ms

/-- The exact difference. -/
def exactDiff : TimeDiff := fun start finish => finish.ms - start.ms

theorem exactDiff_exact : exactDiff.Exact := fun _ _ _ => rfl

/-! ## Receive -/

/-- `ARNETWORKAL_WifiNetwork_IsTooLongWithoutReceive`, at a given date. The difference is put
in an `int32_t`. -/
def IsTooLongWithoutReceive (timeDiff : TimeDiff) (receiverObject : WifiNetworkObject w)
    (currentDate : Timespec) : Prop :=
  let timeWithoutReception :=
    Int32.ofInt (timeDiff receiverObject.lastDataReceivedDate currentDate)
  disconnectTimeoutMs < timeWithoutReception.toInt

instance (timeDiff : TimeDiff) (receiverObject : WifiNetworkObject w) (currentDate : Timespec) :
    Decidable (IsTooLongWithoutReceive timeDiff receiverObject currentDate) :=
  inferInstanceAs (Decidable (_ < _))

/-- Where the difference fits, the test is the one on milliseconds. -/
theorem isTooLong_iff {timeDiff : TimeDiff} (exact : timeDiff.Exact)
    {receiverObject : WifiNetworkObject w} {currentDate : Timespec}
    (fits : FitsInt32 (currentDate.ms - receiverObject.lastDataReceivedDate.ms)) :
    IsTooLongWithoutReceive timeDiff receiverObject currentDate ↔
      disconnectTimeoutMs < currentDate.ms - receiverObject.lastDataReceivedDate.ms := by
  have held := Int32.toInt_ofInt_of_le fits.1 fits.2
  simp only [IsTooLongWithoutReceive, exact _ _ fits, held]

/-- The test reads nothing of the object but its date. -/
theorem isTooLong_congr (timeDiff : TimeDiff) {object other : WifiNetworkObject w}
    (same : object.lastDataReceivedDate = other.lastDataReceivedDate) (currentDate : Timespec) :
    IsTooLongWithoutReceive timeDiff object currentDate ↔
      IsTooLongWithoutReceive timeDiff other currentDate := by
  simp only [IsTooLongWithoutReceive, same]

/-- The part of a datagram that `recv` puts in the buffer. -/
def received (bytes : List UInt8) : List UInt8 := bytes.take receivingBufferSize

/-- `recv` writes to the start of the buffer. -/
def WifiNetworkObject.fill (object : WifiNetworkObject w) (bytes : List UInt8) :
    WifiNetworkObject w :=
  { object with
    heap :=
      object.heap.blit object.buffer.toNat (received bytes).length (.ofList (received bytes)) }

/-- `ARNETWORKAL_WifiNetwork_FlushReceiveSocket`: the object afterwards and the
number of bytes read and dropped. -/
def flushReceiveSocket (receiverObject : WifiNetworkObject w) :
    List SocketRecv → WifiNetworkObject w × ℕ
  | [] =>
      if receiverObject.recvIsFlushed = 0 then ({ receiverObject with recvIsFlushed := 1 }, 0)
      else (receiverObject, 0)
  | answer :: answers =>
      if receiverObject.recvIsFlushed = 0 then
        match answer with
        | .data [] => ({ receiverObject with recvIsFlushed := 1 }, 0)
        | .failed .eagain => ({ receiverObject with recvIsFlushed := 1 }, 0)
        | .failed _ => (receiverObject, 0)
        | .data (byte :: bytes) =>
            let (flushed, dropped) :=
              flushReceiveSocket (receiverObject.fill (byte :: bytes)) answers
            (flushed, (received (byte :: bytes)).length + dropped)
      else (receiverObject, 0)

/-- The way a call of `Receive` took. -/
inductive ReceivePath where
  | selectError
  | flushed
  | read
  | notReady
  deriving DecidableEq, Repr

/-- What a call of `Receive` returns and does: the object afterwards, the way
taken, the number of bytes read from the socket, and whether the disconnection
callback was called and the wake-up pipe emptied. -/
structure ReceiveOutcome (w : ℕ) where
  result : ManagerReturn
  receiverObject : WifiNetworkObject w
  path : ReceivePath
  bytesRead : ℕ
  notified : Bool
  fifoDumped : Bool

/-- The date of the first call is a first date of reception. -/
def startReception (first : Timespec) (receiverObject : WifiNetworkObject w) :
    WifiNetworkObject w :=
  if receiverObject.lastDataReceivedDate.IsZero then
    { receiverObject with lastDataReceivedDate := first }
  else receiverObject

/-- The branch of `Receive` that reads a datagram, before the date is saved. -/
def readSocket (receiverObject : WifiNetworkObject w) :
    SocketRecv → ManagerReturn × WifiNetworkObject w × ℕ
  | .data [] => (.noDataAvailable, { receiverObject with size := 0 }, 0)
  | .data (byte :: bytes) =>
      let size := (received (byte :: bytes)).length
      (.default,
        { receiverObject.fill (byte :: bytes) with
          size := UInt32.ofNat size
          bwCurrent := receiverObject.bwCurrent + UInt32.ofNat size
          recvIsFlushed := 0 },
        size)
  | .failed _ => (.networkError, { receiverObject with size := 0 }, 0)

/-- The end of that branch: the date is saved if the last one is not too old. -/
def saveReceptionDate (timeDiff : TimeDiff) (clock : ReceiveClock)
    (receiverObject : WifiNetworkObject w) : WifiNetworkObject w :=
  if IsTooLongWithoutReceive timeDiff receiverObject clock.saveCheck then receiverObject
  else { receiverObject with lastDataReceivedDate := clock.save }

/-- The branch of `Receive` where the socket has nothing: the disconnection is
checked unless the wake-up pipe was written. -/
def checkDisconnection (timeDiff : TimeDiff) (lostCheck : Timespec) (fifoReady : Bool)
    (receiverObject : WifiNetworkObject w) (senderObject : Option (WifiNetworkObject w)) :
    WifiNetworkObject w × Bool :=
  if receiverObject.isDisconnected ≠ 1 ∧ fifoReady = false ∧
      IsTooLongWithoutReceive timeDiff receiverObject lostCheck then
    ({ receiverObject with isDisconnected := 1 },
      receiverObject.onDisconnect ≠ 0 && senderObject.all fun sender => sender.isDisconnected == 0)
  else (receiverObject, false)

/-- `Receive` up to its last assignment, once the first date is set. -/
def receiveReady (timeDiff : TimeDiff) (call : ReceiveCall) (receiverObject : WifiNetworkObject w)
    (senderObject : Option (WifiNetworkObject w)) : ReceiveOutcome w :=
  match call.select with
  | .failed => ⟨.networkError, { receiverObject with size := 0 }, .selectError, 0, false, false⟩
  | .ready true fifoReady =>
      if receiverObject.recvIsFlushed = 0 ∧
          IsTooLongWithoutReceive timeDiff receiverObject call.clock.flushCheck then
        let (flushed, dropped) := flushReceiveSocket receiverObject call.recvs
        ⟨.default, flushed, .flushed, dropped, false, fifoReady⟩
      else
        let (result, read, size) := readSocket receiverObject (call.recvs.headD (.failed .eagain))
        ⟨result, saveReceptionDate timeDiff call.clock read, .read, size, false, fifoReady⟩
  | .ready false fifoReady =>
      let (checked, notified) := checkDisconnection timeDiff call.clock.lostCheck fifoReady
        { receiverObject with size := 0 } senderObject
      ⟨.noDataAvailable, checked, .notReady, 0, notified, fifoReady⟩

section

variable (timeDiff : TimeDiff) {call : ReceiveCall} (receiverObject : WifiNetworkObject w)
  (senderObject : Option (WifiNetworkObject w)) {fifoReady : Bool}

theorem receiveReady_selectError (select : call.select = .failed) :
    receiveReady timeDiff call receiverObject senderObject =
      ⟨.networkError, { receiverObject with size := 0 }, .selectError, 0, false, false⟩ := by
  rw [receiveReady, select]

theorem receiveReady_flushed (select : call.select = .ready true fifoReady)
    (stale : receiverObject.recvIsFlushed = 0 ∧
      IsTooLongWithoutReceive timeDiff receiverObject call.clock.flushCheck) :
    receiveReady timeDiff call receiverObject senderObject =
      ⟨.default, (flushReceiveSocket receiverObject call.recvs).1, .flushed,
        (flushReceiveSocket receiverObject call.recvs).2, false, fifoReady⟩ := by
  simp only [receiveReady, select, if_pos stale]

theorem receiveReady_read (select : call.select = .ready true fifoReady)
    (fresh : ¬ (receiverObject.recvIsFlushed = 0 ∧
      IsTooLongWithoutReceive timeDiff receiverObject call.clock.flushCheck)) :
    receiveReady timeDiff call receiverObject senderObject =
      let read := readSocket receiverObject (call.recvs.headD (.failed .eagain))
      ⟨read.1, saveReceptionDate timeDiff call.clock read.2.1, .read, read.2.2, false,
        fifoReady⟩ := by
  simp only [receiveReady, select, if_neg fresh]

theorem receiveReady_notReady (select : call.select = .ready false fifoReady) :
    receiveReady timeDiff call receiverObject senderObject =
      let checked := checkDisconnection timeDiff call.clock.lostCheck fifoReady
        { receiverObject with size := 0 } senderObject
      ⟨.noDataAvailable, checked.1, .notReady, 0, checked.2, fifoReady⟩ := by
  simp only [receiveReady, select]

end

/-- **`Receive` by the way it takes.** -/
theorem receiveReady_cases (timeDiff : TimeDiff) (call : ReceiveCall)
    (receiverObject : WifiNetworkObject w) (senderObject : Option (WifiNetworkObject w)) :
    (call.select = .failed ∧
      receiveReady timeDiff call receiverObject senderObject =
        ⟨.networkError, { receiverObject with size := 0 }, .selectError, 0, false, false⟩) ∨
    (∃ fifoReady, call.select = .ready false fifoReady ∧
      receiveReady timeDiff call receiverObject senderObject =
        let checked := checkDisconnection timeDiff call.clock.lostCheck fifoReady
          { receiverObject with size := 0 } senderObject
        ⟨.noDataAvailable, checked.1, .notReady, 0, checked.2, fifoReady⟩) ∨
    (∃ fifoReady, call.select = .ready true fifoReady ∧
      (receiverObject.recvIsFlushed = 0 ∧
        IsTooLongWithoutReceive timeDiff receiverObject call.clock.flushCheck) ∧
      receiveReady timeDiff call receiverObject senderObject =
        ⟨.default, (flushReceiveSocket receiverObject call.recvs).1, .flushed,
          (flushReceiveSocket receiverObject call.recvs).2, false, fifoReady⟩) ∨
    (∃ fifoReady, call.select = .ready true fifoReady ∧
      ¬ (receiverObject.recvIsFlushed = 0 ∧
        IsTooLongWithoutReceive timeDiff receiverObject call.clock.flushCheck) ∧
      receiveReady timeDiff call receiverObject senderObject =
        let read := readSocket receiverObject (call.recvs.headD (.failed .eagain))
        ⟨read.1, saveReceptionDate timeDiff call.clock read.2.1, .read, read.2.2, false,
          fifoReady⟩) := by
  rcases select : call.select with _ | ⟨_ | _, fifoReady⟩
  · exact .inl ⟨rfl, receiveReady_selectError timeDiff _ _ select⟩
  · exact .inr (.inl ⟨fifoReady, rfl, receiveReady_notReady timeDiff _ _ select⟩)
  · by_cases stale : receiverObject.recvIsFlushed = 0 ∧
        IsTooLongWithoutReceive timeDiff receiverObject call.clock.flushCheck
    · have flushed := receiveReady_flushed timeDiff receiverObject senderObject select stale
      exact .inr (.inr (.inl ⟨fifoReady, rfl, stale, flushed⟩))
    · have read := receiveReady_read timeDiff receiverObject senderObject select stale
      exact .inr (.inr (.inr ⟨fifoReady, rfl, stale, read⟩))

/-- `ARNETWORKAL_WifiNetwork_Receive`. -/
def receive (timeDiff : TimeDiff) (call : ReceiveCall) (receiverObject : WifiNetworkObject w)
    (senderObject : Option (WifiNetworkObject w)) : ReceiveOutcome w :=
  let outcome := receiveReady timeDiff call (startReception call.clock.first receiverObject)
    senderObject
  { outcome with
    receiverObject :=
      { outcome.receiverObject with currentFrame := outcome.receiverObject.buffer } }

/-! ## PopFrame -/

/-- What a call of `PopFrame` returns and does: the object afterwards, the frame
it fills and the blocks it reads in the buffer. -/
structure PopOutcome (w : ℕ) where
  result : ManagerReturn
  receiverObject : WifiNetworkObject w
  frame : Frame w
  reads : List Region

variable (E : Endianness)

/-- The header at the cursor; the payload is what follows it. -/
def headerFrame (receiverObject : WifiNetworkObject w) : Frame w :=
  let typePtr := receiverObject.currentFrame
  let idPtr := Pointer.advance typePtr 1
  let seqPtr := Pointer.advance idPtr 1
  let sizePtr := Pointer.advance seqPtr 1
  { type := receiverObject.heap typePtr.toNat
    id := receiverObject.heap idPtr.toNat
    seq := receiverObject.heap seqPtr.toNat
    size := sizeField E (receiverObject.heap.slice sizePtr.toNat 4)
    dataPtr := Pointer.advance sizePtr 4 }

theorem headerFrame_dataPtr (receiverObject : WifiNetworkObject w) :
    (headerFrame E receiverObject).dataPtr =
      Pointer.advance receiverObject.currentFrame offsetofDataPtr := by
  simp [headerFrame, Pointer.advance_advance]

/-- The blocks that reading the header touches. -/
def headerReads (receiverObject : WifiNetworkObject w) : List Region :=
  let typePtr := receiverObject.currentFrame
  let idPtr := Pointer.advance typePtr 1
  let seqPtr := Pointer.advance idPtr 1
  let sizePtr := Pointer.advance seqPtr 1
  [⟨typePtr.toNat, 1⟩, ⟨idPtr.toNat, 1⟩, ⟨seqPtr.toNat, 1⟩, ⟨sizePtr.toNat, 4⟩]

/-- A call that fails drops what is left of the datagram and resets the frame. -/
def popFailed (result : ManagerReturn) (receiverObject : WifiNetworkObject w)
    (reads : List Region) : PopOutcome w :=
  ⟨result, { receiverObject with currentFrame := receiverObject.buffer, size := 0 },
    Frame.reset w, reads⟩

/-- `ARNETWORKAL_WifiNetwork_PopFrame`. -/
def popFrame (receiverObject : WifiNetworkObject w) : PopOutcome w :=
  if Pointer.retreat receiverObject.bufferEnd offsetofDataPtr < receiverObject.currentFrame then
    if receiverObject.currentFrame = receiverObject.bufferEnd then
      popFailed .bufferEmpty receiverObject []
    else popFailed .badFrame receiverObject []
  else
    let frame := headerFrame E receiverObject
    -- a size below the header makes the difference wrap
    if receiverObject.bufferEnd -
        (BitVec.ofNat w frame.size.toNat - BitVec.ofNat w offsetofDataPtr) < frame.dataPtr then
      popFailed .badFrame receiverObject (headerReads receiverObject)
    else
      ⟨.default,
        { receiverObject with
          currentFrame :=
            Pointer.retreat (Pointer.advance frame.dataPtr frame.size.toNat) offsetofDataPtr },
        frame, headerReads receiverObject⟩

/-! ## Frame conditions -/

/-- The first date is all that a call sets before `select`. -/
theorem startReception_object (first : Timespec) (object : WifiNetworkObject w) :
    ∃ date, startReception first object = { object with lastDataReceivedDate := date } := by
  simp only [startReception]
  split
  · exact ⟨_, rfl⟩
  · exact ⟨object.lastDataReceivedDate, rfl⟩

theorem saveReceptionDate_object (timeDiff : TimeDiff) (clock : ReceiveClock)
    (object : WifiNetworkObject w) :
    ∃ date, saveReceptionDate timeDiff clock object =
      { object with lastDataReceivedDate := date } := by
  simp only [saveReceptionDate]
  split
  · exact ⟨object.lastDataReceivedDate, rfl⟩
  · exact ⟨_, rfl⟩

/-- Flushing overwrites the buffer and sets one flag. -/
theorem flushReceiveSocket_object (object : WifiNetworkObject w) (answers : List SocketRecv) :
    ∃ heap recvIsFlushed, (flushReceiveSocket object answers).1 =
      { object with heap := heap, recvIsFlushed := recvIsFlushed } := by
  induction answers generalizing object with
  | nil =>
      simp only [flushReceiveSocket]
      split
      · exact ⟨_, _, rfl⟩
      · exact ⟨_, _, rfl⟩
  | cons answer answers ih =>
      simp only [flushReceiveSocket]
      split
      · split
        · exact ⟨_, _, rfl⟩
        · exact ⟨_, _, rfl⟩
        · exact ⟨_, _, rfl⟩
        · rename_i byte bytes
          obtain ⟨heap, recvIsFlushed, flushed⟩ := ih (object.fill (byte :: bytes))
          exact ⟨heap, recvIsFlushed, flushed⟩
      · exact ⟨_, _, rfl⟩

/-- Reading overwrites the buffer and says how much of it is in use. -/
theorem readSocket_object (object : WifiNetworkObject w) (answer : SocketRecv) :
    ∃ heap size bwCurrent recvIsFlushed, (readSocket object answer).2.1 =
      { object with
        heap := heap
        size := size
        bwCurrent := bwCurrent
        recvIsFlushed := recvIsFlushed } := by
  match answer with
  | .data [] => exact ⟨_, _, _, _, rfl⟩
  | .data (_ :: _) => exact ⟨_, _, _, _, rfl⟩
  | .failed _ => exact ⟨_, _, _, _, rfl⟩

/-- The test of the disconnection sets one flag at most. -/
theorem checkDisconnection_object (timeDiff : TimeDiff) (lostCheck : Timespec) (fifoReady : Bool)
    (object : WifiNetworkObject w) (senderObject : Option (WifiNetworkObject w)) :
    ∃ isDisconnected, (checkDisconnection timeDiff lostCheck fifoReady object senderObject).1 =
      { object with isDisconnected := isDisconnected } := by
  simp only [checkDisconnection]
  split
  · exact ⟨1, rfl⟩
  · exact ⟨object.isDisconnected, rfl⟩

/-- `PopFrame` moves the cursor, and drops what is left of a datagram that it refuses. -/
theorem popFrame_object (object : WifiNetworkObject w) :
    ∃ currentFrame size, (popFrame E object).receiverObject =
      { object with currentFrame := currentFrame, size := size } := by
  simp only [popFrame]
  split
  · split
    · exact ⟨_, _, rfl⟩
    · exact ⟨_, _, rfl⟩
  · split
    · exact ⟨_, _, rfl⟩
    · exact ⟨_, object.size, rfl⟩

/-- It never adds to the bytes in use. -/
theorem popFrame_size_le (object : WifiNetworkObject w) :
    (popFrame E object).receiverObject.size.toNat ≤ object.size.toNat := by
  simp only [popFrame]
  split
  · split
    · exact Nat.zero_le _
    · exact Nat.zero_le _
  · split
    · exact Nat.zero_le _
    · exact Nat.le_refl _

@[simp] theorem startReception_buffer (first : Timespec) (object : WifiNetworkObject w) :
    (startReception first object).buffer = object.buffer := by
  obtain ⟨_, same⟩ := startReception_object first object
  rw [same]

@[simp] theorem startReception_size (first : Timespec) (object : WifiNetworkObject w) :
    (startReception first object).size = object.size := by
  obtain ⟨_, same⟩ := startReception_object first object
  rw [same]

section

variable (timeDiff : TimeDiff) (clock : ReceiveClock) (object : WifiNetworkObject w)

@[simp] theorem saveReceptionDate_buffer :
    (saveReceptionDate timeDiff clock object).buffer = object.buffer := by
  obtain ⟨_, same⟩ := saveReceptionDate_object timeDiff clock object
  rw [same]

@[simp] theorem saveReceptionDate_size :
    (saveReceptionDate timeDiff clock object).size = object.size := by
  obtain ⟨_, same⟩ := saveReceptionDate_object timeDiff clock object
  rw [same]

@[simp] theorem saveReceptionDate_heap :
    (saveReceptionDate timeDiff clock object).heap = object.heap := by
  obtain ⟨_, same⟩ := saveReceptionDate_object timeDiff clock object
  rw [same]

end

@[simp] theorem readSocket_buffer (object : WifiNetworkObject w) (answer : SocketRecv) :
    (readSocket object answer).2.1.buffer = object.buffer := by
  obtain ⟨_, _, _, _, read⟩ := readSocket_object object answer
  rw [read]

@[simp] theorem checkDisconnection_buffer (timeDiff : TimeDiff) (lostCheck : Timespec)
    (fifoReady : Bool) (object : WifiNetworkObject w)
    (senderObject : Option (WifiNetworkObject w)) :
    (checkDisconnection timeDiff lostCheck fifoReady object senderObject).1.buffer =
      object.buffer := by
  obtain ⟨_, checked⟩ := checkDisconnection_object timeDiff lostCheck fifoReady object senderObject
  rw [checked]

@[simp] theorem checkDisconnection_size (timeDiff : TimeDiff) (lostCheck : Timespec)
    (fifoReady : Bool) (object : WifiNetworkObject w)
    (senderObject : Option (WifiNetworkObject w)) :
    (checkDisconnection timeDiff lostCheck fifoReady object senderObject).1.size =
      object.size := by
  obtain ⟨_, checked⟩ := checkDisconnection_object timeDiff lostCheck fifoReady object senderObject
  rw [checked]

@[simp] theorem receiveReady_buffer (timeDiff : TimeDiff) (call : ReceiveCall)
    (object : WifiNetworkObject w) (senderObject : Option (WifiNetworkObject w)) :
    (receiveReady timeDiff call object senderObject).receiverObject.buffer = object.buffer := by
  rcases receiveReady_cases timeDiff call object senderObject with
    ⟨_, outcome⟩ | ⟨fifoReady, _, outcome⟩ | ⟨fifoReady, _, _, outcome⟩ | ⟨fifoReady, _, _, outcome⟩
  · rw [outcome]
  · rw [outcome]
    exact checkDisconnection_buffer timeDiff _ _ _ _
  · obtain ⟨_, _, flushed⟩ := flushReceiveSocket_object object call.recvs
    rw [outcome, flushed]
  · rw [outcome]
    exact (saveReceptionDate_buffer timeDiff _ _).trans (readSocket_buffer _ _)

/-- `Receive` never moves the buffer. -/
@[simp] theorem receive_buffer (timeDiff : TimeDiff) (call : ReceiveCall)
    (object : WifiNetworkObject w) (senderObject : Option (WifiNetworkObject w)) :
    (receive timeDiff call object senderObject).receiverObject.buffer = object.buffer := by
  simp only [receive, receiveReady_buffer, startReception_buffer]

/-- `PopFrame` never moves the buffer. -/
@[simp] theorem popFrame_buffer (object : WifiNetworkObject w) :
    (popFrame E object).receiverObject.buffer = object.buffer := by
  obtain ⟨_, _, popped⟩ := popFrame_object E object
  rw [popped]

theorem length_received (bytes : List UInt8) : (received bytes).length ≤ receivingBufferSize :=
  List.length_take_le _ _

theorem readSocket_sized (object : WifiNetworkObject w) (answer : SocketRecv) :
    (readSocket object answer).2.1.size.toNat ≤ receivingBufferSize := by
  match answer with
  | .data [] => exact Nat.zero_le _
  | .data (byte :: bytes) =>
      simp only [readSocket, UInt32.toNat_ofNat']
      exact (Nat.mod_le _ _).trans (length_received (byte :: bytes))
  | .failed _ => exact Nat.zero_le _

/-- `Receive` never uses more than the buffer. -/
theorem receive_sized {object : WifiNetworkObject w}
    (sized : object.size.toNat ≤ receivingBufferSize) (timeDiff : TimeDiff) (call : ReceiveCall)
    (senderObject : Option (WifiNetworkObject w)) :
    (receive timeDiff call object senderObject).receiverObject.size.toNat ≤
      receivingBufferSize := by
  rw [← startReception_size call.clock.first] at sized
  rw [receive]
  generalize startReception call.clock.first object = started at *
  rcases receiveReady_cases timeDiff call started senderObject with
    ⟨_, outcome⟩ | ⟨fifoReady, _, outcome⟩ | ⟨fifoReady, _, _, outcome⟩ | ⟨fifoReady, _, _, outcome⟩
  · rw [outcome]
    exact Nat.zero_le _
  · rw [outcome]
    simp only [checkDisconnection_size]
    exact Nat.zero_le _
  · obtain ⟨_, _, flushed⟩ := flushReceiveSocket_object started call.recvs
    rw [outcome, flushed]
    exact sized
  · rw [outcome]
    simp only [saveReceptionDate_size]
    exact readSocket_sized _ _

end WifiNetwork

end ARNetworkAL
