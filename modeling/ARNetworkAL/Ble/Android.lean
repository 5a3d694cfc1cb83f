import ARNetworkAL.Ble.Packet

/-!
# The Android implementation

A frame goes through two languages. The JNI functions in C reach the Java object; `PopFrame`
gets a `DataPop` back, with a result, an identifier, and the value, and fills the frame from
the copy of the value that it stores (`Jni.popFrame`).

On an empty queue Java answers `BUFFER_EMPTY` and no value, and the C code turns any answer
without a value into `BAD_FRAME`.
-/

set_option autoImplicit false

namespace ARNetworkAL

open Library

namespace BleNetwork

variable {w : ℕ} {κ : Type}

/-! ## Java -/

namespace Java

/-- `ARNetworkALBLENetwork.pushFrame`: the result, the object afterwards, and the values
handed to `writeData`. -/
def pushFrame (answers : PushAnswers) (network : Network κ) (type id seq : ℤ)
    (byteData : List UInt8) : ManagerReturn × Network κ × List Write :=
  let data := UInt8.ofInt type :: UInt8.ofInt seq :: byteData
  match network.sendService with
  | none => (.networkError, network, [])
  | some characteristics =>
      if 0 ≤ id ∧ id < characteristics.length then
        if answers.writeData then
          (.default,
            { network with bwCurrentUp := network.bwCurrentUp + UInt32.ofNat data.length },
            [⟨some id.toNat, data⟩])
        else (.badFrame, network, [⟨some id.toNat, data⟩])
      else (.badParameters, network, [])

/-- `ARNetworkALBLENetwork.DataPop`. -/
structure DataPop where
  id : ℤ
  data : Option (List UInt8)
  result : ManagerReturn
  deriving DecidableEq, Repr

/-- A new one. -/
def DataPop.new : DataPop := ⟨0, none, .default⟩

/-- `ARNetworkALBLENetwork.popFrame`, which has no result where `parseInt` throws. -/
def popFrame (network : Network κ) : Option DataPop × Network κ :=
  match network.recvArray with
  | [] => (some { DataPop.new with result := .bufferEmpty }, network)
  | notification :: rest =>
      let currentFrame := notification.value
      if currentFrame.length = 0 then
        (some { DataPop.new with result := .badFrame }, { network with recvArray := rest })
      else
        match parseHex notification.shortUuid with
        | none => (none, network)
        | some frameId =>
            (some { DataPop.new with id := frameId, data := some currentFrame },
              { network with
                recvArray := rest
                bwCurrentDown :=
                  network.bwCurrentDown + UInt32.ofNat currentFrame.length })

/-- `ARNetworkALBLENetwork.receive`, with the notifications that `readDataNotificationData`
adds to the queue, unless it fails. -/
def receive (read : Option (List Notification)) (network : Network κ) :
    ManagerReturn × Network κ :=
  match read with
  | none => (.noDataAvailable, network)
  | some notifications =>
      (.default, { network with recvArray := network.recvArray ++ notifications })

/-- `ARNetworkALBLENetwork.cleanup`, which ends `disconnect` and `onBLEDisconnect`. -/
def cleanup (network : Network κ) : Network κ :=
  { network with sendService := none, recvArray := [] }

end Java

/-! ## C -/

namespace Jni

/-- `ARNETWORKAL_JNIBLENETWORK_Object_t`: the Java object, and the value that the last frame
was filled from. -/
structure JniObject (κ : Type) where
  jBLENetwork : Network κ
  currentFrame : Option (List UInt8)

/-- `ARNETWORKAL_JNIBLENetwork_PushFrame`. -/
def pushFrame (caller : Mem UInt8) (answers : PushAnswers) (object : JniObject κ)
    (frame : Frame w) : PushOutcome (JniObject κ) :=
  let size : ℤ := (dataSize frame).toBitVec.toInt
  -- `DeleteLocalRef` is called without an environment too
  if answers.env = false then ⟨none, object, [], []⟩
  -- `SetByteArrayRegion` gets no array
  else if size < 0 ∨ answers.newByteArray = false then ⟨none, object, [], []⟩
  else
    let payload : Region := ⟨frame.dataPtr.toNat, size.toNat⟩
    let dataByteArray := caller.slice payload.address payload.count
    if mediaMtu < (valueLength frame).toNat then ⟨some .badFrame, object, [], [payload]⟩
    else
      let (result, jBLENetwork, writes) :=
        Java.pushFrame answers object.jBLENetwork frame.type.toNat frame.id.toNat
          frame.seq.toNat dataByteArray
      ⟨some result, { object with jBLENetwork := jBLENetwork }, writes, [payload]⟩

/-- `ARNETWORKAL_JNIBLENetwork_PopFrame`. -/
def popFrame (env : Bool) (placement : Placement w) (object : JniObject κ) (frame : Frame w) :
    PopOutcome w (JniObject κ) :=
  -- `DeleteLocalRef` is called without an environment too
  if env = false then ⟨none, object, .reset w, [], []⟩
  else
    let (jDataPop, jBLENetwork) := Java.popFrame object.jBLENetwork
    let object := { object with jBLENetwork := jBLENetwork }
    let (result, frameId, currentFrameByteArray) :=
      match jDataPop with
      | some dataPop => (dataPop.result, dataPop.id, dataPop.data)
      | none => (.badFrame, 0, none)
    match currentFrameByteArray with
    | none => ⟨some .badFrame, object, .reset w, [], []⟩
    | some value =>
        let object := { object with currentFrame := some value }
        if result = .default then
          ⟨some .default, object, fillFrame frameId placement value frame, value, fillReads⟩
        else ⟨some result, object, .reset w, value, []⟩

/-- `ARNETWORKAL_JNIBLENetwork_Receive`. -/
def receive (env : Bool) (read : Option (List Notification)) (object : JniObject κ) :
    ManagerReturn × JniObject κ :=
  if env then
    let (result, jBLENetwork) := Java.receive read object.jBLENetwork
    (result, { object with jBLENetwork := jBLENetwork })
  else (.networkError, object)

/-- The length of the payload is negative as a signed number for a size below a header, and
for one that is too large. -/
theorem toInt_dataSize_neg_iff (frame : Frame w) :
    (dataSize frame).toBitVec.toInt < 0 ↔
      ¬ (offsetofDataPtr ≤ frame.size.toNat ∧
        frame.size.toNat - offsetofDataPtr < 2 ^ 31) := by
  have bounded : frame.size.toNat < 2 ^ 32 := UInt32.toNat_lt _
  have sign : (dataSize frame).toBitVec.toInt < 0 ↔ 2 ^ 32 ≤ 2 * (dataSize frame).toNat :=
    BitVec.toInt_neg_iff
  rw [sign]
  rcases Nat.lt_or_ge frame.size.toNat offsetofDataPtr with few | header
  · have wrapped : (dataSize frame).toNat = frame.size.toNat + 2 ^ 32 - offsetofDataPtr :=
      Pointer.toNat_retreat_wraps few (by decide)
    rw [wrapped]
    simp only [offsetofDataPtr_eq] at few ⊢
    omega
  · rw [dataSize, Frame.toNat_size_sub header]
    omega

/-- Otherwise it is the number of payload bytes. -/
theorem toInt_dataSize {frame : Frame w} (header : offsetofDataPtr ≤ frame.size.toNat)
    (signed : frame.size.toNat - offsetofDataPtr < 2 ^ 31) :
    (dataSize frame).toBitVec.toInt = (frame.size.toNat - offsetofDataPtr : ℕ) := by
  rw [← Frame.toNat_size_sub header]
  refine BitVec.toInt_eq_toNat_of_lt ?_
  change 2 * (frame.size - UInt32.ofNat offsetofDataPtr).toNat < 2 ^ 32
  rw [Frame.toNat_size_sub header]
  omega

/-- A frame that fits a value is written as its packet. -/
theorem pushFrame_fits (word : 32 ≤ w) (caller : Mem UInt8) {answers : PushAnswers}
    (env : answers.env = true) (allocated : answers.newByteArray = true)
    (written : answers.writeData = true) {object : JniObject κ} {frame : Frame w}
    (fits : FitsValue frame) {characteristics : List κ}
    (service : object.jBLENetwork.sendService = some characteristics)
    (known : frame.id.toNat < characteristics.length) :
    (pushFrame caller answers object frame).result = some .default ∧
      (pushFrame caller answers object frame).writes =
        [⟨some frame.id.toNat, packet (frame.content caller)⟩] ∧
      (pushFrame caller answers object frame).object.jBLENetwork.sendService =
        some characteristics := by
  have short := Nat.not_lt.mpr (valueLength_le word fits)
  have few : frame.size.toNat - offsetofDataPtr ≤ mediaMtu - headerSize :=
    Nat.sub_le_iff_le_add'.mpr fits.2
  have size := toInt_dataSize fits.1 (few.trans_lt (by decide))
  have taken : ¬ (((frame.size.toNat - offsetofDataPtr : ℕ) : ℤ) < 0 ∨
      answers.newByteArray = false) := by
    rw [allocated]
    simp
  have inRange : (0 : ℤ) ≤ frame.id.toNat ∧ (frame.id.toNat : ℤ) < characteristics.length :=
    ⟨Int.natCast_nonneg _, Int.ofNat_lt.mpr known⟩
  have bytes : ∀ byte : UInt8, UInt8.ofInt byte.toNat = byte := fun byte =>
    (ofInt_natCast byte.toNat).trans UInt8.ofNat_toNat
  simp only [pushFrame, Java.pushFrame, env, Bool.true_eq_false, if_false, size, if_neg taken,
    if_neg short, service, if_pos inRange, written, if_true, bytes, Int.toNat_natCast,
    true_and, and_true]
  rfl

/-- **`PopFrame` pops a queue that is not empty.** -/
theorem popFrame_pops (word : 32 ≤ w) (placement : Placement w) {object : JniObject κ}
    (nonempty : object.jBLENetwork.recvArray ≠ [])
    (readable : ∀ notification ∈ object.jBLENetwork.recvArray.head?, notification.Readable)
    (frame : Frame w) :
    Pops (popQueue object.jBLENetwork.recvArray) (popFrame true placement object frame) placement
      (popFrame true placement object frame).object.jBLENetwork.recvArray := by
  cases queue : object.jBLENetwork.recvArray with
  | nil => exact absurd queue nonempty
  | cons notification rest =>
      have first := readable notification (by rw [queue]; rfl)
      by_cases empty : notification.value.length = 0
      · have nothing : notification.message? = none := by
          rw [Notification.message?, List.eq_nil_of_length_eq_zero empty]
          rfl
        simp only [popFrame, Java.popFrame, queue, if_pos empty, popQueue, nothing]
        exact ⟨rfl, rfl, rfl⟩
      · obtain ⟨message, carried⟩ := first.message empty
        simp only [popFrame, Java.popFrame, queue, if_neg empty, parseHex_shortUuid first.1,
          popQueue, carried]
        exact ⟨rfl, content_fillFrame word placement notification carried frame, rfl⟩

end Jni

end BleNetwork

end ARNetworkAL
