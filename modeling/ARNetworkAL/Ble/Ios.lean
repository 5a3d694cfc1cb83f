import ARNetworkAL.Ble.Packet

/-!
# The iOS implementation

`pushFrame` writes one value to the characteristic whose place in the send service is the
identifier of the frame. `popFrame` takes the first notification of the queue.
-/

set_option autoImplicit false

namespace ARNetworkAL

open Library

namespace BleNetwork

namespace Ios

variable {w : ℕ} {κ : Type}

/-- The call of `writeData`, and what `pushFrame` does after it. -/
def writeData (answers : PushAnswers) (network : Network κ) (write : Write)
    (reads : List Region) : PushOutcome (Network κ) :=
  if answers.writeData then
    ⟨some .default,
      { network with bwCurrentUp := network.bwCurrentUp + UInt32.ofNat write.data.length },
      [write], reads⟩
  else ⟨some .badFrame, network, [write], reads⟩

/-- `-[ARNETWORKAL_BLENetwork pushFrame:]`. -/
def pushFrame (caller : Mem UInt8) (answers : PushAnswers) (network : Network κ)
    (frame : Frame w) : PushOutcome (Network κ) :=
  if mediaMtu < (valueLength frame).toNat then ⟨some .badFrame, network, [], []⟩
  else
    let payload : Region := ⟨frame.dataPtr.toNat, (dataSize frame).toNat⟩
    let data := frame.type :: frame.seq :: caller.slice payload.address payload.count
    match network.sendService with
    -- messages to `nil` answer `nil`
    | none => writeData answers network ⟨none, data⟩ [payload]
    | some characteristics =>
        if frame.id.toNat < characteristics.length then
          writeData answers network ⟨some frame.id.toNat, data⟩ [payload]
        -- `objectAtIndex:` raises `NSRangeException`
        else ⟨none, network, [], [payload]⟩

/-- `-[ARNETWORKAL_BLENetwork popFrame:]`. -/
def popFrame (placement : Placement w) (network : Network κ) (frame : Frame w) :
    PopOutcome w (Network κ) :=
  match network.recvArray with
  | [] => ⟨some .bufferEmpty, network, .reset w, [], []⟩
  | notificationData :: rest =>
      let value := notificationData.value
      if value.length = 0 then
        ⟨some .badFrame, { network with recvArray := rest }, .reset w, [], []⟩
      else
        match scanHex 4 notificationData.shortUuid with
        | none => ⟨some .badFrame, { network with recvArray := rest }, .reset w, value, []⟩
        | some frameId =>
            ⟨some .default,
              { network with
                recvArray := rest
                bwCurrentDown := network.bwCurrentDown + UInt32.ofNat value.length },
              fillFrame frameId placement value frame, value, fillReads⟩

/-- `-[ARNETWORKAL_BLENetwork receive]`, with the notifications that `readNotificationData`
adds to the queue, unless it fails. -/
def receive (read : Option (List Notification)) (network : Network κ) :
    ManagerReturn × Network κ :=
  match read with
  | none => (.noDataAvailable, network)
  | some notifications =>
      (.default, { network with recvArray := network.recvArray ++ notifications })

/-- A frame that fits a value is written as its packet. -/
theorem pushFrame_fits (word : 32 ≤ w) (caller : Mem UInt8) {answers : PushAnswers}
    (written : answers.writeData = true) {network : Network κ} {frame : Frame w}
    (fits : FitsValue frame) {characteristics : List κ}
    (service : network.sendService = some characteristics)
    (known : frame.id.toNat < characteristics.length) :
    (pushFrame caller answers network frame).result = some .default ∧
      (pushFrame caller answers network frame).writes =
        [⟨some frame.id.toNat, packet (frame.content caller)⟩] ∧
      (pushFrame caller answers network frame).object.sendService = some characteristics := by
  have short := Nat.not_lt.mpr (valueLength_le word fits)
  simp only [pushFrame, if_neg short, service, if_pos known, writeData, written, if_true,
    true_and, and_true]
  rw [dataSize, Frame.toNat_size_sub fits.1]
  rfl

/-- **`popFrame` pops the queue.** -/
theorem popFrame_pops (word : 32 ≤ w) (placement : Placement w) {network : Network κ}
    (readable : ∀ notification ∈ network.recvArray.head?, notification.Readable) (frame : Frame w) :
    Pops (popQueue network.recvArray) (popFrame placement network frame) placement
      (popFrame placement network frame).object.recvArray := by
  cases queue : network.recvArray with
  | nil =>
      simp only [popFrame, queue]
      exact ⟨rfl, rfl, rfl⟩
  | cons notification rest =>
      have first := readable notification (by rw [queue]; rfl)
      by_cases empty : notification.value.length = 0
      · have nothing : notification.message? = none := by
          rw [Notification.message?, List.eq_nil_of_length_eq_zero empty]
          rfl
        simp only [popFrame, queue, if_pos empty, popQueue, nothing]
        exact ⟨rfl, rfl, rfl⟩
      · obtain ⟨message, carried⟩ := first.message empty
        simp only [popFrame, queue, if_neg empty, scanHex_shortUuid first.1, popQueue, carried]
        exact ⟨rfl, content_fillFrame word placement notification carried frame, rfl⟩

end Ios

end BleNetwork

end ARNetworkAL
