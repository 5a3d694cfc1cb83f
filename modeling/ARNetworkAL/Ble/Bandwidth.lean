import ARNetworkAL.Ble.Ios
import ARNetworkAL.Wifi.Bandwidth

/-!
# The bandwidth on iOS

One object counts both directions, `bw_currentUp` in `pushFrame` and `bw_currentDown` in
`popFrame`, and its thread moves both counts to the slots of one index. Each direction is
counted as one of the objects of the wireless network counts (`up`, `down`), so the slots hold
the latest ten windows there too, and `getUpload:andDownloadBandwidth:` reports their averages
(`averages_of_run`).

The slots are allocated and not cleared: what the object reports before it is connected, and
the bytes it has counted until then, are gone with `connectWithBTManager`.
-/

set_option autoImplicit false

namespace ARNetworkAL

open Library

namespace BleNetwork

namespace Ios

open WifiNetwork (WifiNetworkObject Windows Counts Averages bwNbElems bwProgressEachSec
  elementsBandwidth)

variable {w : ℕ} {κ : Type}

/-! ## The measure -/

/-- The members of `ARNETWORKAL_BLENetwork` that are concerned; the two current counts are in
the network. -/
structure Measure (κ : Type) where
  network : Network κ
  bwIndex : ℤ
  bwElementsUp : List UInt32
  bwElementsDown : List UInt32

namespace Measure

/-- What `connectWithBTManager` does to it before it posts `bw_threadRunning`. -/
def connect (sendService : List κ) (measure : Measure κ) : Measure κ where
  network := { measure.network with
    sendService := some sendService
    bwCurrentUp := 0
    bwCurrentDown := 0 }
  bwIndex := 0
  bwElementsUp := List.replicate bwNbElems 0
  bwElementsDown := List.replicate bwNbElems 0

/-- What one turn of the loop of `bw_thread` does to it. -/
def closeWindow (measure : Measure κ) : Measure κ :=
  let bwIndex := (measure.bwIndex + 1).tmod bwNbElems
  { network := { measure.network with bwCurrentUp := 0, bwCurrentDown := 0 }
    bwIndex := bwIndex
    bwElementsUp := measure.bwElementsUp.set bwIndex.toNat measure.network.bwCurrentUp
    bwElementsDown := measure.bwElementsDown.set bwIndex.toNat measure.network.bwCurrentDown }

/-- `-[ARNETWORKAL_BLENetwork getUpload:andDownloadBandwidth:]`: what is written where the caller
gave a place. -/
def getUploadAndDownloadBandwidth (measure : Measure κ) (upload download : Bool) :
    ErrorCode × Option UInt32 × Option UInt32 :=
  let (up, down) := (List.range bwNbElems).foldl
    (fun (total : UInt32 × UInt32) index =>
      (total.1 + measure.bwElementsUp.getD index 0, total.2 + measure.bwElementsDown.getD index 0))
    (0, 0)
  let up := up / UInt32.ofNat (bwNbElems * bwProgressEachSec)
  let down := down / UInt32.ofNat (bwNbElems * bwProgressEachSec)
  (.ok, if upload then some up else none, if download then some down else none)

/-- An object of the wireless network with the counters of one direction. -/
def counters (bwIndex : ℤ) (bwElements : List UInt32) (bwCurrent : UInt32) :
    WifiNetworkObject 0 :=
  { (WifiNetworkObject.cleared 0) with
    bwIndex := bwIndex
    bwElements := bwElements
    bwCurrent := bwCurrent }

/-- What is sent. -/
def up (measure : Measure κ) : WifiNetworkObject 0 :=
  counters measure.bwIndex measure.bwElementsUp measure.network.bwCurrentUp

/-- What is received. -/
def down (measure : Measure κ) : WifiNetworkObject 0 :=
  counters measure.bwIndex measure.bwElementsDown measure.network.bwCurrentDown

theorem up_closeWindow (measure : Measure κ) :
    measure.closeWindow.up = measure.up.closeWindow := rfl

theorem down_closeWindow (measure : Measure κ) :
    measure.closeWindow.down = measure.down.closeWindow := rfl

/-- Two sums in one loop. -/
theorem foldl_pair {α β γ : Type} (first : α → γ → α) (second : β → γ → β) (items : List γ)
    (start : α × β) :
    items.foldl (fun total item => (first total.1 item, second total.2 item)) start =
      (items.foldl first start.1, items.foldl second start.2) := by
  induction items generalizing start with
  | nil => rfl
  | cons item items ih => rw [List.foldl_cons, ih, List.foldl_cons, List.foldl_cons]

/-- **The two values are those of the two directions.** -/
theorem getUploadAndDownloadBandwidth_eq (measure : Measure κ) :
    measure.getUploadAndDownloadBandwidth true true =
      (.ok, some (elementsBandwidth measure.up), some (elementsBandwidth measure.down)) := by
  rw [getUploadAndDownloadBandwidth,
    foldl_pair (fun total index => total + measure.bwElementsUp.getD index 0)
      (fun total index => total + measure.bwElementsDown.getD index 0)]
  rfl

end Measure

/-! ## What should be counted -/

/-- The bytes that a `pushFrame` hands to `writeData` with success. -/
def pushedBytes (outcome : PushOutcome (Network κ)) : ℕ :=
  if outcome.result = some .default then (outcome.writes.map fun write => write.data.length).sum
  else 0

/-- The bytes of the value that a `popFrame` delivers. -/
def poppedBytes (outcome : PopOutcome w (Network κ)) : ℕ :=
  if outcome.result = some .default then outcome.currentFrame.length else 0

/-- The object, and the bytes that were sent and delivered since it was connected. -/
structure Traffic (κ : Type) where
  measure : Measure κ
  sent : Windows
  delivered : Windows

namespace Traffic

/-- A call, or a turn of the thread. -/
inductive Call (w : ℕ) (κ : Type) where
  | connect (sendService : List κ)
  | pushFrame (caller : Mem UInt8) (answers : PushAnswers) (frame : Frame w)
  | popFrame (placement : Placement w) (frame : Frame w)
  | receive (read : Option (List Notification))
  | tick

/-- The state after a call or a turn. -/
def next (traffic : Traffic κ) : Call w κ → Traffic κ
  | .connect sendService => ⟨traffic.measure.connect sendService, ⟨[], 0⟩, ⟨[], 0⟩⟩
  | .pushFrame caller answers frame =>
      let outcome := Ios.pushFrame caller answers traffic.measure.network frame
      { traffic with
        measure := { traffic.measure with network := outcome.object }
        sent := traffic.sent.count (pushedBytes outcome) }
  | .popFrame placement frame =>
      let outcome := Ios.popFrame placement traffic.measure.network frame
      { traffic with
        measure := { traffic.measure with network := outcome.object }
        delivered := traffic.delivered.count (poppedBytes outcome) }
  | .receive read =>
      { traffic with
        measure :=
          { traffic.measure with network := (Ios.receive read traffic.measure.network).2 } }
  | .tick =>
      { measure := traffic.measure.closeWindow
        sent := traffic.sent.close
        delivered := traffic.delivered.close }

end Traffic

/-! ## What each call counts -/

section

variable (network : Network κ)

/-- A call that does not succeed counts nothing. -/
theorem pushedBytes_of_ne {outcome : PushOutcome (Network κ)}
    (failed : outcome.result ≠ some .default) (same : outcome.object = network) :
    outcome.object.bwCurrentDown = network.bwCurrentDown ∧
      outcome.object.bwCurrentUp = network.bwCurrentUp + UInt32.ofNat (pushedBytes outcome) := by
  rw [same, pushedBytes, if_neg failed]
  exact ⟨rfl, (UInt32.add_zero _).symm⟩

theorem writeData_measure (answers : PushAnswers) (write : Write) (reads : List Region) :
    (writeData answers network write reads).object.bwCurrentDown = network.bwCurrentDown ∧
      (writeData answers network write reads).object.bwCurrentUp = network.bwCurrentUp +
        UInt32.ofNat (pushedBytes (writeData answers network write reads)) := by
  cases written : answers.writeData with
  | true => simp [writeData, written, pushedBytes]
  | false =>
      apply pushedBytes_of_ne
      · simp [writeData, written]
      · simp [writeData, written]

/-- `pushFrame` counts what was written. -/
theorem pushFrame_measure (caller : Mem UInt8) (answers : PushAnswers) (frame : Frame w) :
    (pushFrame caller answers network frame).object.bwCurrentDown = network.bwCurrentDown ∧
      (pushFrame caller answers network frame).object.bwCurrentUp = network.bwCurrentUp +
        UInt32.ofNat (pushedBytes (pushFrame caller answers network frame)) := by
  rw [pushFrame]
  split
  · exact pushedBytes_of_ne network (by simp) rfl
  · cases network.sendService with
    | none => exact writeData_measure network answers _ _
    | some characteristics =>
        dsimp only
        split
        · exact writeData_measure network answers _ _
        · exact pushedBytes_of_ne network (by simp) rfl

/-- `popFrame` counts what was delivered. -/
theorem popFrame_measure (placement : Placement w) (frame : Frame w) :
    (popFrame placement network frame).object.bwCurrentUp = network.bwCurrentUp ∧
      (popFrame placement network frame).object.bwCurrentDown = network.bwCurrentDown +
        UInt32.ofNat (poppedBytes (popFrame placement network frame)) := by
  rw [popFrame]
  cases network.recvArray with
  | nil => simp [poppedBytes]
  | cons notificationData rest =>
      dsimp only
      split
      · simp [poppedBytes]
      · cases scanHex 4 notificationData.shortUuid with
        | none => simp [poppedBytes]
        | some frameId => simp [poppedBytes]

theorem receive_measure (read : Option (List Notification)) :
    (receive read network).2.bwCurrentUp = network.bwCurrentUp ∧
      (receive read network).2.bwCurrentDown = network.bwCurrentDown := by
  cases read with
  | none => exact ⟨rfl, rfl⟩
  | some notifications => exact ⟨rfl, rfl⟩

end

/-- The two directions are counted. -/
structure Traffic.Sound (traffic : Traffic κ) : Prop where
  sent : Counts traffic.measure.up traffic.sent
  delivered : Counts traffic.measure.down traffic.delivered

/-- **Every call and every turn of the thread keeps both counts.** -/
theorem Traffic.Sound.next {traffic : Traffic κ} (sound : traffic.Sound)
    (call : Traffic.Call w κ) : (traffic.next call).Sound := by
  cases call with
  | connect sendService => exact ⟨.of_new rfl rfl rfl, .of_new rfl rfl rfl⟩
  | pushFrame caller answers frame =>
      obtain ⟨down, up⟩ := pushFrame_measure traffic.measure.network caller answers frame
      exact ⟨sound.sent.count rfl rfl up, sound.delivered.same rfl rfl down⟩
  | popFrame placement frame =>
      obtain ⟨up, down⟩ := popFrame_measure traffic.measure.network placement frame
      exact ⟨sound.sent.same rfl rfl up, sound.delivered.count rfl rfl down⟩
  | receive read =>
      obtain ⟨up, down⟩ := receive_measure traffic.measure.network read
      exact ⟨sound.sent.same rfl rfl up, sound.delivered.same rfl rfl down⟩
  | tick =>
      refine ⟨?_, ?_⟩
      · exact traffic.measure.up_closeWindow ▸ sound.sent.closeWindow
      · exact traffic.measure.down_closeWindow ▸ sound.delivered.closeWindow

/-- **After every run that begins with a connection**, whatever the object was, both values are
the averages over the last ten windows, or over all of them if there were fewer. -/
theorem averages_of_run {start reached : Traffic κ} {sendService : List κ}
    {calls : List (Traffic.Call w κ)}
    (run : Run (follows Traffic.next) start (.connect sendService :: calls) reached) :
    ∃ upload download,
      reached.measure.getUploadAndDownloadBandwidth true true =
          (.ok, some upload, some download) ∧
        Averages upload (reached.sent.closed.take bwNbElems) ∧
        Averages download (reached.delivered.closed.take bwNbElems) := by
  cases run with
  | cons connected rest =>
      subst connected
      have initial : (start.next (.connect sendService : Traffic.Call w κ)).Sound :=
        ⟨.of_new rfl rfl rfl, .of_new rfl rfl rfl⟩
      have sound := rest.invariant Traffic.Sound ?_ initial
      · exact ⟨_, _, reached.measure.getUploadAndDownloadBandwidth_eq, sound.sent.averages,
          sound.delivered.averages⟩
      · rintro before call after sound rfl
        exact sound.next call

/-- An object that was not connected yet. -/
def unconnected : Traffic Unit :=
  ⟨⟨⟨none, [], 7, 0⟩, 0, List.replicate bwNbElems 5, List.replicate bwNbElems 9⟩, ⟨[], 0⟩, ⟨[], 0⟩⟩

/-- A value of three bytes is delivered, and a second passes. -/
theorem averages_one_second :
    let calls : List (Traffic.Call 64 Unit) :=
      [.connect [()], .receive (some [⟨['f', 'a', '0', '1'], [2, 7, 65]⟩]),
        .popFrame ⟨16, fun _ => 0⟩ (.reset 64), .tick]
    let reached := calls.foldl Traffic.next unconnected
    ∃ upload download,
      reached.measure.getUploadAndDownloadBandwidth true true =
          (.ok, some upload, some download) ∧
        Averages upload (reached.sent.closed.take bwNbElems) ∧
        Averages download (reached.delivered.closed.take bwNbElems) := by
  intro calls reached
  have run : Run (follows Traffic.next) unconnected calls reached :=
    .cons rfl (.cons rfl (.cons rfl (.single rfl)))
  exact averages_of_run run

end Ios

end BleNetwork

end ARNetworkAL
