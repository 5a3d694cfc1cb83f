import ARNetworkAL.Library.Ring
import ARNetworkAL.Library.Run
import ARNetworkAL.Manager
import ARNetworkAL.Wifi.Receiver
import ARNetworkAL.Wifi.Sender
import Mathlib.Algebra.Order.BigOperators.Group.List

/-!
# The bandwidth

Each object counts the bytes of the current second in `bw_current`. Once a second
`BandwidthThread` moves the count to the next of ten slots and starts again from zero, and
`GetBandwidth` divides the sum of the slots by ten. All of it is arithmetic in 32 bits.

`Traffic` adds to the two objects what they should count: the bytes of each second that
is over, the latest first, and of the one that is not. The slots are a `Ring` that holds
the latest ten (`Counts`), whatever calls are made and however often the thread wakes.
-/

set_option autoImplicit false

namespace ARNetworkAL

open Library

namespace WifiNetwork

variable {w : ℕ} (E : Endianness)

/-! ## GetBandwidth and the thread -/

/-- `ARNETWORKAL_BW_PROGRESS_EACH_SEC`. -/
def bwProgressEachSec : ℕ := 1

/-- What `GetBandwidth` makes of the elements of one object. -/
def elementsBandwidth (object : WifiNetworkObject w) : UInt32 :=
  (List.range bwNbElems).foldl (fun total index => total + object.bwElements.getD index 0) 0 /
    UInt32.ofNat (bwNbElems * bwProgressEachSec)

/-- `ARNETWORKAL_WifiNetwork_GetBandwidth`: the error, and what is written where the
caller gave a place. -/
def getBandwidth (senderObject receiverObject : Option (WifiNetworkObject w))
    (uploadBw downloadBw : Bool) : ErrorCode × Option UInt32 × Option UInt32 :=
  match senderObject, receiverObject with
  | some sender, some reader =>
      (.ok, if uploadBw then some (elementsBandwidth sender) else none,
        if downloadBw then some (elementsBandwidth reader) else none)
  | _, _ => (.badParameter, none, none)

/-- What one turn of the loop of `ARNETWORKAL_WifiNetwork_BandwidthThread` does to an object. -/
def WifiNetworkObject.closeWindow (object : WifiNetworkObject w) : WifiNetworkObject w :=
  let bwIndex := (object.bwIndex + 1).tmod bwNbElems
  { object with
    bwIndex := bwIndex
    bwElements := object.bwElements.set bwIndex.toNat object.bwCurrent
    bwCurrent := 0 }

/-! ## What should be counted -/

/-- The bytes of each window that is closed, the latest first, and of the one that is open. -/
structure Windows where
  closed : List ℕ
  current : ℕ

/-- More bytes in the open window. -/
def Windows.count (windows : Windows) (bytes : ℕ) : Windows :=
  { windows with current := windows.current + bytes }

/-- The open window is closed and the next one opened. -/
def Windows.close (windows : Windows) : Windows := ⟨windows.current :: windows.closed, 0⟩

/-- The bytes that a `Send` hands to the socket. -/
def sentBytes (answer : SocketSend) (senderObject : WifiNetworkObject w) : ℕ :=
  if senderObject.size = 0 then 0
  else
    match answer with
    | .sent bytes => bytes
    | .failed _ => 0

/-- The bytes that a `Receive` stores for delivery. -/
def storedBytes (timeDiff : TimeDiff) (call : ReceiveCall) (receiverObject : WifiNetworkObject w)
    (senderObject : Option (WifiNetworkObject w)) : ℕ :=
  if (receive timeDiff call receiverObject senderObject).path = .read then
    match call.recvs.headD (.failed .eagain) with
    | .data bytes => (received bytes).length
    | .failed _ => 0
  else 0

/-- The two objects, and the bytes that were sent and stored. -/
structure Traffic (w : ℕ) where
  sender : WifiNetworkObject w
  receiver : WifiNetworkObject w
  sent : Windows
  stored : Windows

namespace Traffic

/-- No byte was sent or stored yet. -/
def fresh (sender receiver : WifiNetworkObject w) : Traffic w :=
  ⟨sender, receiver, ⟨[], 0⟩, ⟨[], 0⟩⟩

/-- A call with what the operating system answers, or a turn of the thread. -/
inductive Call (w : ℕ) where
  | pushFrame (caller : Mem UInt8) (answer : OutqAnswer) (frame : Frame w)
  | popFrame
  | send (answer : SocketSend)
  | receive (call : ReceiveCall)
  | tick

/-- The state after a call or a turn. -/
def next (timeDiff : TimeDiff) (traffic : Traffic w) : Call w → Traffic w
  | .pushFrame caller answer frame =>
      { traffic with
        sender := (WifiNetwork.pushFrame E caller answer traffic.sender frame).senderObject }
  | .popFrame =>
      { traffic with receiver := (WifiNetwork.popFrame E traffic.receiver).receiverObject }
  | .send answer =>
      { traffic with
        sender := (WifiNetwork.send answer traffic.sender (some traffic.receiver)).senderObject
        sent := traffic.sent.count (sentBytes answer traffic.sender) }
  | .receive call =>
      { traffic with
        receiver :=
          (WifiNetwork.receive timeDiff call traffic.receiver (some traffic.sender)).receiverObject
        stored :=
          traffic.stored.count (storedBytes timeDiff call traffic.receiver (some traffic.sender)) }
  | .tick =>
      { sender := traffic.sender.closeWindow
        receiver := traffic.receiver.closeWindow
        sent := traffic.sent.close
        stored := traffic.stored.close }

/-- The number of turns among calls. -/
def ticks : List (Call w) → ℕ
  | [] => 0
  | .tick :: calls => ticks calls + 1
  | .pushFrame _ _ _ :: calls => ticks calls
  | .popFrame :: calls => ticks calls
  | .send _ :: calls => ticks calls
  | .receive _ :: calls => ticks calls

end Traffic

/-! ## The slots hold the latest windows -/

/-- An object counts these windows: the open one, and in its slots the latest ten of those
that are closed, zeros standing for those that were not opened yet. -/
structure Counts (object : WifiNetworkObject w) (windows : Windows) : Prop where
  current : object.bwCurrent = UInt32.ofNat windows.current
  slots : ∃ ring : Ring UInt32 bwNbElems,
    object.bwElements = ring.slots ∧ object.bwIndex = ring.index ∧
      ring.contents =
        (windows.closed.map UInt32.ofNat ++ List.replicate bwNbElems 0).take bwNbElems

namespace Counts

variable {object : WifiNetworkObject w} {windows : Windows}

/-- An object as `New` leaves it. -/
theorem of_new (index : object.bwIndex = 0) (current : object.bwCurrent = 0)
    (elements : object.bwElements = List.replicate bwNbElems 0) : Counts object ⟨[], 0⟩ where
  current := current
  slots := by
    refine ⟨Ring.fill (by decide) 0, elements, index, ?_⟩
    rw [Ring.contents_fill, List.map_nil, List.nil_append, List.take_of_length_le]
    rw [List.length_replicate]

/-- A call that adds to the open window. -/
theorem count (counts : Counts object windows) {after : WifiNetworkObject w} {bytes : ℕ}
    (index : after.bwIndex = object.bwIndex) (elements : after.bwElements = object.bwElements)
    (current : after.bwCurrent = object.bwCurrent + UInt32.ofNat bytes) :
    Counts after (windows.count bytes) where
  current := by rw [current, counts.current, Windows.count, UInt32.ofNat_add]
  slots := by
    rw [index, elements]
    exact counts.slots

/-- A call that does not. -/
theorem same (counts : Counts object windows) {after : WifiNetworkObject w}
    (index : after.bwIndex = object.bwIndex) (elements : after.bwElements = object.bwElements)
    (current : after.bwCurrent = object.bwCurrent) : Counts after windows where
  current := current.trans counts.current
  slots := by
    rw [index, elements]
    exact counts.slots

/-- **A turn of the thread pushes the open window into the slots.** -/
theorem closeWindow (counts : Counts object windows) :
    Counts object.closeWindow windows.close where
  current := rfl
  slots := by
    obtain ⟨ring, elements, index, recent⟩ := counts.slots
    have turned : (object.bwIndex + 1).tmod bwNbElems = ((ring.index + 1) % bwNbElems : ℕ) := by
      rw [index]
      exact Int.ofNat_tmod _ _
    refine ⟨ring.push object.bwCurrent, ?_, turned, ?_⟩
    · simp only [WifiNetworkObject.closeWindow, turned, elements, Int.toNat_natCast]
      rfl
    · rw [counts.current]
      exact Ring.recent_push recent _

end Counts

/-! ## What each call counts -/

section

variable (object : WifiNetworkObject w)

theorem pushFrame_measure (caller : Mem UInt8) (answer : OutqAnswer) (frame : Frame w) :
    (pushFrame E caller answer object frame).senderObject.bwIndex = object.bwIndex ∧
      (pushFrame E caller answer object frame).senderObject.bwElements = object.bwElements ∧
      (pushFrame E caller answer object frame).senderObject.bwCurrent = object.bwCurrent := by
  by_cases admitted : Admits answer object frame
  · obtain ⟨socketBufferSize, outcome⟩ := pushFrame_admitted E caller admitted
    rw [outcome]
    exact ⟨rfl, rfl, rfl⟩
  · obtain ⟨socketBufferSize, outcome⟩ := pushFrame_refused E caller admitted
    rw [outcome]
    exact ⟨rfl, rfl, rfl⟩

theorem popFrame_measure :
    (popFrame E object).receiverObject.bwIndex = object.bwIndex ∧
      (popFrame E object).receiverObject.bwElements = object.bwElements ∧
      (popFrame E object).receiverObject.bwCurrent = object.bwCurrent := by
  obtain ⟨currentFrame, size, popped⟩ := popFrame_object E object
  rw [popped]
  exact ⟨rfl, rfl, rfl⟩

/-- `Send` counts the bytes that it hands to the socket. -/
theorem send_measure (answer : SocketSend) (receiverObject : Option (WifiNetworkObject w)) :
    (send answer object receiverObject).senderObject.bwIndex = object.bwIndex ∧
      (send answer object receiverObject).senderObject.bwElements = object.bwElements ∧
      (send answer object receiverObject).senderObject.bwCurrent =
        object.bwCurrent + UInt32.ofNat (sentBytes answer object) := by
  have nothing : object.bwCurrent = object.bwCurrent + UInt32.ofNat 0 := by simp
  rcases send_cases answer object receiverObject with
    ⟨empty, outcome⟩ | ⟨some, bytes, rfl, outcome⟩ | ⟨some, rfl, outcome⟩ |
      ⟨some, err, other, rfl, isDisconnected, notified, outcome⟩
  · rw [outcome]
    simp only [sentBytes, if_pos empty, true_and]
    exact nothing
  · rw [outcome]
    simp only [sentBytes, if_neg some, and_true]
    exact ⟨rfl, rfl⟩
  · rw [outcome]
    simp only [sentBytes, if_neg some]
    exact ⟨rfl, rfl, nothing⟩
  · rw [outcome]
    simp only [sentBytes, if_neg some, true_and]
    exact nothing

/-- `Receive` counts the bytes that it stores, and not those that it flushes. -/
theorem receive_measure (timeDiff : TimeDiff) (call : ReceiveCall)
    (senderObject : Option (WifiNetworkObject w)) :
    (receive timeDiff call object senderObject).receiverObject.bwIndex = object.bwIndex ∧
      (receive timeDiff call object senderObject).receiverObject.bwElements =
        object.bwElements ∧
      (receive timeDiff call object senderObject).receiverObject.bwCurrent =
        object.bwCurrent + UInt32.ofNat (storedBytes timeDiff call object senderObject) := by
  have nothing : object.bwCurrent = object.bwCurrent + UInt32.ofNat 0 := by simp
  obtain ⟨date, started⟩ := startReception_object call.clock.first object
  simp only [storedBytes, receive, started]
  rcases receiveReady_cases timeDiff call { object with lastDataReceivedDate := date }
    senderObject with ⟨_, outcome⟩ | ⟨fifoReady, _, outcome⟩ | ⟨fifoReady, _, _, outcome⟩ |
      ⟨fifoReady, _, _, outcome⟩
  · rw [outcome]
    exact ⟨rfl, rfl, nothing⟩
  · obtain ⟨isDisconnected, checked⟩ := checkDisconnection_object timeDiff call.clock.lostCheck
      fifoReady { object with lastDataReceivedDate := date, size := 0 } senderObject
    rw [outcome]
    simp only [checked, true_and]
    exact nothing
  · obtain ⟨heap, recvIsFlushed, flushed⟩ :=
      flushReceiveSocket_object { object with lastDataReceivedDate := date } call.recvs
    rw [outcome]
    simp only [flushed, true_and]
    exact nothing
  · obtain ⟨saved, same⟩ := saveReceptionDate_object timeDiff call.clock
      (readSocket { object with lastDataReceivedDate := date }
        (call.recvs.headD (.failed .eagain))).2.1
    rw [outcome]
    simp only [same, if_true]
    cases call.recvs.headD (.failed .eagain) with
    | data bytes =>
        cases bytes with
        | nil => exact ⟨rfl, rfl, nothing⟩
        | cons byte bytes => exact ⟨rfl, rfl, rfl⟩
    | failed err => exact ⟨rfl, rfl, nothing⟩

end

/-- **Every call and every turn of the thread keeps both counts.** -/
theorem Traffic.counts_next {timeDiff : TimeDiff} {traffic : Traffic w}
    (sent : Counts traffic.sender traffic.sent) (stored : Counts traffic.receiver traffic.stored)
    (call : Traffic.Call w) :
    Counts (traffic.next E timeDiff call).sender (traffic.next E timeDiff call).sent ∧
      Counts (traffic.next E timeDiff call).receiver (traffic.next E timeDiff call).stored := by
  cases call with
  | pushFrame caller answer frame =>
      obtain ⟨index, elements, current⟩ := pushFrame_measure E traffic.sender caller answer frame
      exact ⟨sent.same index elements current, stored⟩
  | popFrame =>
      obtain ⟨index, elements, current⟩ := popFrame_measure E traffic.receiver
      exact ⟨sent, stored.same index elements current⟩
  | send answer =>
      obtain ⟨index, elements, current⟩ :=
        send_measure traffic.sender answer (some traffic.receiver)
      exact ⟨sent.count index elements current, stored⟩
  | receive call =>
      obtain ⟨index, elements, current⟩ :=
        receive_measure traffic.receiver timeDiff call (some traffic.sender)
      exact ⟨sent, stored.count index elements current⟩
  | tick => exact ⟨sent.closeWindow, stored.closeWindow⟩

/-! ## The average -/

/-- A bandwidth is the average of the bytes of some windows over ten seconds, in the
arithmetic of 32 bits, and the exact one where the sum fits. -/
structure Averages (bandwidth : UInt32) (windows : List ℕ) : Prop where
  modular : bandwidth.toNat = (windows.map (· % 2 ^ 32)).sum % 2 ^ 32 / 10
  exact : windows.sum < 2 ^ 32 → bandwidth.toNat = windows.sum / 10

theorem Averages.of_modular {bandwidth : UInt32} {windows : List ℕ}
    (modular : bandwidth.toNat = (windows.map (· % 2 ^ 32)).sum % 2 ^ 32 / 10) :
    Averages bandwidth windows where
  modular := modular
  exact := by
    intro small
    have each : windows.map (· % 2 ^ 32) = windows.map id := by
      apply List.map_congr_left
      intro bytes member
      have part := List.single_le_sum (fun _ _ => Nat.zero_le _) _ member
      exact Nat.mod_eq_of_lt (Nat.lt_of_le_of_lt part small)
    rw [modular, each, List.map_id, Nat.mod_eq_of_lt small]

/-- A sum of words, as a number. -/
theorem toNat_foldl_add (words : List UInt32) (total : UInt32) :
    (words.foldl (· + ·) total).toNat =
      (total.toNat + (words.map UInt32.toNat).sum) % 2 ^ 32 := by
  induction words generalizing total with
  | nil => simp [Nat.mod_eq_of_lt (UInt32.toNat_lt total)]
  | cons word words ih =>
      rw [List.foldl_cons, ih, UInt32.toNat_add, List.map_cons, List.sum_cons, Nat.mod_add_mod,
        Nat.add_assoc]

/-- The zeros of windows that were not opened add nothing. -/
theorem sum_take_append_zeros (numbers : List ℕ) (count : ℕ) :
    ((numbers ++ List.replicate count 0).take count).sum = (numbers.take count).sum := by
  simp [List.take_append, List.take_replicate]

theorem Counts.averages {object : WifiNetworkObject w} {windows : Windows}
    (counts : Counts object windows) :
    Averages (elementsBandwidth object) (windows.closed.take bwNbElems) := by
  obtain ⟨ring, elements, -, recent⟩ := counts.slots
  have indexed : (List.range bwNbElems).map (fun index => ring.slots.getD index 0) =
      ring.slots := by
    apply List.ext_getElem
    · rw [List.length_map, List.length_range, ring.length_slots]
    · intro index _ within
      simp [List.getElem?_eq_getElem within]
  have total : (ring.slots.map UInt32.toNat).sum =
      ((windows.closed.take bwNbElems).map (· % 2 ^ 32)).sum := by
    have words : (windows.closed.map UInt32.ofNat).map UInt32.toNat =
        windows.closed.map (· % 2 ^ 32) := by
      simp
    rw [← (ring.contents_perm.map UInt32.toNat).sum_nat, recent, List.map_take, List.map_append,
      words, List.map_replicate, List.map_take]
    exact sum_take_append_zeros _ _
  apply Averages.of_modular
  rw [elementsBandwidth, elements, ← List.foldl_map, indexed, UInt32.toNat_div, toNat_foldl_add,
    total, UInt32.toNat_zero, Nat.zero_add]
  rfl

/-- A window is closed at each turn of the thread. -/
theorem Traffic.length_closed {timeDiff : TimeDiff} {traffic reached : Traffic w}
    {calls : List (Traffic.Call w)}
    (run : Run (follows (Traffic.next E timeDiff)) traffic calls reached) :
    reached.sent.closed.length = traffic.sent.closed.length + Traffic.ticks calls ∧
      reached.stored.closed.length = traffic.stored.closed.length + Traffic.ticks calls := by
  induction run with
  | nil => exact ⟨rfl, rfl⟩
  | @cons start middle last call calls taken rest ih =>
      subst taken
      obtain ⟨sent, stored⟩ := ih
      rw [sent, stored]
      cases call with
      | pushFrame caller answer frame => exact ⟨rfl, rfl⟩
      | popFrame => exact ⟨rfl, rfl⟩
      | send answer => exact ⟨rfl, rfl⟩
      | receive call => exact ⟨rfl, rfl⟩
      | tick =>
          simp only [Traffic.next, Windows.close, List.length_cons, Traffic.ticks]
          omega

/-- **After every run from a successful `Init`, `GetBandwidth` reports the averages over
the last ten windows**, or over all of them if there were fewer. -/
theorem bandwidth_of_run {timeDiff : TimeDiff} {rawSender rawReceiver : WifiNetworkObject w}
    {sendingBuffer receivingBuffer : BitVec w} {sendingSocket receivingSocket : ℤ}
    {sendingFifo receivingFifo : ℤ × ℤ} {sndbuf : ℤ} {timeoutSec : UInt32}
    {calls : List (Traffic.Call w)} {reached : Traffic w}
    (run : Run (follows (Traffic.next E timeDiff))
      (.fresh ((newSender rawSender sendingBuffer).connected sendingSocket sendingFifo sndbuf)
        ((newReceiver rawReceiver receivingBuffer).bound receivingSocket receivingFifo timeoutSec))
      calls reached) :
    (∃ upload download,
      getBandwidth (some reached.sender) (some reached.receiver) true true =
          (.ok, some upload, some download) ∧
        Averages upload (reached.sent.closed.take bwNbElems) ∧
        Averages download (reached.stored.closed.take bwNbElems)) ∧
      reached.sent.closed.length = Traffic.ticks calls ∧
      reached.stored.closed.length = Traffic.ticks calls := by
  obtain ⟨sent, stored⟩ :
      Counts reached.sender reached.sent ∧ Counts reached.receiver reached.stored := by
    refine run.invariant (fun traffic => Counts traffic.sender traffic.sent ∧
      Counts traffic.receiver traffic.stored) ?_ ⟨.of_new rfl rfl rfl, .of_new rfl rfl rfl⟩
    rintro before call after ⟨sent, stored⟩ rfl
    exact Traffic.counts_next E sent stored call
  have lengths := Traffic.length_closed E run
  simp only [Traffic.fresh, List.length_nil, Nat.zero_add] at lengths
  exact ⟨⟨_, _, rfl, sent.averages, stored.averages⟩, lengths⟩

/-- A frame of 47 bytes is sent, a datagram of 60 bytes is read, a second passes. -/
theorem bandwidth_one_second :
    let calls := [Traffic.Call.pushFrame (fun _ => 0) (.failed .enxio) ⟨2, 10, 0, 47, 0⟩,
      .send (.sent 47),
      .receive ⟨.ready true false, [.data (List.replicate 60 0)], .constant ⟨1, 0⟩⟩, .tick]
    let reached := calls.foldl (Traffic.next .littleEndianHost exactDiff)
      (.fresh ((newSender (.cleared 64) fourGiB).connected 3 (4, 5) 212992) newAtFourGiB)
    (∃ upload download,
      getBandwidth (some reached.sender) (some reached.receiver) true true =
          (.ok, some upload, some download) ∧
        Averages upload (reached.sent.closed.take bwNbElems) ∧
        Averages download (reached.stored.closed.take bwNbElems)) ∧
      reached.sent.closed.length = Traffic.ticks calls ∧
      reached.stored.closed.length = Traffic.ticks calls :=
  bandwidth_of_run .littleEndianHost (.cons rfl (.cons rfl (.cons rfl (.cons rfl (.nil _)))))

end WifiNetwork

end ARNetworkAL
