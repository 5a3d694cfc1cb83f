import ARNetworkAL.Wifi.Datagram
import ARNetworkAL.Wifi.FlushedData
import ARNetworkAL.Wifi.SendQueue

/-!
# The dump file

With `EnableDataDump` every frame that `PushFrame` takes or `PopFrame` hands out is written to
a file, and so is the buffer that `Send` sends or `Receive` fills, each as it lies in memory.

The file tells how frames and datagrams belong together: a datagram that was sent is what the
last frames make that were pushed since the datagram before it (a socket that is full drops the
earlier ones), and the frames popped since a datagram was received are a beginning of it
(`Consistent`). The calls of the library write such a file, in any order
(`dumpLog_consistent`), as long as no flush runs over frames that were not popped.
-/

set_option autoImplicit false

namespace ARNetworkAL

open Library

namespace WifiNetwork

variable {w : ℕ} (E : Endianness)

/-! ## The file -/

/-- The tags of the transport. -/
inductive DumpTag where
  | framePushed
  | framePopped
  | dataSent
  | dataReceived
  deriving DecidableEq, Repr

/-- What one call of `ARSAL_Print_DumpData` is given. -/
structure Record where
  tag : DumpTag
  data : List UInt8
  deriving DecidableEq, Repr

/-- The data of the records with one tag since the last one with another. -/
def since (boundary tag : DumpTag) (log : List Record) : List (List UInt8) :=
  log.foldl (fun data record =>
    if record.tag = boundary then []
    else if record.tag = tag then data ++ [record.data]
    else data) []

/-- The data of the last record with a tag, if there is one. -/
def latest (tag : DumpTag) (log : List Record) : List UInt8 :=
  log.foldl (fun data record => if record.tag = tag then record.data else data) []

section

variable (boundary tag : DumpTag) (log : List Record) (record : Record)

@[simp] theorem since_append : since boundary tag (log ++ [record]) =
    if record.tag = boundary then []
    else if record.tag = tag then since boundary tag log ++ [record.data]
    else since boundary tag log := by
  simp only [since, List.foldl_append, List.foldl_cons, List.foldl_nil]

@[simp] theorem latest_append : latest tag (log ++ [record]) =
    if record.tag = tag then record.data else latest tag log := by
  simp only [latest, List.foldl_append, List.foldl_cons, List.foldl_nil]

end

/-- The frames pushed since the last datagram that was sent. -/
abbrev pushedFrames : List Record → List (List UInt8) := since .dataSent .framePushed

/-- The frames popped since the last datagram that was received. -/
abbrev poppedFrames : List Record → List (List UInt8) := since .dataReceived .framePopped

/-- Some of the frames are the last of others, and all of them unless some may be dropped. -/
def LastOf (drops : Prop) (frames others : List (List UInt8)) : Prop :=
  ∃ dropped, others = dropped ++ frames ∧ (¬ drops → dropped = [])

/-- Every datagram that was sent is made of the last frames that were pushed since the one
before, and what was popped since a datagram was received is a beginning of it. -/
inductive Consistent (drops : Prop) : List Record → Prop where
  | nil : Consistent drops []
  | pushed {log : List Record} (data : List UInt8) (rest : Consistent drops log) :
      Consistent drops (log ++ [⟨.framePushed, data⟩])
  | sent {log : List Record} {frames : List (List UInt8)} (rest : Consistent drops log)
      (queued : LastOf drops frames (pushedFrames log)) :
      Consistent drops (log ++ [⟨.dataSent, frames.flatten⟩])
  | received {log : List Record} (data : List UInt8) (rest : Consistent drops log) :
      Consistent drops (log ++ [⟨.dataReceived, data⟩])
  | popped {log : List Record} {data : List UInt8} (rest : Consistent drops log)
      (within : (poppedFrames log).flatten ++ data <+: latest .dataReceived log) :
      Consistent drops (log ++ [⟨.framePopped, data⟩])

/-! ## What the calls write -/

/-- The bytes before the cursor. -/
def WifiNetworkObject.behind (object : WifiNetworkObject w) (count : ℕ) : List UInt8 :=
  object.heap.slice (Pointer.retreat object.currentFrame count).toNat count

/-- `PushFrame` writes the frame that it has copied. -/
def pushRecords (outcome : PushOutcome w) (frame : Frame w) : List Record :=
  if outcome.result = .default then
    [⟨.framePushed, outcome.senderObject.behind frame.size.toNat⟩]
  else []

/-- `Send` writes the buffer that it has sent. -/
def sendRecords (answer : SocketSend) (senderObject : WifiNetworkObject w) : List Record :=
  if senderObject.size = 0 then []
  else
    match answer with
    | .sent _ => [⟨.dataSent, senderObject.window⟩]
    | .failed _ => []

/-- `Receive` writes the buffer that it has read. -/
def receiveRecords (outcome : ReceiveOutcome w) : List Record :=
  if outcome.path = .read ∧ 0 < outcome.bytesRead then
    [⟨.dataReceived, outcome.receiverObject.window⟩]
  else []

/-- `PopFrame` writes the frame that it has read. -/
def popRecords (outcome : PopOutcome w) : List Record :=
  if outcome.result = .default then
    [⟨.framePopped, outcome.receiverObject.behind outcome.frame.size.toNat⟩]
  else []

/-- A manager whose dump was enabled at first, whether `Receive` was called yet, and the
records of the file. -/
structure Dumping (w : ℕ) where
  senderObject : WifiNetworkObject w
  receiverObject : WifiNetworkObject w
  opened : Bool
  log : List Record

/-- A call with what the operating system answers. -/
inductive DumpCall (w : ℕ) where
  | push (caller : Mem UInt8) (answer : OutqAnswer) (frame : Frame w)
  | send (answer : SocketSend)
  | receive (call : ReceiveCall)
  | pop

namespace Dumping

/-- Nothing was called yet. -/
def fresh (senderObject receiverObject : WifiNetworkObject w) : Dumping w :=
  ⟨senderObject, receiverObject, false, []⟩

/-- The manager and the file after a call. -/
def next (timeDiff : TimeDiff) (dumping : Dumping w) : DumpCall w → Dumping w
  | .push caller answer frame =>
      let outcome := pushFrame E caller answer dumping.senderObject frame
      { dumping with
        senderObject := outcome.senderObject
        log := dumping.log ++ pushRecords outcome frame }
  | .send answer =>
      let outcome := WifiNetwork.send answer dumping.senderObject (some dumping.receiverObject)
      { dumping with
        senderObject := outcome.senderObject
        log := dumping.log ++ sendRecords answer dumping.senderObject }
  | .receive call =>
      let outcome := WifiNetwork.receive timeDiff call dumping.receiverObject
        (some dumping.senderObject)
      { dumping with
        receiverObject := outcome.receiverObject
        opened := true
        log := dumping.log ++ receiveRecords outcome }
  | .pop =>
      let outcome := popFrame E dumping.receiverObject
      { dumping with
        receiverObject := outcome.receiverObject
        log := dumping.log ++ popRecords outcome }

/-- The socket is never full, or frames may be dropped. No frame is taken by a sum that
wrapped, no flush runs over bytes in use, `Receive` is called before `PopFrame`, and no size
field that `PopFrame` reads wraps the payload check (on a 64-bit target none does). -/
def Fair (drops : Prop) (timeDiff : TimeDiff) (dumping : Dumping w) : DumpCall w → Prop
  | .push _ answer frame => SafelySized answer dumping.senderObject frame
  | .send answer => answer = .failed .eagain → drops
  | .receive call =>
      Flushes timeDiff call dumping.receiverObject → dumping.receiverObject.size = 0
  | .pop => dumping.opened = true ∧
      (dumping.receiverObject.currentFrame.toNat + offsetofDataPtr ≤
          dumping.receiverObject.finish →
        (headerFrame E dumping.receiverObject).size.toNat ≤
          dumping.receiverObject.finish + offsetofDataPtr)

/-- The queue is what the last frames make that were pushed. -/
structure KeepsQueue (drops : Prop) (dumping : Dumping w) : Prop where
  consistent : Consistent drops dumping.log
  queue : ∃ frames, LastOf drops frames (pushedFrames dumping.log) ∧
    Queued dumping.senderObject frames.flatten

/-- The bytes in use are the datagram that was received, and the cursor is behind the frames
that were popped; or nothing is in use. -/
structure KeepsWindow (log : List Record) (opened : Bool) (object : WifiNetworkObject w) :
    Prop where
  buffered : Buffered object
  inWindow : opened = true → InWindow object
  popped : (poppedFrames log).flatten <+: latest .dataReceived log
  reading : object.size = 0 ∨ opened = true ∧ object.window = latest .dataReceived log ∧
    (poppedFrames log).flatten = object.window.take object.position

end Dumping

/-! ## The calls of the sender -/

/-- The last bytes of the queue are behind the cursor. -/
theorem Queued.behind {object : WifiNetworkObject w} {bytes last : List UInt8}
    (queued : Queued object (bytes ++ last)) : object.behind last.length = last := by
  have cursor := queued.toNat_currentFrame
  rw [List.length_append] at cursor
  have start : (Pointer.retreat object.currentFrame last.length).toNat =
      object.buffer.toNat + bytes.length := by
    rw [Pointer.toNat_retreat (by omega), cursor]
    omega
  have split := queued.window
  rw [WifiNetworkObject.window, queued.size, List.length_append, Mem.slice_add] at split
  rw [WifiNetworkObject.behind, start]
  exact (List.append_inj split (Mem.length_slice _ _ _)).2

theorem LastOf.append {drops : Prop} {frames others : List (List UInt8)}
    (last : LastOf drops frames others) (frame : List UInt8) :
    LastOf drops (frames ++ [frame]) (others ++ [frame]) := by
  obtain ⟨dropped, rfl, none⟩ := last
  exact ⟨dropped, List.append_assoc _ _ _, none⟩

theorem LastOf.nil (drops : Prop) : LastOf drops [] [] := ⟨[], rfl, fun _ => rfl⟩

/-- All of them may be dropped. -/
theorem LastOf.drop {drops : Prop} (may : drops) (others : List (List UInt8)) :
    LastOf drops [] others :=
  ⟨others, (List.append_nil _).symm, fun never => absurd may never⟩

namespace Dumping

variable {drops : Prop} {dumping : Dumping w}

theorem KeepsQueue.push (keeps : dumping.KeepsQueue drops) (timeDiff : TimeDiff)
    (caller : Mem UInt8) {answer : OutqAnswer} {frame : Frame w}
    (safe : SafelySized answer dumping.senderObject frame) :
    (dumping.next E timeDiff (.push caller answer frame)).KeepsQueue drops := by
  obtain ⟨frames, last, queued⟩ := keeps.queue
  by_cases admitted : Admits answer dumping.senderObject frame
  · obtain ⟨holdsHeader, room⟩ := (safelySized_iff_of_admits admitted).mp safe
    rw [queued.size] at room
    have joined := queued.push_admitted E caller admitted holdsHeader room
    have counted : frame.size.toNat = (wire E (frame.content caller)).length := by
      rw [length_wire E (frame.content_wellSized caller holdsHeader)]
      rfl
    have records : pushRecords (pushFrame E caller answer dumping.senderObject frame) frame =
        [⟨.framePushed, wire E (frame.content caller)⟩] := by
      rw [pushRecords, pushFrame_result, if_pos admitted, if_pos rfl, counted, joined.behind]
    simp only [next, records]
    refine ⟨keeps.consistent.pushed _, frames ++ [wire E (frame.content caller)], ?_, ?_⟩
    · simpa using last.append _
    · simpa using joined
  · have records : pushRecords (pushFrame E caller answer dumping.senderObject frame) frame =
        [] := by
      rw [pushRecords, pushFrame_result, if_neg admitted]
      rfl
    simp only [next, records, List.append_nil]
    exact ⟨keeps.consistent, frames, last, queued.push_refused E caller admitted⟩

theorem KeepsQueue.send (keeps : dumping.KeepsQueue drops) (timeDiff : TimeDiff)
    {answer : SocketSend} (fair : answer = .failed .eagain → drops) :
    (dumping.next E timeDiff (.send answer)).KeepsQueue drops := by
  obtain ⟨frames, last, queued⟩ := keeps.queue
  rcases send_cases answer dumping.senderObject (some dumping.receiverObject) with
    ⟨empty, outcome⟩ | ⟨some, bytes, rfl, outcome⟩ | ⟨some, rfl, outcome⟩ |
      ⟨some, err, other, rfl, isDisconnected, notified, outcome⟩
  · simp only [next, outcome, sendRecords, if_pos empty, List.append_nil]
    exact ⟨keeps.consistent, frames, last, queued⟩
  · simp only [next, outcome, sendRecords, if_neg some, queued.window]
    refine ⟨keeps.consistent.sent last, [], ?_, queued.clearQueue.setBwCurrent _⟩
    simpa using LastOf.nil drops
  · simp only [next, outcome, sendRecords, if_neg some, List.append_nil]
    exact ⟨keeps.consistent, [], .drop (fair rfl) _, queued.clearQueue⟩
  · simp only [next, outcome, sendRecords, if_neg some, List.append_nil]
    exact ⟨keeps.consistent, frames, last, queued.setDisconnected _⟩

end Dumping

/-! ## The calls of the receiver -/

/-- The bytes that the cursor moved over. -/
theorem InWindow.behind {object : WifiNetworkObject w} (window : InWindow object) {size : ℕ}
    (inside : object.currentFrame.toNat + size ≤ object.finish) :
    WifiNetworkObject.behind
        { object with currentFrame := Pointer.advance object.currentFrame size } size =
      (object.window.drop object.position).take size := by
  have lower := window.lower
  have cursor : object.currentFrame.toNat = object.buffer.toNat + object.position := by
    rw [WifiNetworkObject.position]
    omega
  have bounded := finish_lt window.placed window.sized
  have moved : (Pointer.advance object.currentFrame size).toNat =
      object.currentFrame.toNat + size := Pointer.toNat_advance (by omega)
  have start : (Pointer.retreat (Pointer.advance object.currentFrame size) size).toNat =
      object.buffer.toNat + object.position := by
    rw [Pointer.toNat_retreat (by omega), moved, Nat.add_sub_cancel, cursor]
  rw [WifiNetworkObject.finish] at inside
  rw [WifiNetworkObject.behind, start, WifiNetworkObject.window,
    Mem.drop_slice _ _ _ _ (by omega), Mem.take_slice _ _ _ _ (by omega)]

namespace Dumping

variable {log : List Record} {opened : Bool} {object : WifiNetworkObject w}

/-- A call that writes nothing and leaves nothing in use. -/
theorem KeepsWindow.idle (keeps : KeepsWindow log opened object) {after : WifiNetworkObject w}
    (window : InWindow after) (empty : after.size = 0) : KeepsWindow log true after :=
  ⟨window.toBuffered, fun _ => window, keeps.popped, .inl empty⟩

/-- A datagram that was stored is the last one that was received. -/
theorem KeepsWindow.receive (keeps : KeepsWindow log opened object) (timeDiff : TimeDiff)
    {call : ReceiveCall} (senderObject : Option (WifiNetworkObject w))
    (fair : Flushes timeDiff call object → object.size = 0) :
    KeepsWindow
      (log ++ receiveRecords (WifiNetwork.receive timeDiff call object senderObject)) true
      (WifiNetwork.receive timeDiff call object senderObject).receiverObject := by
  have window := receive_inWindow keeps.buffered timeDiff call senderObject
  have size := receive_size timeDiff call object senderObject
  have cursor : (WifiNetwork.receive timeDiff call object senderObject).receiverObject.position =
      0 := by
    simp [WifiNetworkObject.position, WifiNetwork.receive]
  rw [← receive_path_flushed_iff timeDiff call object senderObject] at fair
  generalize (WifiNetwork.receive timeDiff call object senderObject) = outcome at *
  by_cases stored : outcome.path = .read ∧ 0 < outcome.bytesRead
  · rw [receiveRecords, if_pos stored]
    refine ⟨window.toBuffered, fun _ => window, ?_, .inr ⟨rfl, ?_, ?_⟩⟩
    · simp
    · simp
    · simp [cursor]
  · rw [receiveRecords, if_neg stored, List.append_nil]
    refine keeps.idle window (UInt32.toNat_inj.mp ?_)
    rw [size]
    cases path : outcome.path with
    | selectError => rfl
    | notReady => rfl
    | flushed => exact congrArg UInt32.toNat (fair path)
    | read => exact Nat.eq_zero_of_not_pos fun some => stored ⟨path, some⟩

/-- A frame that is popped begins where the last one ended. -/
theorem KeepsWindow.advance (keeps : KeepsWindow log true object) {size : ℕ}
    (header : object.currentFrame.toNat + offsetofDataPtr ≤ object.finish)
    (inside : object.currentFrame.toNat + size ≤ object.finish) :
    (poppedFrames log).flatten ++ (object.window.drop object.position).take size <+:
        latest .dataReceived log ∧
      KeepsWindow
        (log ++ [⟨.framePopped, (object.window.drop object.position).take size⟩]) true
        { object with currentFrame := Pointer.advance object.currentFrame size } := by
  have window := keeps.inWindow rfl
  have onward := window.advance inside
  have lower := window.lower
  obtain ⟨stored, read⟩ : object.window = latest .dataReceived log ∧
      (poppedFrames log).flatten = object.window.take object.position := by
    rcases keeps.reading with empty | ⟨_, stored, read⟩
    · have finish : object.finish = object.buffer.toNat := by
        rw [WifiNetworkObject.finish, empty]
        rfl
      rw [offsetofDataPtr_eq] at header
      omega
    · exact ⟨stored, read⟩
  have joined : (poppedFrames log).flatten ++ (object.window.drop object.position).take size =
      object.window.take (object.position + size) := by
    rw [read, List.take_add]
  have within : (poppedFrames log).flatten ++ (object.window.drop object.position).take size <+:
      latest .dataReceived log := by
    rw [joined, ← stored]
    exact List.take_prefix _ _
  have moved : WifiNetworkObject.position
      { object with currentFrame := Pointer.advance object.currentFrame size } =
        object.position + size := by
    have bounded := finish_lt window.placed window.sized
    simp only [WifiNetworkObject.position]
    rw [Pointer.toNat_advance (by omega)]
    omega
  refine ⟨within, onward.toBuffered, fun _ => onward, ?_, .inr ⟨rfl, ?_, ?_⟩⟩
  · simpa using within
  · rw [latest_append]
    exact stored
  · rw [moved, poppedFrames, since_append, if_neg (by simp), if_pos rfl, List.flatten_append,
      List.flatten_singleton]
    exact joined

/-- `PopFrame` writes the frame that it hands out, and nothing if there is none. -/
theorem KeepsWindow.pop (keeps : KeepsWindow log true object)
    (unwrapped : object.currentFrame.toNat + offsetofDataPtr ≤ object.finish →
      (headerFrame E object).size.toNat ≤ object.finish + offsetofDataPtr) :
    KeepsWindow (log ++ popRecords (popFrame E object)) true (popFrame E object).receiverObject ∧
      ∀ {drops : Prop}, Consistent drops log →
        Consistent drops (log ++ popRecords (popFrame E object)) := by
  have window := keeps.inWindow rfl
  have nothing (result : ManagerReturn) (reads : List Region) (other : result ≠ .default) :
      popRecords (popFailed result object reads) = [] := if_neg other
  rcases popFrame_cases E window.placed window.sized with
    ⟨_, outcome⟩ | ⟨_, _, outcome⟩ | ⟨header, accepted, outcome⟩
  · rw [outcome, nothing _ _ (by split <;> simp), List.append_nil]
    exact ⟨keeps.idle window.dropped rfl, fun consistent => consistent⟩
  · rw [outcome, nothing _ _ (by simp), List.append_nil]
    exact ⟨keeps.idle window.dropped rfl, fun consistent => consistent⟩
  · have inside := inside_of_accepted header accepted (unwrapped header)
    obtain ⟨within, kept⟩ := keeps.advance header inside
    rw [outcome, popRecords, if_pos rfl, window.behind inside]
    exact ⟨kept, fun consistent => consistent.popped within⟩

end Dumping

/-! ## Runs -/

section

variable {boundary tag : DumpTag} {records : List Record}

theorem since_append_of_apart (log : List Record)
    (apart : ∀ record ∈ records, record.tag ≠ boundary ∧ record.tag ≠ tag) :
    since boundary tag (log ++ records) = since boundary tag log := by
  induction records using List.reverseRecOn with
  | nil => rw [List.append_nil]
  | append_singleton records record ih =>
      obtain ⟨others, one⟩ := List.forall_mem_append.mp apart
      obtain ⟨first, second⟩ := one record (List.mem_singleton.mpr rfl)
      rw [← List.append_assoc, since_append, if_neg first, if_neg second, ih others]

theorem latest_append_of_apart (log : List Record)
    (apart : ∀ record ∈ records, record.tag ≠ tag) :
    latest tag (log ++ records) = latest tag log := by
  induction records using List.reverseRecOn with
  | nil => rw [List.append_nil]
  | append_singleton records record ih =>
      obtain ⟨others, one⟩ := List.forall_mem_append.mp apart
      rw [← List.append_assoc, latest_append, if_neg (one record (List.mem_singleton.mpr rfl)),
        ih others]

end

theorem pushRecords_tag (outcome : PushOutcome w) (frame : Frame w) :
    ∀ record ∈ pushRecords outcome frame, record.tag = .framePushed := by
  rw [pushRecords]
  split
  · simp
  · simp

theorem sendRecords_tag (answer : SocketSend) (senderObject : WifiNetworkObject w) :
    ∀ record ∈ sendRecords answer senderObject, record.tag = .dataSent := by
  simp only [sendRecords]
  split
  · simp
  · cases answer with
    | sent bytes => simp
    | failed err => simp

theorem receiveRecords_tag (outcome : ReceiveOutcome w) :
    ∀ record ∈ receiveRecords outcome, record.tag = .dataReceived := by
  rw [receiveRecords]
  split
  · simp
  · simp

theorem popRecords_tag (outcome : PopOutcome w) :
    ∀ record ∈ popRecords outcome, record.tag = .framePopped := by
  rw [popRecords]
  split
  · simp
  · simp

namespace Dumping

variable {log records : List Record}

/-- What the sender writes is not about the bytes in use at the receiver. -/
theorem KeepsWindow.quiet {opened : Bool} {object : WifiNetworkObject w}
    (keeps : KeepsWindow log opened object)
    (apart : ∀ record ∈ records, record.tag = .framePushed ∨ record.tag = .dataSent) :
    KeepsWindow (log ++ records) opened object := by
  have popped : poppedFrames (log ++ records) = poppedFrames log := by
    apply since_append_of_apart
    intro record member
    rcases apart record member with tag | tag <;> simp [tag]
  have received : latest .dataReceived (log ++ records) = latest .dataReceived log := by
    apply latest_append_of_apart
    intro record member
    rcases apart record member with tag | tag <;> simp [tag]
  refine ⟨keeps.buffered, keeps.inWindow, ?_, ?_⟩
  · rw [popped, received]
    exact keeps.popped
  · rw [popped, received]
    exact keeps.reading

/-- What the receiver writes is not about the queue. -/
theorem KeepsQueue.quiet {drops : Prop} {dumping after : Dumping w}
    (keeps : dumping.KeepsQueue drops) (sender : after.senderObject = dumping.senderObject)
    (written : after.log = dumping.log ++ records) (consistent : Consistent drops after.log)
    (apart : ∀ record ∈ records, record.tag = .dataReceived ∨ record.tag = .framePopped) :
    after.KeepsQueue drops := by
  have pushed : pushedFrames after.log = pushedFrames dumping.log := by
    rw [written]
    apply since_append_of_apart
    intro record member
    rcases apart record member with tag | tag <;> simp [tag]
  obtain ⟨frames, last, queued⟩ := keeps.queue
  refine ⟨consistent, frames, ?_, ?_⟩
  · rw [pushed]
    exact last
  · rw [sender]
    exact queued

/-- **What every fair call keeps.** -/
theorem keeps_next {drops : Prop} {timeDiff : TimeDiff} {dumping : Dumping w}
    (queue : dumping.KeepsQueue drops)
    (window : KeepsWindow dumping.log dumping.opened dumping.receiverObject) {call : DumpCall w}
    (fair : dumping.Fair E drops timeDiff call) :
    (dumping.next E timeDiff call).KeepsQueue drops ∧
      KeepsWindow (dumping.next E timeDiff call).log (dumping.next E timeDiff call).opened
        (dumping.next E timeDiff call).receiverObject := by
  cases call with
  | push caller answer frame =>
      exact ⟨queue.push E timeDiff caller fair,
        window.quiet fun record member => .inl (pushRecords_tag _ frame record member)⟩
  | send answer =>
      exact ⟨queue.send E timeDiff fair,
        window.quiet fun record member => .inr (sendRecords_tag answer _ record member)⟩
  | receive call =>
      refine ⟨queue.quiet rfl rfl ?_ ?_, window.receive timeDiff _ fair⟩
      · simp only [next, receiveRecords]
        split
        · exact queue.consistent.received _
        · rw [List.append_nil]
          exact queue.consistent
      · intro record member
        exact .inl (receiveRecords_tag _ record member)
  | pop =>
      obtain ⟨opened, unwrapped⟩ := fair
      rw [opened] at window
      obtain ⟨kept, consistent⟩ := window.pop E unwrapped
      refine ⟨queue.quiet rfl rfl (consistent queue.consistent) ?_, ?_⟩
      · intro record member
        exact .inr (popRecords_tag _ record member)
      · simpa only [next, opened] using kept

end Dumping

/-- **The dump file of every fair run is consistent.** -/
theorem dumpLog_consistent {drops : Prop} {timeDiff : TimeDiff}
    {senderObject receiverObject : WifiNetworkObject w} (asNew : QueueAsNew senderObject)
    (buffered : Buffered receiverObject) (empty : receiverObject.size = 0)
    {calls : List (DumpCall w)} {reached : Dumping w}
    (run : Run (restrict (Dumping.Fair E drops timeDiff) (follows (Dumping.next E timeDiff)))
      (.fresh senderObject receiverObject) calls reached) :
    Consistent drops reached.log := by
  have kept : reached.KeepsQueue drops ∧
      Dumping.KeepsWindow reached.log reached.opened reached.receiverObject := by
    refine run.invariant (fun dumping => dumping.KeepsQueue drops ∧
      Dumping.KeepsWindow dumping.log dumping.opened dumping.receiverObject) ?_ ?_
    · rintro before call after ⟨queue, window⟩ ⟨fair, rfl⟩
      exact Dumping.keeps_next E queue window fair
    · refine ⟨⟨.nil, [], LastOf.nil drops, .of_queueAsNew asNew⟩,
        ⟨buffered, ?_, List.nil_prefix, .inl empty⟩⟩
      intro opened
      cases opened
  exact kept.1.consistent

/-- A frame is pushed and sent, and the same bytes arrive and are popped. -/
def echoed : List (DumpCall 64) :=
  [.push (fun _ => 65) (.bytes 0) ⟨1, 2, 3, 8, 16⟩, .send (.sent 8),
    .receive (arrival [1, 2, 3, 8, 0, 0, 0, 65]), .pop]

theorem dumpLog_consistent_echoed :
    Consistent False
      (echoed.foldl (Dumping.next .littleEndianHost exactDiff)
        (.fresh ((newSender (.cleared 64) fourGiB).connected 3 (4, 5) 212992) newAtFourGiB)).log :=
  dumpLog_consistent .littleEndianHost
    (queueAsNew_connected (.cleared 64) placed_fourGiB 3 (4, 5) 212992)
    (buffered_bound (.cleared 64) placed_fourGiB _ _ _) rfl
    (show Run (restrict (Dumping.Fair .littleEndianHost False exactDiff)
        (follows (Dumping.next .littleEndianHost exactDiff)))
        (.fresh ((newSender (.cleared 64) fourGiB).connected 3 (4, 5) 212992) newAtFourGiB)
        echoed _ from
      .cons ⟨show SafelySized _ _ _ by decide, rfl⟩ (.cons ⟨fun full => (by cases full), rfl⟩
        (.cons ⟨fun _ => rfl, rfl⟩ (.single ⟨show _ ∧ (_ → _) by decide, rfl⟩))))

end WifiNetwork

end ARNetworkAL
