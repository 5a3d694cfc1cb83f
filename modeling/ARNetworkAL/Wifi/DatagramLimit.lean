import ARNetworkAL.Wifi.SendQueue

/-!
# The queue against the largest datagram

`Send` hands the whole queue to the socket as one datagram. UDP over IPv4 carries
`maxUdpPayload` bytes in one, what is left of `IP_MAXPACKET` after an IPv4 header and
a UDP header. The limit in `PushFrame` subtracts the UDP header alone, so the queue
can grow past it by twenty bytes.

A run keeps the queue sendable exactly when each of its frames is refused or fits
(`sendable_iff_run`). Once the queue is too long it stays so: no `Send` empties it,
and `PushFrame` only appends (`wedged_run`).
-/

set_option autoImplicit false

namespace ARNetworkAL

open Library

namespace WifiNetwork

variable {w : ℕ} (E : Endianness)

/-- The size of an IPv4 header without options. -/
def ipv4HeaderSize : ℕ := 20

/-- The most bytes that one datagram carries. -/
def maxUdpPayload : ℕ := ipMaxPacket - ipv4HeaderSize - udpHeaderSize

/-- `EMSGSIZE`. -/
def emsgsize : Errno := .other 90

/-- The answer of a UDP socket, which refuses a datagram for its length exactly when it
is too long. -/
def UdpAnswer (datagram : List UInt8) (answer : SocketSend) : Prop :=
  answer = .failed emsgsize ↔ maxUdpPayload < datagram.length

/-- The queue fits one datagram, and no `Send` fails for its length. -/
structure Sendable (object : WifiNetworkObject w) : Prop where
  short : object.size.toNat ≤ maxUdpPayload
  accepted : ∀ answer, UdpAnswer object.window answer → answer ≠ .failed emsgsize

theorem sendable_iff (object : WifiNetworkObject w) :
    Sendable object ↔ object.size.toNat ≤ maxUdpPayload := by
  constructor
  · intro sendable
    exact sendable.short
  · intro short
    refine ⟨short, ?_⟩
    intro answer udp refused
    have long := udp.mp refused
    rw [length_window] at long
    exact Nat.not_le_of_lt long short

/-! ## What each call does to the size -/

/-- A call whose frame has a size between a header and `maxBufferSize` plus a header. -/
def SenderCall.InRange (_ : WifiNetworkObject w) : SenderCall w → Prop
  | push _ _ frame =>
      offsetofDataPtr ≤ frame.size.toNat ∧
        frame.size.toNat ≤ maxDataBufferSize + offsetofDataPtr
  | send _ _ => True

/-- A frame that fits one datagram with the queue, or that one of the tests of `PushFrame`
refuses. -/
def FitsDatagram (answer : OutqAnswer) (object : WifiNetworkObject w) (frame : Frame w) : Prop :=
  object.size.toNat + frame.size.toNat ≤ maxUdpPayload ∨
    sendingBufferSize < object.size.toNat + frame.size.toNat ∨
      (0 ≤ (getAvailableSendSize answer object).1 ∧
        (getAvailableSendSize answer object).1.toNat % 2 ^ 32 <
          object.size.toNat + frame.size.toNat)

/-- A call whose frame is such a frame. -/
def SenderCall.Fits (object : WifiNetworkObject w) : SenderCall w → Prop
  | push _ answer frame => FitsDatagram answer object frame
  | send _ _ => True

/-- The steps of the sender with frames in range. -/
abbrev senderStep : WifiNetworkObject w → SenderCall w → WifiNetworkObject w → Prop :=
  restrict SenderCall.InRange (follows (SenderCall.next E))

namespace Queued

variable {object : WifiNetworkObject w} {bytes : List UInt8}

/-- The sum that `PushFrame` computes for a frame in range does not wrap. -/
theorem sum_lt (queued : Queued object bytes) {frame : Frame w}
    (bounded : frame.size.toNat ≤ maxDataBufferSize + offsetofDataPtr) :
    object.size.toNat + frame.size.toNat < 2 ^ 32 := by
  have within := queued.within
  have limit : maxDataBufferSize + offsetofDataPtr = 65527 := rfl
  rw [sendingBufferSize_eq] at within
  rw [queued.size]
  omega

/-- The size after a frame in range. -/
theorem size_push (queued : Queued object bytes) (caller : Mem UInt8) (answer : OutqAnswer)
    {frame : Frame w} (holdsHeader : offsetofDataPtr ≤ frame.size.toNat)
    (bounded : frame.size.toNat ≤ maxDataBufferSize + offsetofDataPtr) :
    (Admits answer object frame ∧
      Queued (pushFrame E caller answer object frame).senderObject
        (bytes ++ wire E (frame.content caller)) ∧
      (pushFrame E caller answer object frame).senderObject.size.toNat =
        object.size.toNat + frame.size.toNat) ∨
    (¬ Admits answer object frame ∧
      Queued (pushFrame E caller answer object frame).senderObject bytes) := by
  by_cases admitted : Admits answer object frame
  · have room := admitted.1
    rw [UInt32.toNat_add, Nat.mod_eq_of_lt (queued.sum_lt bounded), queued.size] at room
    have appended := queued.push_admitted E caller admitted holdsHeader room
    refine .inl ⟨admitted, appended, ?_⟩
    rw [appended.size, queued.size, List.length_append,
      length_wire E (frame.content_wellSized caller holdsHeader)]
    rfl
  · exact .inr ⟨admitted, queued.push_refused E caller admitted⟩

/-- The queue stays a queue. -/
theorem senderStep (queued : Queued object bytes) {call : SenderCall w}
    {after : WifiNetworkObject w} (taken : WifiNetwork.senderStep E object call after) :
    ∃ bytes', Queued after bytes' := by
  obtain ⟨inRange, rfl⟩ := taken
  cases call with
  | push caller answer frame =>
      rcases queued.size_push E caller answer inRange.1 inRange.2 with
        ⟨_, appended, _⟩ | ⟨_, same⟩
      · exact ⟨_, appended⟩
      · exact ⟨_, same⟩
  | send answer receiverObject =>
      rcases queued.send answer receiverObject with left | emptied
      · exact ⟨_, left⟩
      · exact ⟨_, emptied⟩

/-- The tests of `PushFrame` for a frame in range, without the wrap. -/
theorem admits_iff (queued : Queued object bytes) {answer : OutqAnswer} {frame : Frame w}
    (bounded : frame.size.toNat ≤ maxDataBufferSize + offsetofDataPtr) :
    Admits answer object frame ↔
      object.size.toNat + frame.size.toNat ≤ sendingBufferSize ∧
        (0 ≤ (getAvailableSendSize answer object).1 →
          object.size.toNat + frame.size.toNat ≤
            (getAvailableSendSize answer object).1.toNat % 2 ^ 32) := by
  rw [WifiNetwork.admits_iff, Nat.mod_eq_of_lt (queued.sum_lt bounded)]

/-- **One call keeps a sendable queue sendable exactly when its frame fits or is refused.** -/
theorem sendable_step (queued : Queued object bytes) (sendable : Sendable object)
    {call : SenderCall w} {after : WifiNetworkObject w}
    (taken : WifiNetwork.senderStep E object call after) :
    Sendable after ↔ call.Fits object := by
  obtain ⟨inRange, rfl⟩ := taken
  rw [sendable_iff] at sendable ⊢
  cases call with
  | push caller answer frame =>
      simp only [SenderCall.next, SenderCall.Fits, FitsDatagram]
      rcases queued.size_push E caller answer inRange.1 inRange.2 with
        ⟨admitted, _, size⟩ | ⟨refused, same⟩
      · obtain ⟨small, room⟩ := (queued.admits_iff inRange.2).mp admitted
        rw [size]
        omega
      · rw [queued.admits_iff inRange.2] at refused
        rw [same.size, ← queued.size]
        omega
  | send answer receiverObject =>
      refine iff_of_true ?_ trivial
      rcases queued.send answer receiverObject with left | emptied
      · rw [SenderCall.next, left.size, ← queued.size]
        exact sendable
      · rw [SenderCall.next, emptied.size]
        exact Nat.zero_le _

end Queued

/-! ## Runs -/

/-- **The queue is sendable in every state of a run exactly when every frame of the run fits
one datagram with the queue before it, or is refused.** -/
theorem sendable_iff_run {start object : WifiNetworkObject w} (asNew : QueueAsNew start)
    {calls : List (SenderCall w)} (run : Run (senderStep E) start calls object) :
    (∀ passed, passed <+: calls → ∀ reached, Run (senderStep E) start passed reached →
        Sendable reached) ↔
      Run (restrict SenderCall.Fits (senderStep E)) start calls object := by
  have queued := Queued.of_queueAsNew asNew
  have sendable : Sendable start := by
    rw [sendable_iff, queued.size]
    exact Nat.zero_le _
  have steps := run.always_iff
    (fun object => (∃ bytes, Queued object bytes) ∧ Sendable object) SenderCall.Fits
    (fun _ _ _ _ first second => first.2.symm.trans second.2)
    (fun before call after holds taken => by
      obtain ⟨⟨bytes, queued⟩, sendable⟩ := holds
      rw [← queued.sendable_step E sendable taken]
      exact and_iff_right (queued.senderStep E taken))
    ⟨⟨[], queued⟩, sendable⟩
  rw [← steps]
  refine forall₄_congr ?_
  intro passed start reached there
  refine (and_iff_right ?_).symm
  refine Run.invariant (fun object => ∃ bytes, Queued object bytes) ?_ there ⟨[], queued⟩
  rintro before call after ⟨bytes, queued⟩ taken
  exact queued.senderStep E taken

/-- One frame of the largest size that fits. -/
theorem sendable_iff_run_largest :
    Sendable (SenderCall.next Endianness.littleEndianHost
      ((newSender (.cleared 64) fourGiB).connected 3 (4, 5) 212992)
      (.push (fun _ => 0) (.bytes 0) ⟨1, 2, 3, 65507, 0⟩)) := by
  have inRange : SenderCall.InRange
      ((newSender (.cleared 64) fourGiB).connected 3 (4, 5) 212992)
      (.push (fun _ => 0) (.bytes 0) ⟨1, 2, 3, 65507, 0⟩) := by
    simp [SenderCall.InRange, maxDataBufferSize, ipMaxPacket, udpHeaderSize]
  exact (sendable_iff_run Endianness.littleEndianHost
    (queueAsNew_connected (.cleared 64) placed_fourGiB 3 (4, 5) 212992)
    (.single ⟨inRange, rfl⟩)).mpr (.single ⟨.inl (by decide), inRange, rfl⟩) _
      (List.prefix_refl _) _ (.single ⟨inRange, rfl⟩)

/-- A frame of the size that the manager announces is taken by an empty queue. -/
theorem not_sendable_largest :
    ¬ ∀ (calls : List (SenderCall 64)) (object : WifiNetworkObject 64),
      Run (senderStep Endianness.littleEndianHost)
        ((newSender (.cleared 64) fourGiB).connected 3 (4, 5) 212992) calls object →
      Sendable object := by
  intro claimed
  have sendable := claimed [.push (fun _ => 0) (.bytes 0) ⟨1, 2, 3, 65527, 0⟩] _
    (.single ⟨by simp [SenderCall.InRange, maxDataBufferSize, ipMaxPacket, udpHeaderSize], rfl⟩)
  exact absurd sendable.short (by decide)

/-! ## A queue that is too long -/

/-- A call whose socket is a UDP socket. -/
def SenderCall.OnUdp (object : WifiNetworkObject w) : SenderCall w → Prop
  | push _ _ _ => True
  | send answer _ => UdpAnswer object.window answer

/-- `Send` reports a disconnection and keeps the bytes. -/
theorem Queued.send_long {object : WifiNetworkObject w} {bytes : List UInt8}
    (queued : Queued object bytes) (long : maxUdpPayload < bytes.length) {answer : SocketSend}
    (udp : UdpAnswer object.window answer) (receiverObject : Option (WifiNetworkObject w)) :
    (WifiNetwork.send answer object receiverObject).result = .networkError ∧
      (WifiNetwork.send answer object receiverObject).senderObject.isDisconnected ≠ 0 ∧
      Queued (WifiNetwork.send answer object receiverObject).senderObject bytes := by
  have some : object.size ≠ 0 := by
    intro empty
    have size := queued.size
    rw [empty] at size
    rw [← size] at long
    exact Nat.not_lt_zero _ long
  have refused : answer = .failed emsgsize := by
    apply udp.mpr
    rw [queued.window]
    exact long
  rw [refused, send_failed receiverObject (by decide) some]
  split
  · exact ⟨rfl, (by decide : (1 : UInt8) ≠ 0), queued.setDisconnected _⟩
  · rename_i known
    exact ⟨rfl, known, queued⟩

/-- **A queue that is too long only grows, and every later `Send` fails.** -/
theorem wedged_run {start reached : WifiNetworkObject w} {bytes : List UInt8}
    (queued : Queued start bytes) (long : maxUdpPayload < bytes.length)
    {calls : List (SenderCall w)}
    (run : Run (restrict SenderCall.OnUdp (senderStep E)) start calls reached) :
    ∃ more, Queued reached (bytes ++ more) ∧
      ∀ answer receiverObject, UdpAnswer reached.window answer →
        (send answer reached receiverObject).result = .networkError := by
  have grown : ∃ more, Queued reached (bytes ++ more) := by
    refine Run.invariant (fun object => ∃ more, Queued object (bytes ++ more)) ?_ run
      ⟨[], by rwa [List.append_nil]⟩
    rintro before call after ⟨more, queued⟩ ⟨udp, inRange, rfl⟩
    cases call with
    | push caller answer frame =>
        rcases queued.size_push E caller answer inRange.1 inRange.2 with
          ⟨_, appended, _⟩ | ⟨_, same⟩
        · rw [List.append_assoc] at appended
          exact ⟨_, appended⟩
        · exact ⟨more, same⟩
    | send answer receiverObject =>
        have longer : maxUdpPayload < (bytes ++ more).length := by
          rw [List.length_append]
          omega
        exact ⟨more, (queued.send_long longer udp receiverObject).2.2⟩
  obtain ⟨more, still⟩ := grown
  refine ⟨more, still, ?_⟩
  intro answer receiverObject udp
  have longer : maxUdpPayload < (bytes ++ more).length := by
    rw [List.length_append]
    omega
  exact (still.send_long longer udp receiverObject).1

end WifiNetwork

end ARNetworkAL
