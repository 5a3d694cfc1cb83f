import ARNetworkAL.Ble.Android
import ARNetworkAL.Ble.Ios
import Mathlib.Data.List.Forall2

/-!
# The Bluetooth transport end to end

Either system can be on either side. A sender that writes every frame leaves one packet a
frame (`pushAll_fits`); a receiver that pops once for each notification of a packet gets the
message back (`popAll_carries`). Together the frames come out as they went in
(`notifications_deliver`).
-/

set_option autoImplicit false

namespace ARNetworkAL

open Library

namespace BleNetwork

variable {w w' : ℕ} {κ κ' : Type}

/-- The implementations. -/
inductive Platform where
  | ios
  | android
  deriving DecidableEq, Repr

/-- A call of `PushFrame`: the caller's memory, what the call meets, and the frame. -/
structure PushCall (w : ℕ) where
  caller : Mem UInt8
  answers : PushAnswers
  frame : Frame w

/-- What the frame says. -/
def PushCall.content (call : PushCall w) : Message := call.frame.content call.caller

/-- A call of `PopFrame`: where the value is put, whether there is a Java environment, and
what the frame holds before. -/
structure PopCall (w : ℕ) where
  placement : Placement w
  env : Bool
  frame : Frame w

namespace Platform

/-- The network object. -/
def Object (κ : Type) : Platform → Type
  | ios => Network κ
  | android => Jni.JniObject κ

/-- The fields of it that both have. -/
def network : (platform : Platform) → platform.Object κ → Network κ
  | ios, object => object
  | android, object => object.jBLENetwork

/-- `PushFrame`. -/
def push : (platform : Platform) → platform.Object κ → PushCall w →
    PushOutcome (platform.Object κ)
  | ios, object, call => Ios.pushFrame call.caller call.answers object call.frame
  | android, object, call => Jni.pushFrame call.caller call.answers object call.frame

/-- `PopFrame`. -/
def pop : (platform : Platform) → platform.Object κ → PopCall w →
    PopOutcome w (platform.Object κ)
  | ios, object, call => Ios.popFrame call.placement object call.frame
  | android, object, call => Jni.popFrame call.env call.placement object call.frame

/-- Several frames, one call after the other: the results and the values written. -/
def pushAll (platform : Platform) :
    platform.Object κ → List (PushCall w) → List (Option ManagerReturn) × List Write
  | _, [] => ([], [])
  | object, call :: calls =>
      let outcome := platform.push object call
      let (results, writes) := pushAll platform outcome.object calls
      (outcome.result :: results, outcome.writes ++ writes)

/-- Several calls of `PopFrame`: the results with what the frames say, and the object
afterwards. -/
def popAll (platform : Platform) : platform.Object κ → List (PopCall w) →
    List (Option ManagerReturn × Message) × platform.Object κ
  | object, [] => ([], object)
  | object, call :: calls =>
      let outcome := platform.pop object call
      let (popped, after) := popAll platform outcome.object calls
      ((outcome.result, outcome.content call.placement) :: popped, after)

end Platform

/-! ## Sending -/

/-- A call that can be carried out: the frame fits a value, there is a characteristic for
its identifier, and nothing fails on the way. -/
structure PushCall.Written (characteristics : List κ) (call : PushCall w) : Prop where
  fits : FitsValue call.frame
  known : call.frame.id.toNat < characteristics.length
  answers : call.answers = ⟨true, true, true⟩

/-- What such a call writes. -/
def PushCall.write (call : PushCall w) : Write :=
  ⟨some call.frame.id.toNat, packet call.content⟩

section

variable (word : 32 ≤ w) {platform : Platform} {object : platform.Object κ}
  {characteristics : List κ}
  (service : (platform.network object).sendService = some characteristics)

include word service

theorem push_written {call : PushCall w} (written : call.Written characteristics) :
    (platform.push object call).result = some .default ∧
      (platform.push object call).writes = [call.write] ∧
      (platform.network (platform.push object call).object).sendService =
        some characteristics := by
  obtain ⟨fits, known, answers⟩ := written
  cases platform with
  | ios => exact Ios.pushFrame_fits word call.caller (by rw [answers]) fits service known
  | android =>
      exact Jni.pushFrame_fits word call.caller (by rw [answers]) (by rw [answers])
        (by rw [answers]) fits service known

/-- **Frames that fit are written as their packets, in order.** -/
theorem pushAll_written {calls : List (PushCall w)}
    (written : ∀ call ∈ calls, call.Written characteristics) :
    platform.pushAll object calls =
      (calls.map fun _ => some .default, calls.map PushCall.write) := by
  induction calls generalizing object with
  | nil => rfl
  | cons call calls ih =>
      obtain ⟨first, others⟩ := List.forall_mem_cons.mp written
      obtain ⟨result, writes, service⟩ := push_written word service first
      rw [Platform.pushAll, ih service others, result, writes]
      rfl

end

/-! ## Receiving -/

/-- A written value is notified by a characteristic whose short UUID has the place of the
characteristic written to as its low byte. -/
structure Delivered (write : Write) (notification : Notification) : Prop where
  value : notification.value = write.data
  shortUuid : IsShortUuid notification.shortUuid
  place : write.characteristic = some (hexNumber notification.shortUuid % 256)

/-- A notification that a frame can be read from, and what it says. -/
structure Carries (message : Message) (notification : Notification) : Prop where
  readable : notification.Readable
  message : notification.message? = some message

theorem Delivered.carries {call : PushCall w} {notification : Notification}
    (delivered : Delivered call.write notification)
    (header : offsetofDataPtr ≤ call.frame.size.toNat) :
    Carries call.content notification := by
  obtain ⟨value, shortUuid, place⟩ := delivered
  have low : call.frame.id.toNat = hexNumber notification.shortUuid % 256 :=
    Option.some.inj place
  have id : notification.id = call.content.id := by
    apply UInt8.toNat_inj.mp
    rw [Notification.id, UInt8.toNat_ofNat']
    exact low.symm
  refine ⟨⟨shortUuid, .inr ?_⟩, ?_⟩
  · rw [value]
    exact Nat.le_add_left 2 _
  · rw [Notification.message?, id, value]
    exact unpacket_packet (call.frame.content_wellSized call.caller header)

/-- **Both implementations pop a queue that is not empty.** -/
theorem pop_pops (word : 32 ≤ w) {platform : Platform} {object : platform.Object κ}
    (nonempty : (platform.network object).recvArray ≠ [])
    (readable : ∀ notification ∈ (platform.network object).recvArray.head?,
      notification.Readable) {call : PopCall w} (env : call.env = true) :
    Pops (popQueue (platform.network object).recvArray) (platform.pop object call)
      call.placement (platform.network (platform.pop object call).object).recvArray := by
  cases platform with
  | ios => exact Ios.popFrame_pops word call.placement readable call.frame
  | android =>
      simp only [Platform.pop, env]
      exact Jni.popFrame_pops word call.placement nonempty readable call.frame

/-- **One call for each notification gives the messages, in order.** -/
theorem popAll_carries (word : 32 ≤ w) {platform : Platform} {object : platform.Object κ}
    {messages : List Message}
    (carries : List.Forall₂ Carries messages (platform.network object).recvArray)
    {calls : List (PopCall w)} (once : calls.length = messages.length)
    (env : ∀ call ∈ calls, call.env = true) :
    (platform.popAll object calls).1 = messages.map (fun message => (some .default, message)) ∧
      (platform.network (platform.popAll object calls).2).recvArray = [] := by
  induction messages generalizing object calls with
  | nil =>
      rw [List.forall₂_nil_left_iff] at carries
      rw [List.eq_nil_of_length_eq_zero once]
      exact ⟨rfl, carries⟩
  | cons message messages ih =>
      match calls, once with
      | call :: calls, once =>
          obtain ⟨present, others⟩ := List.forall_mem_cons.mp env
          obtain ⟨notification, rest, first, later, queue⟩ :=
            List.forall₂_cons_left_iff.mp carries
          have readable : ∀ notification ∈ (platform.network object).recvArray.head?,
              notification.Readable := by
            rintro other head
            rw [queue] at head
            cases head
            exact first.readable
          have popped := pop_pops word (by rw [queue]; exact List.cons_ne_nil _ _) readable present
          rw [queue, popQueue] at popped
          simp only [first.message] at popped
          have remaining : (platform.network (platform.pop object call).object).recvArray = rest :=
            popped.remaining
          obtain ⟨results, emptied⟩ :=
            ih (by rw [remaining]; exact later) (Nat.succ.inj once) others
          refine ⟨?_, emptied⟩
          simp only [Platform.popAll, results, popped.result, popped.content, List.map_cons]

/-! ## End to end -/

/-- **Frames that fit a value come out as they went in**, whichever systems are at the two
ends. -/
theorem notifications_deliver (word : 32 ≤ w) (word' : 32 ≤ w') (sender receiver : Platform)
    {senderObject : sender.Object κ} {characteristics : List κ}
    (service : (sender.network senderObject).sendService = some characteristics)
    {calls : List (PushCall w)} (written : ∀ call ∈ calls, call.Written characteristics)
    {notifications : List Notification}
    (delivered : List.Forall₂ Delivered (sender.pushAll senderObject calls).2 notifications)
    {receiverObject : receiver.Object κ'}
    (received : (receiver.network receiverObject).recvArray = notifications)
    {pops : List (PopCall w')} (once : pops.length = notifications.length)
    (env : ∀ pop ∈ pops, pop.env = true) :
    (receiver.popAll receiverObject pops).1 =
        calls.map (fun call => (some .default, call.content)) ∧
      (receiver.network (receiver.popAll receiverObject pops).2).recvArray = [] := by
  rw [pushAll_written word service written, List.forall₂_map_left_iff] at delivered
  have carries : List.Forall₂ Carries (calls.map PushCall.content) notifications := by
    have both := (List.forall₂_and_left _ _).mpr
      ⟨fun call member => (written call member).fits.1, delivered⟩
    rw [List.forall₂_map_left_iff]
    refine both.imp ?_
    rintro call notification ⟨header, written⟩
    exact written.carries header
  have counted : pops.length = (calls.map PushCall.content).length := by
    rw [once, carries.length_eq]
  rw [← received] at carries
  obtain ⟨results, emptied⟩ := popAll_carries word' carries counted env
  rw [results, List.map_map]
  exact ⟨rfl, emptied⟩

/-- A frame with one byte of payload, for the second of two characteristics. -/
def oneByte : PushCall 64 := ⟨.ofList [65], ⟨true, true, true⟩, ⟨2, 1, 7, 8, 0⟩⟩

/-- After it comes one with two bytes, for the first. -/
def twoFrames : List (PushCall 64) :=
  [oneByte, ⟨.ofList [66, 67], ⟨true, true, true⟩, ⟨2, 0, 8, 9, 0⟩⟩]

theorem twoFrames_written : ∀ call ∈ twoFrames, call.Written [(), ()] := by
  intro call member
  rcases List.mem_pair.mp member with rfl | rfl
  · exact ⟨by decide, by decide, rfl⟩
  · exact ⟨by decide, by decide, rfl⟩

/-- Their notifications. -/
def twoNotifications : Network Unit :=
  ⟨none, [⟨['f', 'a', '0', '1'], [2, 7, 65]⟩, ⟨['f', 'a', '0', '0'], [2, 8, 66, 67]⟩], 0, 0⟩

/-- Where the two values are put. -/
def twoPops : List (PopCall 64) :=
  [⟨⟨16, fun _ => 0⟩, true, .reset 64⟩, ⟨⟨32, fun _ => 0⟩, true, .reset 64⟩]

/-- They are sent on iOS and received on Android, and the other way round. -/
theorem notifications_deliver_two :
    (Platform.popAll .android (⟨twoNotifications, none⟩ : Jni.JniObject Unit) twoPops).1 =
        twoFrames.map (fun call => (some .default, call.content)) ∧
      (Platform.popAll .ios twoNotifications twoPops).1 =
        twoFrames.map (fun call => (some .default, call.content)) := by
  constructor
  · exact (notifications_deliver (by decide) (by decide) .ios .android
      (show (Platform.network .ios (⟨some [(), ()], [], 0, 0⟩ : Network Unit)).sendService =
        some [(), ()] from rfl)
      twoFrames_written
      (.cons ⟨rfl, by decide, by decide⟩ (.cons ⟨rfl, by decide, by decide⟩ .nil)) rfl rfl
      (by decide)).1
  · exact (notifications_deliver (by decide) (by decide) .android .ios
      (show (Platform.network .android
        (⟨⟨some [(), ()], [], 0, 0⟩, none⟩ : Jni.JniObject Unit)).sendService =
          some [(), ()] from rfl)
      twoFrames_written
      (.cons ⟨rfl, by decide, by decide⟩ (.cons ⟨rfl, by decide, by decide⟩ .nil)) rfl rfl
      (by decide)).1

end BleNetwork

end ARNetworkAL
