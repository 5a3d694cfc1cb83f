import ARNetworkAL.Ble.Android
import ARNetworkAL.Ble.Ios

/-!
# Popping on iOS and on Android

Both implementations pop a queue that is not empty in the same way, that of `popQueue`. On
an empty queue they differ: iOS answers `BUFFER_EMPTY`, and Android never does
(`Jni.popFrame_ne_bufferEmpty`).
-/

set_option autoImplicit false

namespace ARNetworkAL

open Library

namespace BleNetwork

variable {w w' : ℕ} {κ κ' : Type}

theorem popQueue_bufferEmpty_iff (queue : List Notification) :
    (popQueue queue).result = .bufferEmpty ↔ queue = [] := by
  cases queue with
  | nil => exact iff_of_true rfl rfl
  | cons notification rest =>
      refine iff_of_false ?_ (List.cons_ne_nil _ _)
      rw [popQueue]
      split
      · simp
      · simp

/-- **On Android `PopFrame` never answers `BUFFER_EMPTY`**, whatever the queue. -/
theorem Jni.popFrame_ne_bufferEmpty (env : Bool) (placement : Placement w)
    (object : Jni.JniObject κ) (frame : Frame w) :
    (Jni.popFrame env placement object frame).result ≠ some .bufferEmpty := by
  cases env with
  | false => simp [Jni.popFrame]
  | true =>
      cases queue : object.jBLENetwork.recvArray with
      | nil => simp [Jni.popFrame, Java.popFrame, queue, Java.DataPop.new]
      | cons notification rest =>
          by_cases empty : notification.value.length = 0
          · simp [Jni.popFrame, Java.popFrame, queue, empty, Java.DataPop.new]
          · cases parsed : parseHex notification.shortUuid with
            | none => simp [Jni.popFrame, Java.popFrame, queue, empty, parsed]
            | some frameId =>
                simp [Jni.popFrame, Java.popFrame, queue, empty, parsed, Java.DataPop.new]

/-- Two calls of `PopFrame` on the same queue, one on each system, are the same, and each
answers `BUFFER_EMPTY` exactly when the queue is empty. -/
structure Equivalent (queue : List Notification) (ios : PopOutcome w (Network κ))
    (iosPlacement : Placement w) (jni : PopOutcome w' (Jni.JniObject κ'))
    (jniPlacement : Placement w') : Prop where
  result : ios.result = jni.result
  content : ios.content iosPlacement = jni.content jniPlacement
  remaining : ios.object.recvArray = jni.object.jBLENetwork.recvArray
  iosEmpty : ios.result = some .bufferEmpty ↔ queue = []
  jniEmpty : jni.result = some .bufferEmpty ↔ queue = []

/-- **They are exactly where there is something to pop.** -/
theorem popFrame_equivalent_iff (word : 32 ≤ w) (word' : 32 ≤ w') {queue : List Notification}
    (readable : ∀ notification ∈ queue, notification.Readable) {network : Network κ}
    (iosQueue : network.recvArray = queue) {object : Jni.JniObject κ'}
    (jniQueue : object.jBLENetwork.recvArray = queue) (iosPlacement : Placement w)
    (jniPlacement : Placement w') (iosFrame : Frame w) (jniFrame : Frame w') :
    Equivalent queue (Ios.popFrame iosPlacement network iosFrame) iosPlacement
        (Jni.popFrame true jniPlacement object jniFrame) jniPlacement ↔
      queue ≠ [] := by
  constructor
  · intro equivalent empty
    exact Jni.popFrame_ne_bufferEmpty true jniPlacement object jniFrame
      (equivalent.jniEmpty.mpr empty)
  · intro nonempty
    subst iosQueue
    have first : ∀ notification ∈ network.recvArray.head?, notification.Readable :=
      fun notification head => readable notification (List.mem_of_mem_head? head)
    have ios := Ios.popFrame_pops word iosPlacement first iosFrame
    rw [← jniQueue] at nonempty first
    have jni := Jni.popFrame_pops word' jniPlacement nonempty first jniFrame
    rw [jniQueue] at jni
    refine ⟨?_, ?_, ?_, ?_, ?_⟩
    · rw [ios.result, jni.result]
    · rw [ios.content, jni.content]
    · rw [ios.remaining, jni.remaining]
    · rw [ios.result, Option.some.injEq, popQueue_bufferEmpty_iff]
    · rw [jni.result, Option.some.injEq, popQueue_bufferEmpty_iff]

/-- A network that received some notifications, and sends nothing. -/
def received (queue : List Notification) : Network Unit := ⟨none, queue, 0, 0⟩

/-- A value at address 16, with zeros behind it. -/
def atSixteen : Placement 64 := ⟨16, fun _ => 0⟩

/-- Three bytes, notified by the characteristic that ends in `0b`. -/
def threeBytes : Notification := ⟨['f', 'a', '0', 'b'], [2, 1, 65]⟩

/-- One notification. -/
theorem popFrame_equivalent_three :
    Equivalent [threeBytes] (Ios.popFrame atSixteen (received [threeBytes]) (.reset 64)) atSixteen
        (Jni.popFrame true atSixteen ⟨received [threeBytes], none⟩ (.reset 64)) atSixteen ↔
      [threeBytes] ≠ [] :=
  popFrame_equivalent_iff (by decide) (by decide)
    (show ∀ notification ∈ [threeBytes], notification.Readable by decide) rfl rfl atSixteen
    atSixteen (.reset 64) (.reset 64)

/-- No notification. -/
theorem popFrame_not_equivalent_nil :
    ¬ Equivalent [] (Ios.popFrame atSixteen (received []) (.reset 64)) atSixteen
      (Jni.popFrame true atSixteen ⟨received [], none⟩ (.reset 64)) atSixteen := by
  intro equivalent
  have same := equivalent.result
  cases same

end BleNetwork

end ARNetworkAL
