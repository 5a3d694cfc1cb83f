import ARNetworkAL.Ble.Agreement

/-!
# What the two implementations check of a frame

`popFrame` refuses an empty value only, so a value of one byte is accepted: its second byte is
read past its end, and the size of the frame comes out as six. `pushFrame` computes the length
of the value modulo the size of a word, so on iOS a size of five or six passes; Android hands
the length of the payload to the JVM before it is checked. The identifier is checked in Java
only.

So neither function is sound for every frame, and each is exactly where these cases are left
out (`popFrame_checked_iff`, `pushFrame_checked_iff`).
-/

set_option autoImplicit false

namespace ARNetworkAL

open Library

namespace BleNetwork

variable {w : ℕ} {κ : Type}

/-! ## Popping -/

/-- A call of `PopFrame` accepts its notification exactly if the value holds a header, fills
the frame from it or resets the frame, reads inside the value, and removes this notification
alone. -/
structure PopChecked {σ : Type} (notification : Notification) (rest : List Notification)
    (outcome : PopOutcome w σ) (placement : Placement w) (recvArray : List Notification) :
    Prop where
  accepts : outcome.result = some .default ↔ headerSize ≤ notification.value.length
  size : headerSize ≤ notification.value.length →
    outcome.frame.size.toNat = notification.value.length - headerSize + offsetofDataPtr
  content : ∀ type seq payload, notification.value = type :: seq :: payload →
    outcome.content placement = ⟨type, notification.id, seq, outcome.frame.size, payload⟩
  refuses : ¬ headerSize ≤ notification.value.length →
    outcome.result = some .badFrame ∧ outcome.frame = .reset w
  reads : ∀ region ∈ outcome.reads, region.Within 0 notification.value.length
  removed : recvArray = rest

/-- What both implementations do with the first notification: an empty value is refused, and
from any other the frame is filled. -/
structure PopsFirst {σ : Type} (notification : Notification) (rest : List Notification)
    (outcome : PopOutcome w σ) (placement : Placement w) (frame : Frame w)
    (recvArray : List Notification) : Prop where
  empty : notification.value.length = 0 →
    outcome.result = some .badFrame ∧ outcome.frame = .reset w ∧ outcome.reads = []
  filled : notification.value.length ≠ 0 →
    outcome.result = some .default ∧ outcome.currentFrame = notification.value ∧
      outcome.frame =
        fillFrame (hexNumber notification.shortUuid) placement notification.value frame ∧
      outcome.reads = fillReads
  removed : recvArray = rest

theorem Ios.popFrame_popsFirst (placement : Placement w) {network : Network κ}
    {notification : Notification} {rest : List Notification}
    (queue : network.recvArray = notification :: rest) (short : IsShortUuid notification.shortUuid)
    (frame : Frame w) :
    PopsFirst notification rest (Ios.popFrame placement network frame) placement frame
      (Ios.popFrame placement network frame).object.recvArray := by
  by_cases empty : notification.value.length = 0
  · simp only [Ios.popFrame, queue, if_pos empty]
    exact ⟨fun _ => ⟨rfl, rfl, rfl⟩, absurd empty, rfl⟩
  · simp only [Ios.popFrame, queue, if_neg empty, scanHex_shortUuid short]
    exact ⟨fun none => absurd none empty, fun _ => ⟨rfl, rfl, rfl, rfl⟩, rfl⟩

theorem Jni.popFrame_popsFirst (placement : Placement w) {object : Jni.JniObject κ}
    {notification : Notification} {rest : List Notification}
    (queue : object.jBLENetwork.recvArray = notification :: rest)
    (short : IsShortUuid notification.shortUuid) (frame : Frame w) :
    PopsFirst notification rest (Jni.popFrame true placement object frame) placement frame
      (Jni.popFrame true placement object frame).object.jBLENetwork.recvArray := by
  by_cases empty : notification.value.length = 0
  · simp only [Jni.popFrame, Java.popFrame, queue, if_pos empty]
    exact ⟨fun _ => ⟨rfl, rfl, rfl⟩, absurd empty, rfl⟩
  · simp only [Jni.popFrame, Java.popFrame, queue, if_neg empty, parseHex_shortUuid short]
    exact ⟨fun none => absurd none empty, fun _ => ⟨rfl, rfl, rfl, rfl⟩, rfl⟩

section

variable {σ : Type} {notification : Notification} {rest recvArray : List Notification}
  {outcome : PopOutcome w σ} {placement : Placement w} {frame : Frame w}

/-- An empty value is refused as it should be. -/
theorem PopsFirst.checked_of_empty
    (pops : PopsFirst notification rest outcome placement frame recvArray)
    (none : notification.value.length = 0) :
    PopChecked notification rest outcome placement recvArray := by
  obtain ⟨result, reset, reads⟩ := pops.empty none
  have headless : ¬ headerSize ≤ notification.value.length := by simp [none]
  refine ⟨?_, fun header => absurd header headless, ?_, fun _ => ⟨result, reset⟩, ?_,
    pops.removed⟩
  · rw [result]
    exact iff_of_false (by simp) headless
  · intro type seq payload value
    rw [value] at none
    cases none
  · rw [reads]
    simp

/-- A value with a header fills the frame, as long as its size has 32 bits. -/
theorem PopsFirst.checked_of_header (word : 32 ≤ w)
    (pops : PopsFirst notification rest outcome placement frame recvArray)
    (header : headerSize ≤ notification.value.length)
    (bounded : notification.value.length + 5 < 2 ^ 32) :
    PopChecked notification rest outcome placement recvArray := by
  rw [headerSize_eq] at header
  obtain ⟨result, current, fill, reads⟩ := pops.filled (by omega)
  have counted : (frameSize notification.value w).toNat =
      offsetofDataPtr + (notification.value.length - headerSize) := by
    rw [frameSize_eq word header, UInt32.toNat_ofNat', offsetofDataPtr_eq, headerSize_eq]
    exact Nat.mod_eq_of_lt (by omega)
  have size : outcome.frame.size = frameSize notification.value w := by
    rw [fill]
    rfl
  refine ⟨?_, ?_, ?_, fun headless => absurd header headless, ?_, pops.removed⟩
  · rw [result]
    exact iff_of_true rfl header
  · intro _
    rw [size, counted, Nat.add_comm]
  · intro type seq payload value
    have carried : notification.message? =
        some ⟨type, notification.id, seq, frameSize notification.value w, payload⟩ := by
      have length : notification.value.length - headerSize = payload.length := by
        rw [value]
        rfl
      rw [frameSize_eq word header, length] at counted ⊢
      simp only [Notification.message?, value, unpacket]
      rw [counted, Nat.add_sub_cancel_left, List.take_length]
    rw [PopOutcome.content, current, size, fill]
    exact content_fillFrame word placement notification carried frame
  · rw [reads]
    simp only [fillReads, List.forall_mem_cons, Region.Within]
    refine ⟨?_, ?_, by simp⟩ <;> omega

/-- **The check of a notification is right exactly for the values that do not have one byte**,
and have a length that the size can count. -/
theorem PopsFirst.checked_iff (word : 32 ≤ w)
    (pops : PopsFirst notification rest outcome placement frame recvArray) :
    PopChecked notification rest outcome placement recvArray ↔
      notification.value.length ≠ 1 ∧ notification.value.length + 5 < 2 ^ 32 := by
  constructor
  · intro checked
    by_cases none : notification.value.length = 0
    · rw [none]
      decide
    · obtain ⟨result, -, -, -⟩ := pops.filled none
      have header := checked.accepts.mp result
      have counted := checked.size header
      have size : outcome.frame.size.toNat < 2 ^ 32 := UInt32.toNat_lt _
      simp only [headerSize_eq, offsetofDataPtr_eq] at header counted
      omega
  · rintro ⟨many, bounded⟩
    by_cases none : notification.value.length = 0
    · exact pops.checked_of_empty none
    · exact pops.checked_of_header word (by rw [headerSize_eq]; omega) bounded

end

/-- Without an environment `PopFrame` does not return. -/
theorem Jni.not_popChecked_detached (placement : Placement w) (object : Jni.JniObject κ)
    (frame : Frame w) (notification : Notification) (rest recvArray : List Notification) :
    ¬ PopChecked notification rest (Jni.popFrame false placement object frame) placement
      recvArray := by
  intro checked
  have unreturned : (Jni.popFrame false placement object frame).result = none := rfl
  by_cases header : headerSize ≤ notification.value.length
  · have result := checked.accepts.mpr header
    rw [unreturned] at result
    cases result
  · have result := (checked.refuses header).1
    rw [unreturned] at result
    cases result

/-- **Both implementations check a notification exactly if its value does not have one byte**,
its size has 32 bits, and, on Android, there is an environment. -/
theorem popFrame_checked_iff {w' : ℕ} {κ' : Type} (word : 32 ≤ w) (word' : 32 ≤ w')
    {notification : Notification} (short : IsShortUuid notification.shortUuid)
    {rest : List Notification} {network : Network κ}
    (iosQueue : network.recvArray = notification :: rest) {object : Jni.JniObject κ'}
    (jniQueue : object.jBLENetwork.recvArray = notification :: rest) (env : Bool)
    (iosPlacement : Placement w) (jniPlacement : Placement w') (iosFrame : Frame w)
    (jniFrame : Frame w') :
    (PopChecked notification rest (Ios.popFrame iosPlacement network iosFrame) iosPlacement
        (Ios.popFrame iosPlacement network iosFrame).object.recvArray ↔
      notification.value.length ≠ 1 ∧ notification.value.length + 5 < 2 ^ 32) ∧
    (PopChecked notification rest (Jni.popFrame env jniPlacement object jniFrame) jniPlacement
        (Jni.popFrame env jniPlacement object jniFrame).object.jBLENetwork.recvArray ↔
      env = true ∧ notification.value.length ≠ 1 ∧ notification.value.length + 5 < 2 ^ 32) := by
  constructor
  · exact (Ios.popFrame_popsFirst iosPlacement iosQueue short iosFrame).checked_iff word
  · cases env with
    | false =>
        exact iff_of_false (Jni.not_popChecked_detached jniPlacement object jniFrame _ _ _)
          (by simp)
    | true =>
        rw [(Jni.popFrame_popsFirst jniPlacement jniQueue short jniFrame).checked_iff word',
          eq_self_iff_true, true_and]

/-- Three bytes. -/
theorem popFrame_checked_three :
    (PopChecked threeBytes []
        (Ios.popFrame atSixteen (received [threeBytes]) (.reset 64)) atSixteen
        (Ios.popFrame atSixteen (received [threeBytes]) (.reset 64)).object.recvArray ↔
      threeBytes.value.length ≠ 1 ∧ threeBytes.value.length + 5 < 2 ^ 32) ∧
    (PopChecked threeBytes []
        (Jni.popFrame true atSixteen ⟨received [threeBytes], none⟩ (.reset 64)) atSixteen
        (Jni.popFrame true atSixteen ⟨received [threeBytes], none⟩
          (.reset 64)).object.jBLENetwork.recvArray ↔
      true = true ∧ threeBytes.value.length ≠ 1 ∧ threeBytes.value.length + 5 < 2 ^ 32) :=
  popFrame_checked_iff (by decide) (by decide) (show IsShortUuid threeBytes.shortUuid by decide)
    rfl rfl true atSixteen atSixteen (.reset 64) (.reset 64)

/-- One byte: both implementations accept it, with a size of six, and read past its end. -/
theorem popFrame_not_checked_one :
    let oneByte : Notification := ⟨['f', 'a', '0', 'b'], [2]⟩
    let ios := Ios.popFrame atSixteen (received [oneByte]) (.reset 64)
    let jni := Jni.popFrame true atSixteen ⟨received [oneByte], none⟩ (.reset 64)
    (ios.result = some .default ∧ ios.frame.size = 6 ∧ ⟨1, 1⟩ ∈ ios.reads ∧
        ¬ PopChecked oneByte [] ios atSixteen ios.object.recvArray) ∧
      (jni.result = some .default ∧ jni.frame.size = 6 ∧ ⟨1, 1⟩ ∈ jni.reads ∧
        ¬ PopChecked oneByte [] jni atSixteen jni.object.jBLENetwork.recvArray) := by
  intro oneByte ios jni
  have iosResult : ios.result = some .default := by decide
  have jniResult : jni.result = some .default := by decide
  refine ⟨⟨iosResult, by decide, by decide, ?_⟩, ⟨jniResult, by decide, by decide, ?_⟩⟩
  · intro checked
    exact absurd (checked.accepts.mp iosResult) (by decide)
  · intro checked
    exact absurd (checked.accepts.mp jniResult) (by decide)

/-! ## Pushing -/

/-- A call of `PushFrame` refuses a frame that does not fit a value, or whose identifier is no
place in the send service, before anything is written, and writes any other once. It returns,
and it reads nothing but the payload. -/
structure PushChecked {σ : Type} (count : ℕ) (caller : Mem UInt8) (frame : Frame w)
    (outcome : PushOutcome σ) : Prop where
  refuses : ¬ (FitsValue frame ∧ frame.id.toNat < count) →
    outcome.result ≠ some .default ∧ outcome.writes = []
  writes : FitsValue frame → frame.id.toNat < count →
    outcome.writes = [⟨some frame.id.toNat, packet (frame.content caller)⟩] ∧
      (packet (frame.content caller)).length ≤ mediaMtu
  reads : ∀ region ∈ outcome.reads, region.Within frame.dataPtr.toNat
    (frame.dataPtr.toNat + (frame.size.toNat - offsetofDataPtr))
  returns : outcome.result.isSome

/-- The packet of a frame that fits a value. -/
theorem length_packet_le (caller : Mem UInt8) {frame : Frame w} (fits : FitsValue frame) :
    (packet (frame.content caller)).length ≤ mediaMtu := by
  have payload : (frame.content caller).payload.length = frame.size.toNat - offsetofDataPtr :=
    Mem.length_slice _ _ _
  obtain ⟨header, short⟩ := fits
  simp only [packet, List.length_cons, payload, mediaMtu_eq, headerSize_eq, offsetofDataPtr_eq]
    at header short ⊢
  omega

section

variable {σ : Type} {count : ℕ} {caller : Mem UInt8} {frame : Frame w} {outcome : PushOutcome σ}

/-- A block of as many bytes as the payload has, read where the payload lies. -/
theorem payload_within (read : ∀ region ∈ outcome.reads,
    region = ⟨frame.dataPtr.toNat, frame.size.toNat - offsetofDataPtr⟩) :
    ∀ region ∈ outcome.reads, region.Within frame.dataPtr.toNat
      (frame.dataPtr.toNat + (frame.size.toNat - offsetofDataPtr)) := by
  intro region member
  rw [read region member]
  exact ⟨Nat.le_refl _, Nat.le_refl _⟩

/-- A frame that should be refused, and is. -/
theorem PushChecked.of_refused {error : ManagerReturn}
    (misfit : ¬ (FitsValue frame ∧ frame.id.toNat < count))
    (result : outcome.result = some error) (failed : error ≠ .default)
    (writes : outcome.writes = [])
    (reads : ∀ region ∈ outcome.reads,
      region = ⟨frame.dataPtr.toNat, frame.size.toNat - offsetofDataPtr⟩) :
    PushChecked count caller frame outcome where
  refuses _ := by
    rw [result]
    exact ⟨fun same => failed (Option.some.inj same), writes⟩
  writes fits known := absurd ⟨fits, known⟩ misfit
  reads := payload_within reads
  returns := by rw [result]; rfl

/-- A frame that should be written, and is. -/
theorem PushChecked.of_written (fits : FitsValue frame) (known : frame.id.toNat < count)
    (writes : outcome.writes = [⟨some frame.id.toNat, packet (frame.content caller)⟩])
    (reads : outcome.reads = [⟨frame.dataPtr.toNat, frame.size.toNat - offsetofDataPtr⟩])
    (returns : outcome.result.isSome) : PushChecked count caller frame outcome where
  refuses misfit := absurd ⟨fits, known⟩ misfit
  writes _ _ := ⟨writes, length_packet_le caller fits⟩
  reads := by
    refine payload_within ?_
    rw [reads]
    exact fun region member => List.mem_singleton.mp member
  returns := returns

end

section Ios

variable (caller : Mem UInt8) (answers : PushAnswers) {network : Network κ} {frame : Frame w}
  {characteristics : List κ}

/-- What iOS writes of a frame that passes the test of the length. -/
theorem Ios.pushFrame_known (short : ¬ mediaMtu < (valueLength frame).toNat)
    (service : network.sendService = some characteristics)
    (known : frame.id.toNat < characteristics.length) :
    (Ios.pushFrame caller answers network frame).writes =
        [⟨some frame.id.toNat, frame.type :: frame.seq ::
          caller.slice frame.dataPtr.toNat (dataSize frame).toNat⟩] ∧
      (Ios.pushFrame caller answers network frame).reads =
        [⟨frame.dataPtr.toNat, (dataSize frame).toNat⟩] ∧
      (Ios.pushFrame caller answers network frame).result.isSome := by
  simp only [Ios.pushFrame, if_neg short, service, if_pos known, Ios.writeData]
  split
  · exact ⟨rfl, rfl, rfl⟩
  · exact ⟨rfl, rfl, rfl⟩

/-- **On iOS a frame is checked except for the sizes five and six**, and for an identifier
that is no place in the send service once the size has passed. -/
theorem Ios.pushChecked_iff (word : 32 ≤ w)
    (service : network.sendService = some characteristics) :
    PushChecked characteristics.length caller frame
        (Ios.pushFrame caller answers network frame) ↔
      frame.size.toNat ≠ 5 ∧ frame.size.toNat ≠ 6 ∧
        (frame.id.toNat < characteristics.length ∨ frame.size.toNat < 5 ∨
          25 < frame.size.toNat) := by
  have passes := valueLength_le_iff word frame
  simp only [mediaMtu_eq, headerSize_eq, offsetofDataPtr_eq] at passes
  by_cases long : mediaMtu < (valueLength frame).toNat
  · -- refused: the size is below five, or above a whole value
    have outside : ¬ (5 ≤ frame.size.toNat ∧ frame.size.toNat ≤ 25) :=
      fun inside => Nat.not_le.mpr long (passes.mpr inside)
    have refused : Ios.pushFrame caller answers network frame =
        ⟨some .badFrame, network, [], []⟩ := by
      rw [Ios.pushFrame, if_pos long]
    refine iff_of_true (.of_refused ?_ (congrArg PushOutcome.result refused) (by decide)
      (congrArg PushOutcome.writes refused) ?_) ⟨by omega, by omega, by omega⟩
    · intro both
      exact absurd (valueLength_le word both.1) (Nat.not_le.mpr long)
    · simp [refused]
  · obtain ⟨enough, few⟩ := passes.mp (Nat.not_lt.mp long)
    by_cases known : frame.id.toNat < characteristics.length
    · obtain ⟨writes, reads, returns⟩ := Ios.pushFrame_known caller answers long service known
      constructor
      · intro checked
        have fits : FitsValue frame := by
          by_contra misfit
          have nothing := (checked.refuses (fun both => misfit both.1)).2
          rw [writes] at nothing
          cases nothing
        have header : 7 ≤ frame.size.toNat := fits.1
        exact ⟨by omega, by omega, .inl known⟩
      · rintro ⟨five, six, _⟩
        have header : offsetofDataPtr ≤ frame.size.toNat := by
          rw [offsetofDataPtr_eq]
          omega
        have fits : FitsValue frame := ⟨header, few⟩
        have payload : (dataSize frame).toNat = frame.size.toNat - offsetofDataPtr :=
          Frame.toNat_size_sub header
        rw [payload] at writes reads
        exact .of_written fits known writes reads returns
    · -- an exception: there is no such place in the send service
      have raised : (Ios.pushFrame caller answers network frame).result = none := by
        simp only [Ios.pushFrame, if_neg long, service, if_neg known]
      refine iff_of_false ?_ (by omega)
      intro checked
      have returns := checked.returns
      rw [raised] at returns
      cases returns

end Ios

section Android

variable (caller : Mem UInt8) (answers : PushAnswers) {object : Jni.JniObject κ}
  {frame : Frame w} {characteristics : List κ}

/-- What Java writes of a frame whose identifier is a place in the send service. -/
theorem Java.pushFrame_known {network : Network κ}
    (service : network.sendService = some characteristics)
    (known : frame.id.toNat < characteristics.length) (byteData : List UInt8) :
    (Java.pushFrame answers network frame.type.toNat frame.id.toNat frame.seq.toNat
      byteData).2.2 = [⟨some frame.id.toNat, frame.type :: frame.seq :: byteData⟩] := by
  have inRange : (0 : ℤ) ≤ frame.id.toNat ∧ (frame.id.toNat : ℤ) < characteristics.length :=
    ⟨Int.natCast_nonneg _, Int.ofNat_lt.mpr known⟩
  have bytes : ∀ byte : UInt8, UInt8.ofInt byte.toNat = byte := fun byte =>
    (ofInt_natCast byte.toNat).trans UInt8.ofNat_toNat
  simp only [Java.pushFrame, service, if_pos inRange, bytes, Int.toNat_natCast]
  split
  · rfl
  · rfl

/-- Java refuses any other. -/
theorem Java.pushFrame_unknown {network : Network κ}
    (service : network.sendService = some characteristics)
    (unknown : ¬ frame.id.toNat < characteristics.length) (type seq : ℤ)
    (byteData : List UInt8) :
    Java.pushFrame answers network type frame.id.toNat seq byteData =
      (.badParameters, network, []) := by
  have outOfRange : ¬ ((0 : ℤ) ≤ frame.id.toNat ∧
      (frame.id.toNat : ℤ) < characteristics.length) :=
    fun inRange => unknown (Int.ofNat_lt.mp inRange.2)
  simp only [Java.pushFrame, service, if_neg outOfRange]

/-- **On Android a frame is checked if its size counts a header and the JVM gives an array of
as many bytes as the payload has.** -/
theorem Jni.pushChecked_iff (word : 32 ≤ w)
    (service : object.jBLENetwork.sendService = some characteristics) :
    PushChecked characteristics.length caller frame
        (Jni.pushFrame caller answers object frame) ↔
      answers.env = true ∧ answers.newByteArray = true ∧
        offsetofDataPtr ≤ frame.size.toNat ∧
        frame.size.toNat - offsetofDataPtr < 2 ^ 31 := by
  constructor
  · intro checked
    have returns := checked.returns
    cases env : answers.env with
    | false =>
        simp only [Jni.pushFrame, env, if_true, Option.isSome_none, Bool.false_eq_true] at returns
    | true =>
        by_cases failed : (dataSize frame).toBitVec.toInt < 0 ∨ answers.newByteArray = false
        · simp only [Jni.pushFrame, env, Bool.true_eq_false, if_false, if_pos failed,
            Option.isSome_none, Bool.false_eq_true] at returns
        · obtain ⟨nonnegative, allocated⟩ := not_or.mp failed
          obtain ⟨header, signed⟩ :=
            not_not.mp ((Jni.toInt_dataSize_neg_iff frame).not.mp nonnegative)
          exact ⟨rfl, Bool.eq_true_of_not_eq_false allocated, header, signed⟩
  · rintro ⟨env, allocated, header, signed⟩
    have taken : ¬ (((frame.size.toNat - offsetofDataPtr : ℕ) : ℤ) < 0 ∨
        answers.newByteArray = false) := by
      rw [allocated]
      simp
    by_cases long : mediaMtu < (valueLength frame).toNat
    · simp only [Jni.pushFrame, env, Bool.true_eq_false, if_false, if_neg taken, if_pos long,
        Jni.toInt_dataSize header signed, Int.toNat_natCast]
      refine .of_refused ?_ rfl (by decide) rfl
        (fun region member => List.mem_singleton.mp member)
      intro both
      exact absurd (valueLength_le word both.1) (Nat.not_le.mpr long)
    · have fits : FitsValue frame :=
        ⟨header, ((valueLength_le_iff word frame).mp (Nat.not_lt.mp long)).2⟩
      simp only [Jni.pushFrame, env, Bool.true_eq_false, if_false, if_neg taken, if_neg long,
        Jni.toInt_dataSize header signed, Int.toNat_natCast]
      by_cases known : frame.id.toNat < characteristics.length
      · exact .of_written fits known (Java.pushFrame_known answers service known _) rfl rfl
      · rw [Java.pushFrame_unknown answers service known]
        exact .of_refused (fun both => known both.2) rfl (by simp) rfl
          (fun region member => List.mem_singleton.mp member)

end Android

/-- **iOS checks a frame except for the sizes five and six and for an identifier that is no
place in the send service; Android, if the JVM can be given the payload.** -/
theorem pushFrame_checked_iff {w' : ℕ} {κ' : Type} (word : 32 ≤ w) (word' : 32 ≤ w')
    (caller : Mem UInt8) (answers : PushAnswers) {network : Network κ}
    {iosCharacteristics : List κ} (iosService : network.sendService = some iosCharacteristics)
    {object : Jni.JniObject κ'} {jniCharacteristics : List κ'}
    (jniService : object.jBLENetwork.sendService = some jniCharacteristics)
    (iosFrame : Frame w) (jniFrame : Frame w') :
    (PushChecked iosCharacteristics.length caller iosFrame
        (Ios.pushFrame caller answers network iosFrame) ↔
      iosFrame.size.toNat ≠ 5 ∧ iosFrame.size.toNat ≠ 6 ∧
        (iosFrame.id.toNat < iosCharacteristics.length ∨ iosFrame.size.toNat < 5 ∨
          25 < iosFrame.size.toNat)) ∧
    (PushChecked jniCharacteristics.length caller jniFrame
        (Jni.pushFrame caller answers object jniFrame) ↔
      answers.env = true ∧ answers.newByteArray = true ∧
        offsetofDataPtr ≤ jniFrame.size.toNat ∧
        jniFrame.size.toNat - offsetofDataPtr < 2 ^ 31) :=
  ⟨Ios.pushChecked_iff caller answers word iosService,
    Jni.pushChecked_iff caller answers word' jniService⟩

/-- A network that sends to two characteristics. -/
def sendsToTwo : Network Unit := ⟨some [(), ()], [], 0, 0⟩

/-- Everything that is asked is given. -/
def PushAnswers.accepting : PushAnswers := ⟨true, true, true⟩

/-- A frame on a characteristic, of some size. -/
def frameTo (id : UInt8) (size : UInt32) : Frame 64 := ⟨2, id, 0, size, 4096⟩

/-- A frame with one byte of payload. -/
theorem pushFrame_checked_eight :
    let frame := frameTo 1 8
    (PushChecked 2 (fun _ => 65) frame
        (Ios.pushFrame (fun _ => 65) .accepting sendsToTwo frame) ↔
      frame.size.toNat ≠ 5 ∧ frame.size.toNat ≠ 6 ∧
        (frame.id.toNat < 2 ∨ frame.size.toNat < 5 ∨ 25 < frame.size.toNat)) ∧
    (PushChecked 2 (fun _ => 65) frame
        (Jni.pushFrame (fun _ => 65) .accepting ⟨sendsToTwo, none⟩ frame) ↔
      PushAnswers.accepting.env = true ∧ PushAnswers.accepting.newByteArray = true ∧
        offsetofDataPtr ≤ frame.size.toNat ∧ frame.size.toNat - offsetofDataPtr < 2 ^ 31) :=
  pushFrame_checked_iff (by decide) (by decide) _ .accepting
    (show sendsToTwo.sendService = some [(), ()] from rfl)
    (show (Jni.JniObject.mk sendsToTwo none).jBLENetwork.sendService = some [(), ()] from rfl) _ _

/-- A size of five: on iOS a value is written, with nearly 4 GiB read for it. An identifier of
nine, with two characteristics: iOS raises an exception. A size of three: on Android no array
can be allocated. -/
theorem pushFrame_not_checked :
    ¬ PushChecked 2 (fun _ => 65) (frameTo 1 5)
        (Ios.pushFrame (fun _ => 65) .accepting sendsToTwo (frameTo 1 5)) ∧
      ¬ PushChecked 2 (fun _ => 65) (frameTo 9 8)
        (Ios.pushFrame (fun _ => 65) .accepting sendsToTwo (frameTo 9 8)) ∧
      ¬ PushChecked 2 (fun _ => 65) (frameTo 1 3)
        (Jni.pushFrame (fun _ => 65) .accepting ⟨sendsToTwo, none⟩ (frameTo 1 3)) := by
  refine ⟨?_, ?_, ?_⟩
  · intro checked
    have inside := checked.reads ⟨4096, 4294967294⟩ (by decide)
    exact absurd inside (by decide)
  · intro checked
    exact absurd checked.returns (by decide)
  · intro checked
    exact absurd checked.returns (by decide)

end BleNetwork

end ARNetworkAL
