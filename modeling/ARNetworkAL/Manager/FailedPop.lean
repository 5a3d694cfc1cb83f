import ARNetworkAL.Ble.Transport
import ARNetworkAL.Mux.Ownership
import ARNetworkAL.Wifi.ReceiveWindow

/-!
# What a failed PopFrame leaves in the frame

The caller hands `PopFrame` a frame structure, which may hold an earlier frame. WiFi and the
two Bluetooth implementations reset it before they return anything but `DEFAULT`. Mux returns
from where it fails: before it wrote anything, or after the header of a frame whose data are
not all there was copied. The pointer of the earlier frame stays then, next to a size that
the other side chose.

`resetsFrame_iff_of_run` says for every transport, and every state that `Receive` and
`PopFrame` reach, when the frame is reset.
-/

set_option autoImplicit false

namespace ARNetworkAL

open Library

variable {w : ℕ} {κ : Type} (E : Endianness)

/-- A call of `PopFrame` that returns anything but `DEFAULT` leaves the frame reset. -/
def ResetUnlessDefault (result : Option ManagerReturn) (frame : Frame w) : Prop :=
  ∀ code, result = some code → code ≠ .default → frame = .reset w

/-- The frame of a call that returns `DEFAULT` may hold anything. -/
theorem resetUnlessDefault_default (frame : Frame w) :
    ResetUnlessDefault (some .default) frame := by
  rintro code same failed
  cases same
  exact absurd rfl failed

/-- A frame that is reset meets it whatever the call returns. -/
theorem resetUnlessDefault_reset (result : Option ManagerReturn) :
    ResetUnlessDefault result (.reset w) := fun _ _ _ => rfl

/-- For a code that is not `DEFAULT` there is no other way. -/
theorem resetUnlessDefault_iff {code : ManagerReturn} (failed : code ≠ .default)
    (frame : Frame w) : ResetUnlessDefault (some code) frame ↔ frame = .reset w := by
  constructor
  · intro resets
    exact resets code rfl failed
  · intro reset _ _ _
    exact reset

/-! ## WiFi and Bluetooth -/

theorem WifiNetwork.popFrame_resets (object : WifiNetworkObject w) :
    ResetUnlessDefault (some (popFrame E object).result) (popFrame E object).frame := by
  simp only [popFrame]
  split
  · split
    · exact resetUnlessDefault_reset _
    · exact resetUnlessDefault_reset _
  · split
    · exact resetUnlessDefault_reset _
    · exact resetUnlessDefault_default _

namespace BleNetwork

theorem Ios.popFrame_resets (placement : Placement w) (network : Network κ) (frame : Frame w) :
    ResetUnlessDefault (popFrame placement network frame).result
      (popFrame placement network frame).frame := by
  simp only [popFrame]
  split
  · exact resetUnlessDefault_reset _
  · split
    · exact resetUnlessDefault_reset _
    · split
      · exact resetUnlessDefault_reset _
      · exact resetUnlessDefault_default _

theorem Jni.popFrame_resets (env : Bool) (placement : Placement w) (object : JniObject κ)
    (frame : Frame w) :
    ResetUnlessDefault (popFrame env placement object frame).result
      (popFrame env placement object frame).frame := by
  simp only [popFrame]
  split
  · exact resetUnlessDefault_reset _
  · cases (Java.popFrame object.jBLENetwork).1 with
    | none => exact resetUnlessDefault_reset _
    | some dataPop =>
        simp only
        split
        · exact resetUnlessDefault_reset _
        · split
          · exact resetUnlessDefault_default _
          · exact resetUnlessDefault_reset _

namespace Platform

theorem pop_resets (platform : Platform) (object : platform.Object κ) (call : PopCall w) :
    ResetUnlessDefault (platform.pop object call).result (platform.pop object call).frame := by
  cases platform with
  | ios => exact Ios.popFrame_resets call.placement object call.frame
  | android => exact Jni.popFrame_resets call.env call.placement object call.frame

/-- `receive`: libARSAL fills the queue. -/
def receive : (platform : Platform) → platform.Object κ → List Notification →
    platform.Object κ
  | ios, object, recvArray => { object with recvArray := recvArray }
  | android, object, recvArray =>
      { object with jBLENetwork := { object.jBLENetwork with recvArray := recvArray } }

end Platform

end BleNetwork

/-! ## Mux -/

namespace MuxNetwork

/-- The data hold a header, and as many bytes as it counts. -/
def Cdata.HoldsFrame (cdata : Cdata w) : Prop :=
  7 ≤ cdata.bytes.length ∧
    (sizeField E ((cdata.bytes.drop 3).take 4)).toNat ≤ cdata.bytes.length

instance (cdata : Cdata w) : Decidable (cdata.HoldsFrame E) :=
  inferInstanceAs (Decidable (_ ∧ _))

/-- A frame that is not taken stays as it was without a header, and otherwise is left with
the header of one that is larger than the data. -/
theorem readFrame_resets_iff (cdata : Cdata w) (frame : Frame w) :
    ResetUnlessDefault (some (readFrame E cdata frame).1) (readFrame E cdata frame).2 ↔
      cdata.HoldsFrame E ∨ cdata.bytes.length < 7 ∧ frame = .reset w := by
  have bad : ManagerReturn.badFrame ≠ .default := by decide
  rcases Nat.lt_or_ge cdata.bytes.length 7 with short | header
  · have missing : ¬ cdata.HoldsFrame E := fun holds => Nat.not_le_of_lt short holds.1
    rw [readFrame, if_pos short, or_iff_right missing, and_iff_right short]
    exact resetUnlessDefault_iff bad frame
  · have long : ¬ (cdata.bytes.length < 7 ∧ frame = .reset w) :=
      fun missing => Nat.not_lt_of_le header missing.1
    rw [readFrame, if_neg (Nat.not_lt_of_le header), or_iff_left long]
    simp only
    split
    · rename_i past
      refine (resetUnlessDefault_iff bad (readHeader E cdata frame)).trans ?_
      refine iff_of_false ?_ ?_
      · intro reset
        have none : (readHeader E cdata frame).size = 0 := by
          rw [reset]
          rfl
        rw [none] at past
        exact Nat.not_lt_zero _ past
      · intro holds
        exact Nat.not_le_of_lt past holds.2
    · rename_i inside
      exact iff_of_true (resetUnlessDefault_default _) ⟨header, Nat.not_lt.mp inside⟩

/-- The calls of `PopFrame` after which the frame is not half filled: the data of the received
buffer hold a frame, or the call writes nothing and the frame was reset before. -/
def PopLeavesReset (object : MuxNetworkObject w ℕ) (cdata : Option (Cdata w))
    (frame : Frame w) : Prop :=
  match object.rxbufRecv, cdata with
  | some _, some cdata => cdata.HoldsFrame E ∨ cdata.bytes.length < 7 ∧ frame = .reset w
  | _, _ => frame = .reset w

theorem popFrame_resets_iff {object : MuxNetworkObject w ℕ}
    (oneSlot : object.rxbufRecv = none ∨ object.rxbufPop = none) (cdata : Option (Cdata w))
    (frame : Frame w) :
    ResetUnlessDefault (some (popFrame E (fun _ => cdata) object frame).result)
        (popFrame E (fun _ => cdata) object frame).frame ↔
      PopLeavesReset E object cdata frame := by
  cases received : object.rxbufRecv with
  | none =>
      rw [popFrame_none E _ frame received]
      simp only [PopLeavesReset, received]
      exact resetUnlessDefault_iff (by decide) frame
  | some buffer =>
      have free := oneSlot.resolve_left (by simp [received])
      cases cdata with
      | none =>
          simp only [popFrame, PopLeavesReset, received, free, Option.isSome_none,
            Bool.false_eq_true, if_false]
          exact resetUnlessDefault_iff (by decide) frame
      | some cdata =>
          rw [popFrame_some E _ frame received free rfl]
          simp only [PopLeavesReset, received]
          exact readFrame_resets_iff E cdata frame

end MuxNetwork

/-! ## Every transport -/

/-- The object that a transport receives with. -/
inductive Receiving (w : ℕ) (κ : Type) where
  | wifi (object : WifiNetwork.WifiNetworkObject w)
  | mux (tracked : MuxNetwork.Tracked w)
  | ble (platform : BleNetwork.Platform) (object : platform.Object κ)

/-- A call of `Receive` or `PopFrame`, with what is answered to it. -/
inductive ReceivingCall (w : ℕ) where
  | wifi (call : WifiNetwork.ReceiverCall w)
  | mux (call : MuxNetwork.ReceiverCall w)
  | bleReceive (recvArray : List BleNetwork.Notification)
  | blePop (call : BleNetwork.PopCall w)

namespace Receiving

/-- The object after a call. A call goes to the transport that is there. -/
def next (timeDiff : WifiNetwork.TimeDiff) :
    Receiving w κ → ReceivingCall w → Option (Receiving w κ)
  | .wifi object, .wifi call => some (.wifi (call.next E timeDiff object))
  | .mux tracked, .mux call => some (.mux (tracked.next E call))
  | .ble platform object, .bleReceive recvArray =>
      some (.ble platform (platform.receive object recvArray))
  | .ble platform object, .blePop call =>
      some (.ble platform (platform.pop object call).object)
  | _, _ => none

/-- What a call of `PopFrame` returns, and the frame afterwards. -/
def popped : Receiving w κ → ReceivingCall w → Option (Option ManagerReturn × Frame w)
  | .wifi object, .wifi .pop =>
      let outcome := WifiNetwork.popFrame E object
      some (some outcome.result, outcome.frame)
  | .mux tracked, .mux (.pop cdata frame) =>
      let outcome := MuxNetwork.popFrame E (fun _ => cdata) tracked.object frame
      some (some outcome.result, outcome.frame)
  | .ble platform object, .blePop call =>
      let outcome := platform.pop object call
      some (outcome.result, outcome.frame)
  | _, _ => none

/-- A call does not leave a half-filled frame. -/
def ResetsFrame (state : Receiving w κ) (call : ReceivingCall w) : Prop :=
  ∀ result frame, state.popped E call = some (result, frame) → ResetUnlessDefault result frame

/-- The calls that do not: all but those of Mux, and of Mux those where the data hold a frame
or nothing is written to a frame that was reset before. -/
def LeavesReset : Receiving w κ → ReceivingCall w → Prop
  | .mux tracked, .mux (.pop cdata frame) =>
      MuxNetwork.PopLeavesReset E tracked.object cdata frame
  | _, _ => True

/-- The object after `Init`. For WiFi and Bluetooth any object will do. -/
def AsNew : Receiving w κ → Prop
  | .mux tracked => MuxNetwork.TrackedAsNew tracked
  | _ => True

/-- What every call keeps: Mux has a free slot. -/
def Keeps : Receiving w κ → Prop
  | .mux tracked => tracked.Keeps
  | _ => True

theorem AsNew.keeps {state : Receiving w κ} (asNew : state.AsNew) : state.Keeps := by
  cases state with
  | wifi object => trivial
  | mux tracked => exact MuxNetwork.TrackedAsNew.keeps asNew
  | ble platform object => trivial

/-- The transport stays, and Mux keeps a free slot. -/
theorem Keeps.next {timeDiff : WifiNetwork.TimeDiff} {before after : Receiving w κ}
    {call : ReceivingCall w} (keeps : before.Keeps)
    (taken : before.next E timeDiff call = some after) : after.Keeps := by
  cases before with
  | wifi object =>
      cases call <;> cases taken
      trivial
  | mux tracked =>
      cases call <;> cases taken
      exact MuxNetwork.Tracked.Keeps.next E keeps _
  | ble platform object =>
      cases call <;> cases taken <;> trivial

/-- **What a call leaves in the frame**, in a state with a free slot. -/
theorem Keeps.resetsFrame_iff {state : Receiving w κ} (keeps : state.Keeps)
    (call : ReceivingCall w) : state.ResetsFrame E call ↔ state.LeavesReset E call := by
  cases state with
  | wifi object =>
      refine iff_of_true ?_ trivial
      intro result frame popping
      cases call with
      | wifi call =>
          cases call with
          | receive => cases popping
          | pop =>
              cases popping
              exact WifiNetwork.popFrame_resets E object
      | _ => cases popping
  | mux tracked =>
      cases call with
      | mux call =>
          cases call with
          | receive => exact iff_of_true (fun _ _ popping => by cases popping) trivial
          | pop cdata frame =>
              rw [LeavesReset, ← MuxNetwork.popFrame_resets_iff E keeps.oneSlot cdata frame]
              constructor
              · intro resets
                exact resets _ _ rfl
              · intro resets result frame popping
                cases popping
                exact resets
      | _ => exact iff_of_true (fun _ _ popping => by cases popping) trivial
  | ble platform object =>
      refine iff_of_true ?_ trivial
      intro result frame popping
      cases call with
      | blePop call =>
          cases popping
          exact platform.pop_resets object call
      | _ => cases popping

/-- **In every state that `Receive` and `PopFrame` reach, a `PopFrame` that fails leaves the
frame reset, except on Mux**: there it does exactly if the data hold a frame, or if it writes
nothing and the frame was reset before. -/
theorem resetsFrame_iff_of_run {timeDiff : WifiNetwork.TimeDiff} {start reached : Receiving w κ}
    (asNew : start.AsNew) {calls : List (ReceivingCall w)}
    (run : Run (enabled (next E timeDiff)) start calls reached) (call : ReceivingCall w) :
    reached.ResetsFrame E call ↔ reached.LeavesReset E call := by
  have keeps : reached.Keeps := by
    refine run.invariant Keeps ?_ asNew.keeps
    intro before call after keeps taken
    exact keeps.next E taken
  exact keeps.resetsFrame_iff E call

/-- A Mux receiver after `Init`, and after a buffer was received. -/
def muxAsNew : Receiving 64 Unit := .mux ⟨MuxNetwork.newObject 1 2, []⟩

/-- A frame that the caller filled before. -/
def usedFrame : Frame 64 := ⟨2, 11, 4, 8, 8192⟩

/-- The received data have no header, and the frame was filled before. -/
theorem resetsFrame_short :
    ∃ reached, muxAsNew.next .littleEndianHost WifiNetwork.exactDiff
        (.mux (.receive (.buffer ()))) = some reached ∧
      (reached.ResetsFrame .littleEndianHost (.mux (.pop (some ⟨4096, [2, 10]⟩) usedFrame)) ↔
        reached.LeavesReset .littleEndianHost
          (.mux (.pop (some ⟨4096, [2, 10]⟩) usedFrame))) := by
  have asNew : muxAsNew.AsNew := ⟨rfl, rfl, rfl⟩
  have run : Run (enabled (next .littleEndianHost WifiNetwork.exactDiff)) muxAsNew
      [.mux (.receive (.buffer ()))] _ := .single rfl
  exact ⟨_, rfl, resetsFrame_iff_of_run _ asNew run _⟩

/-- The header of the received data counts nearly 4 GiB: the call returns `BAD_FRAME`, and
the frame has that size and the pointer of the frame before. -/
theorem not_resetsFrame_oversized :
    ∃ reached, Run (enabled (next .littleEndianHost WifiNetwork.exactDiff)) muxAsNew
        [.mux (.receive (.buffer ()))] reached ∧
      ¬ reached.ResetsFrame .littleEndianHost
        (.mux (.pop (some ⟨4096, [2, 10, 0, 255, 255, 255, 255]⟩) usedFrame)) := by
  refine ⟨_, .single rfl, ?_⟩
  intro resets
  have reset := resets (some .badFrame) ⟨2, 10, 0, 4294967295, 8192⟩ rfl .badFrame rfl (by decide)
  exact absurd reset (by decide)

end Receiving

end ARNetworkAL
