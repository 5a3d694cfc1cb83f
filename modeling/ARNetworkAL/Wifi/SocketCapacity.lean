import ARNetworkAL.Library.Run
import ARNetworkAL.Manager
import ARNetworkAL.Wifi.Sender

/-!
# The capacity of the socket

`PushFrame` refuses a frame when the bytes in the socket and those in the queue would
exceed `socketBufferSize`. The kernel doubles the size that it is asked for, so half of
`SO_SNDBUF` is usable, and `GetSendBufferSize` reports that half. Three functions write
the field. `SetSendBufferSize` writes what `GetSendBufferSize` reports, and a query that
is not supported writes `-1`, but `Connect` writes `SO_SNDBUF` itself.

So the field is twice what is usable from the start, until one of the other two writes it
(`usable_iff_of_run`).
-/

set_option autoImplicit false

namespace ARNetworkAL

open Library

namespace WifiNetwork

variable {w : ℕ} (E : Endianness)

/-- `ARNETWORKAL_WifiNetwork_GetSendBufferSize`, by what `getsockopt` answers: the error
and what is left in `*bufferSize`. The division is made in any case. -/
def getSendBufferSize (sndbuf : Option ℤ) (bufferSize : ℤ) : ErrorCode × ℤ :=
  match sndbuf with
  | some size => (.ok, size.tdiv 2)
  | none => (.wifiSocketGetopt, bufferSize.tdiv 2)

/-- `ARNETWORKAL_WifiNetwork_SetSendBufferSize`, by whether `setsockopt` accepts and what
`getsockopt` answers then. -/
def setSendBufferSize (accepted : Bool) (sndbuf : Option ℤ) (bufferSize : ℤ)
    (senderObject : WifiNetworkObject w) : ErrorCode × WifiNetworkObject w :=
  if accepted then
    let (getErr, size) := getSendBufferSize sndbuf senderObject.socketBufferSize
    let senderObject := { senderObject with socketBufferSize := size }
    if getErr = .ok then (.ok, senderObject)
    else (.ok, { senderObject with socketBufferSize := bufferSize })
  else (.wifiSocketSetopt, senderObject)

/-- A sender and the `SO_SNDBUF` that the kernel has for its socket. -/
structure SizedSocket (w : ℕ) where
  object : WifiNetworkObject w
  sndbuf : ℤ

namespace SizedSocket

/-- After a successful `Init`: `Connect` stores what `getsockopt` answers. -/
def connected (raw : WifiNetworkObject w) (buffer : BitVec w) (socket : ℤ) (fifo : ℤ × ℤ)
    (sndbuf : ℤ) : SizedSocket w where
  object := (newSender raw buffer).connected socket fifo sndbuf
  sndbuf := sndbuf

/-- A call, with what the kernel makes of it: the `SO_SNDBUF` that a request for a size
results in, if it is accepted, and the answer to the query. -/
inductive Call (w : ℕ) where
  | setSendBufferSize (bufferSize : ℤ) (sndbuf : Option ℤ)
  | pushFrame (caller : Mem UInt8) (answer : OutqAnswer) (frame : Frame w)

/-- The state after a call. `getsockopt` answers with the `SO_SNDBUF` there is. -/
def next (state : SizedSocket w) : Call w → SizedSocket w
  | .setSendBufferSize bufferSize sndbuf =>
      let kernel := sndbuf.getD state.sndbuf
      { object :=
          (WifiNetwork.setSendBufferSize sndbuf.isSome (some kernel) bufferSize state.object).2
        sndbuf := kernel }
  | .pushFrame caller answer frame =>
      { state with
        object := (WifiNetwork.pushFrame E caller answer state.object frame).senderObject }

/-- What `GetSendBufferSize` reports. -/
def reported (state : SizedSocket w) : ℤ := (getSendBufferSize (some state.sndbuf) 0).2

/-- The query is disabled, or the size that `PushFrame` subtracts from is the one reported. -/
def Usable (state : SizedSocket w) : Prop :=
  state.object.socketBufferSize = -1 ∨ state.object.socketBufferSize = state.reported

instance (state : SizedSocket w) : Decidable state.Usable :=
  inferInstanceAs (Decidable (_ ∨ _))

/-- A call that writes the field: a request that is accepted, or a `PushFrame` that asks
for the room in the socket, where that is not supported. -/
def Measures (state : SizedSocket w) : Call w → Prop
  | .setSendBufferSize _ sndbuf => sndbuf.isSome
  | .pushFrame _ answer frame =>
      answer = .failed .enxio ∧ 0 ≤ state.object.socketBufferSize ∧
        (state.object.size + frame.size).toNat ≤ sendingBufferSize

end SizedSocket

theorem appendFrame_socketBufferSize (caller : Mem UInt8) (object : WifiNetworkObject w)
    (frame : Frame w) :
    (appendFrame E caller object frame).object.socketBufferSize = object.socketBufferSize := rfl

/-- What `PushFrame` does to the field. -/
theorem pushFrame_socketBufferSize (caller : Mem UInt8) (answer : OutqAnswer)
    (object : WifiNetworkObject w) (frame : Frame w) :
    (pushFrame E caller answer object frame).senderObject.socketBufferSize =
      if answer = .failed .enxio ∧ 0 ≤ object.socketBufferSize ∧
          (object.size + frame.size).toNat ≤ sendingBufferSize then -1
      else object.socketBufferSize := by
  have asked : (getAvailableSendSize answer object).2.socketBufferSize =
      if answer = .failed .enxio ∧ 0 ≤ object.socketBufferSize then -1
      else object.socketBufferSize := by
    by_cases unknown : object.socketBufferSize < 0
    · simp only [getAvailableSendSize, if_pos unknown]
      rw [if_neg (by omega)]
    · have known : 0 ≤ object.socketBufferSize := Int.not_lt.mp unknown
      simp only [getAvailableSendSize, if_neg unknown]
      cases answer with
      | bytes _ => simp
      | failed err =>
          cases err with
          | enxio => simp [known]
          | eagain => simp
          | eacces => simp
          | other _ => simp
  simp only [pushFrame]
  rcases Nat.lt_or_ge sendingBufferSize (object.size + frame.size).toNat with full | room
  · rw [if_pos full, if_neg (by omega)]
  · rw [if_neg (Nat.not_lt.mpr room)]
    simp only [room, and_true]
    split
    · exact asked
    · rw [appendFrame_socketBufferSize]
      exact asked

namespace SizedSocket

/-- **A call leaves a size that may be used exactly if there was one or it writes one.** -/
theorem usable_next (state : SizedSocket w) (call : Call w) :
    (state.next E call).Usable ↔ state.Usable ∨ state.Measures call := by
  cases call with
  | setSendBufferSize bufferSize sndbuf =>
      cases sndbuf with
      | none =>
          simp only [Measures, Option.isSome_none, Bool.false_eq_true, or_false]
          exact Iff.rfl
      | some kernel => exact iff_of_true (.inr rfl) (.inr rfl)
  | pushFrame caller answer frame =>
      have field := pushFrame_socketBufferSize E caller answer state.object frame
      simp only [Usable, Measures, next, field]
      split
      · rename_i measured
        exact iff_of_true (.inl rfl) (.inr measured)
      · rename_i unmeasured
        simp only [unmeasured, or_false]
        exact Iff.rfl

/-- Only zero is its own half. -/
theorem eq_tdiv_two_iff (size : ℤ) : size = size.tdiv 2 ↔ size = 0 := by
  rcases Int.le_total 0 size with positive | negative
  · have half := Int.tdiv_eq_ediv_of_nonneg positive (b := 2)
    omega
  · have half := Int.tdiv_eq_ediv_of_nonneg (Int.neg_nonneg_of_nonpos negative) (b := 2)
    rw [Int.neg_tdiv] at half
    omega

/-- What `Connect` stores may be used only if it is the same halved, or disables the query. -/
theorem usable_connected (raw : WifiNetworkObject w) (buffer : BitVec w) (socket : ℤ)
    (fifo : ℤ × ℤ) (sndbuf : ℤ) :
    (connected raw buffer socket fifo sndbuf).Usable ↔ sndbuf = 0 ∨ sndbuf = -1 := by
  have half := eq_tdiv_two_iff sndbuf
  change sndbuf = -1 ∨ sndbuf = sndbuf.tdiv 2 ↔ sndbuf = 0 ∨ sndbuf = -1
  rw [half, or_comm]

/-- **In every run from a successful `Init`, the size that `PushFrame` uses is the usable
one exactly if a call of the run has written it**, or `SO_SNDBUF` was `0` or `-1` when
the socket was connected. -/
theorem usable_iff_of_run {raw : WifiNetworkObject w} {buffer : BitVec w} {socket : ℤ}
    {fifo : ℤ × ℤ} {sndbuf : ℤ} {calls : List (Call w)} {reached : SizedSocket w}
    (run : Run (follows (next E)) (connected raw buffer socket fifo sndbuf) calls reached) :
    reached.Usable ↔ (sndbuf = 0 ∨ sndbuf = -1) ∨
      ∃ before call after state, calls = before ++ call :: after ∧
        Run (follows (next E)) (connected raw buffer socket fifo sndbuf) before state ∧
          state.Measures call ∧ Run (follows (next E)) state (call :: after) reached := by
  rw [← usable_connected raw buffer socket fifo sndbuf]
  refine run.holds_iff (P := Usable) (Q := Measures) ?_
  rintro state call after rfl
  exact usable_next E state call

/-- The kernel doubles a request for 100000 bytes. -/
theorem usable_after_request :
    let start := connected (.cleared 64) fourGiB 3 (4, 5) 212992
    let request := Call.setSendBufferSize 100000 (some 200000)
    let reached := start.next .littleEndianHost request
    reached.Usable ↔ ((212992 : ℤ) = 0 ∨ (212992 : ℤ) = -1) ∨
      ∃ before call after state, [request] = before ++ call :: after ∧
        Run (follows (next .littleEndianHost)) start before state ∧ state.Measures call ∧
          Run (follows (next .littleEndianHost)) state (call :: after) reached :=
  usable_iff_of_run .littleEndianHost (.single rfl)

/-- With an `SO_SNDBUF` of 212992 bytes, 106496 are usable. Right after `Init` the field is
the former, and with 150000 bytes in the socket `PushFrame` takes another frame. -/
theorem not_usable_connected :
    let start := connected (.cleared 64) fourGiB 3 (4, 5) 212992
    ¬ start.Usable ∧ start.reported = 106496 ∧
      (WifiNetwork.pushFrame .littleEndianHost (fun _ => 0) (.bytes 150000) start.object
        ⟨2, 10, 0, 8, 0⟩).result = .default := by
  decide

end SizedSocket

end WifiNetwork

end ARNetworkAL
