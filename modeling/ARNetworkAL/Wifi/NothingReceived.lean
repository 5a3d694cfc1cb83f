import ARNetworkAL.Wifi.FlushedData

/-!
# A receiver that has received nothing

`New` sets the size of the receiver to zero and leaves its cursor as `malloc` returned it,
where in the sender it sets both. Every `Receive` puts the cursor at the start of the
buffer, and one that stores no datagram leaves the size at zero, so from then on there is
nothing to pop. A `PopFrame` before the first `Receive` follows the cursor that was never
set (`nothing_popped_iff`).
-/

set_option autoImplicit false

namespace ARNetworkAL

open Library

namespace WifiNetwork

variable {w : ℕ} (E : Endianness)

/-- No byte is in use and the cursor is at the start of the buffer. -/
structure Emptied (object : WifiNetworkObject w) : Prop where
  placed : Placed object.buffer
  empty : object.size = 0
  atStart : object.currentFrame = object.buffer

/-- `PopFrame` finds nothing, and reads no byte to find that out. -/
def FindsNothing (object : WifiNetworkObject w) : Prop :=
  (popFrame E object).result = .bufferEmpty ∧ (popFrame E object).reads = []

instance (object : WifiNetworkObject w) : Decidable (FindsNothing E object) :=
  inferInstanceAs (Decidable (_ ∧ _))

/-- With no byte in use, that is so exactly if the cursor is at the start. -/
theorem findsNothing_iff {object : WifiNetworkObject w} (placed : Placed object.buffer)
    (empty : object.size = 0) :
    FindsNothing E object ↔ object.currentFrame = object.buffer := by
  have finish : object.finish = object.buffer.toNat := by
    rw [WifiNetworkObject.finish, empty]
    rfl
  have sized : object.size.toNat ≤ receivingBufferSize := by
    rw [empty]
    exact Nat.zero_le _
  constructor
  · rintro ⟨result, -⟩
    rcases popFrame_cases E placed sized with
      ⟨_, outcome⟩ | ⟨_, _, outcome⟩ | ⟨_, _, outcome⟩
    · rw [outcome, popFailed] at result
      split at result
      · rename_i atEnd
        rw [finish] at atEnd
        exact BitVec.eq_of_toNat_eq atEnd
      · cases result
    · rw [outcome] at result
      cases result
    · rw [outcome] at result
      cases result
  · intro atStart
    have low : object.finish < object.currentFrame.toNat + offsetofDataPtr := by
      rw [finish, atStart]
      exact Nat.lt_add_of_pos_right (by decide)
    rcases popFrame_cases E placed sized with
      ⟨_, outcome⟩ | ⟨header, _, _⟩ | ⟨header, _, _⟩
    · rw [FindsNothing, outcome, if_pos (by rw [finish, atStart])]
      exact ⟨rfl, rfl⟩
    · exact absurd low (Nat.not_lt.mpr header)
    · exact absurd low (Nat.not_lt.mpr header)

/-- A call that stores no datagram: a `Receive` that reads the socket reads no byte. -/
def StoresNothing (timeDiff : TimeDiff) (object : WifiNetworkObject w) : ReceiverCall w → Prop
  | .receive call senderObject =>
      (receive timeDiff call object senderObject).path = .read →
        (receive timeDiff call object senderObject).bytesRead = 0
  | .pop => True

instance (timeDiff : TimeDiff) (object : WifiNetworkObject w) :
    (call : ReceiverCall w) → Decidable (StoresNothing timeDiff object call)
  | .receive call senderObject =>
      inferInstanceAs (Decidable
        ((receive timeDiff call object senderObject).path = .read → _ = _))
  | .pop => inferInstanceAs (Decidable True)

/-- The calls that store no datagram. -/
def QuietStep (timeDiff : TimeDiff) :
    WifiNetworkObject w → ReceiverCall w → WifiNetworkObject w → Prop :=
  restrict (StoresNothing timeDiff) (follows (ReceiverCall.next E timeDiff))

/-- **A `Receive` that stores no datagram empties a receiver in which no byte is in use**,
wherever its cursor is. -/
theorem emptied_receive {timeDiff : TimeDiff} {object : WifiNetworkObject w}
    (placed : Placed object.buffer) (empty : object.size = 0) {call : ReceiveCall}
    {senderObject : Option (WifiNetworkObject w)}
    (nothing : StoresNothing timeDiff object (.receive call senderObject)) :
    Emptied (receive timeDiff call object senderObject).receiverObject := by
  have size := receive_size timeDiff call object senderObject
  have zero : (receive timeDiff call object senderObject).receiverObject.size.toNat = 0 := by
    rw [size]
    cases path : (receive timeDiff call object senderObject).path with
    | selectError => rfl
    | notReady => rfl
    | flushed =>
        rw [empty]
        rfl
    | read => exact nothing path
  refine ⟨?_, UInt32.toNat_inj.mp zero, rfl⟩
  rw [receive_buffer]
  exact placed

/-- A `PopFrame` that finds nothing leaves it so. -/
theorem Emptied.pop {object : WifiNetworkObject w} (emptied : Emptied object) :
    Emptied (popFrame E object).receiverObject := by
  have sized : object.size.toNat ≤ receivingBufferSize := by
    rw [emptied.empty]
    exact Nat.zero_le _
  have found := (findsNothing_iff E emptied.placed emptied.empty).mpr emptied.atStart
  rcases popFrame_cases E emptied.placed sized with
    ⟨_, outcome⟩ | ⟨_, _, outcome⟩ | ⟨_, _, outcome⟩
  · rw [outcome]
    exact ⟨emptied.placed, rfl, rfl⟩
  · rw [outcome]
    exact ⟨emptied.placed, rfl, rfl⟩
  · rw [FindsNothing, outcome] at found
    cases found.1

/-- Every call that stores no datagram keeps a receiver empty. -/
theorem Emptied.of_run {timeDiff : TimeDiff} {start reached : WifiNetworkObject w}
    {calls : List (ReceiverCall w)} (run : Run (QuietStep E timeDiff) start calls reached)
    (emptied : Emptied start) : Emptied reached := by
  refine run.invariant Emptied ?_ emptied
  rintro before call after emptied ⟨nothing, rfl⟩
  cases call with
  | receive call senderObject => exact emptied_receive emptied.placed emptied.empty nothing
  | pop => exact emptied.pop E

/-- **While no datagram is stored every `PopFrame` finds nothing exactly if the first call is
not one, or the memory of the new object happened to hold a cursor at the start of the
buffer.** -/
theorem nothing_popped_iff (timeDiff : TimeDiff) (raw : WifiNetworkObject w) {buffer : BitVec w}
    (placed : Placed buffer) (socket : ℤ) (fifo : ℤ × ℤ) (timeoutSec : UInt32)
    (calls : List (ReceiverCall w)) :
    (∀ passed, passed ++ [.pop] <+: calls → ∀ reached,
      Run (QuietStep E timeDiff) ((newReceiver raw buffer).bound socket fifo timeoutSec) passed
        reached → FindsNothing E reached) ↔
      raw.currentFrame = buffer ∨ calls.head? ≠ some .pop := by
  have first : FindsNothing E ((newReceiver raw buffer).bound socket fifo timeoutSec) ↔
      raw.currentFrame = buffer := findsNothing_iff E placed rfl
  constructor
  · intro always
    refine or_iff_not_imp_right.mpr ?_
    intro popped
    obtain ⟨rest, split⟩ := List.head?_eq_some_iff.mp (not_not.mp popped)
    exact first.mp (always [] (by simp [split]) _ (.nil _))
  · intro unset passed start reached run
    have emptied : Emptied reached := by
      rcases unset with atStart | receives
      · exact Emptied.of_run E run ⟨placed, rfl, atStart⟩
      · cases run with
        | nil =>
            obtain ⟨rest, rfl⟩ := start
            exact absurd rfl receives
        | @cons _ _ _ call _ taken rest =>
            obtain ⟨nothing, rfl⟩ := taken
            cases call with
            | receive call senderObject =>
                exact .of_run E rest (emptied_receive placed rfl nothing)
            | pop =>
                obtain ⟨others, rfl⟩ := start
                exact absurd rfl receives
    exact (findsNothing_iff E emptied.placed emptied.empty).mpr emptied.atStart

/-- A timeout and a socket error, with `PopFrame` calls after them. -/
theorem nothing_popped_timeout :
    let calls : List (ReceiverCall 64) :=
      [.receive ⟨.ready false false, [], .constant ⟨1, 0⟩⟩ none, .pop, .pop,
        .receive ⟨.ready true false, [.failed (.other 5)], .constant ⟨2, 0⟩⟩ none, .pop]
    (∀ passed, passed ++ [.pop] <+: calls → ∀ reached,
      Run (QuietStep .littleEndianHost exactDiff) newAtFourGiB passed reached →
        FindsNothing .littleEndianHost reached) ↔
      (WifiNetworkObject.cleared 64).currentFrame = fourGiB ∨ calls.head? ≠ some .pop :=
  nothing_popped_iff .littleEndianHost exactDiff (.cleared 64) placed_fourGiB 3 (4, 5) 1 _

/-- Memory that held the address of an earlier block, at 256 MiB, where the cursor is going to
be. -/
def reusedMemory : WifiNetworkObject 64 :=
  { WifiNetworkObject.cleared 64 with currentFrame := 0x10000000 }

/-- The object is made in that memory, and `PopFrame` is called at once: it takes seven bytes of
the earlier block for a frame. -/
theorem popped_before_receive :
    ¬ ∀ passed, passed ++ [ReceiverCall.pop] <+: [.pop] → ∀ reached,
      Run (QuietStep .littleEndianHost exactDiff)
        ((newReceiver reusedMemory fourGiB).bound 3 (4, 5) 1) passed reached →
          FindsNothing .littleEndianHost reached := by
  intro claimed
  have found := claimed [] (List.prefix_refl _) _ (.nil _)
  exact absurd found (by decide)

end WifiNetwork

end ARNetworkAL
