import ARNetworkAL.Wifi.ReceiveWindow

/-!
# The frames of a stored datagram

After a `Receive` that reads a datagram, the bytes in use are the datagram
(`receive_holds`) and what `PopFrame` finds at its cursor is what the datagram says
there: `messageAt` reads a header and the payload it announces at a position of a
byte string.

An exact parser would take a frame when its size field is at least seven and at
most the number of bytes left (`PopsExactly`). The size fields for which `PopFrame`
does so are those in `SizeInRange` (`popFrame_exact_iff`).
-/

set_option autoImplicit false

namespace ARNetworkAL

open Library

namespace WifiNetwork

variable {w : ℕ} (E : Endianness)

/-- The size field of the header at a position of a byte string. -/
def sizeFieldAt (datagram : List UInt8) (position : ℕ) : UInt32 :=
  sizeField E ((datagram.drop (position + 3)).take 4)

/-- The frame that the header at a position of a byte string announces. -/
def messageAt (datagram : List UInt8) (position : ℕ) : Message where
  type := datagram.getD position 0
  id := datagram.getD (position + 1) 0
  seq := datagram.getD (position + 2) 0
  size := sizeFieldAt E datagram position
  payload := (datagram.drop (position + offsetofDataPtr)).take
    ((sizeFieldAt E datagram position).toNat - offsetofDataPtr)

/-! ## A datagram in the buffer -/

/-- The bytes in use are those of a datagram. -/
structure Holds (object : WifiNetworkObject w) (datagram : List UInt8) : Prop
    extends Buffered object where
  window : object.window = datagram

namespace Holds

variable {object : WifiNetworkObject w} {datagram : List UInt8}

theorem length (holds : Holds object datagram) : datagram.length = object.size.toNat := by
  rw [← holds.window, length_window]

theorem finish (holds : Holds object datagram) :
    object.finish = object.buffer.toNat + datagram.length := by
  rw [WifiNetworkObject.finish, holds.length]

/-- A part of the buffer is a part of the datagram. -/
theorem slice_heap (holds : Holds object datagram) (position count : ℕ)
    (within : position + count ≤ datagram.length) :
    object.heap.slice (object.buffer.toNat + position) count =
      (datagram.drop position).take count := by
  rw [← holds.window, WifiNetworkObject.window, ← holds.length,
    Mem.drop_slice _ _ _ _ (by omega), Mem.take_slice _ _ _ _ (by omega)]

theorem heap_apply (holds : Holds object datagram) (position : ℕ)
    (within : position < datagram.length) :
    object.heap (object.buffer.toNat + position) = datagram.getD position 0 := by
  have one := holds.slice_heap position 1 (Nat.succ_le_of_lt within)
  rw [Mem.slice_one, List.drop_eq_getElem_cons within, List.take_succ_cons] at one
  rw [List.getD_eq_getElem?_getD, List.getElem?_eq_getElem within]
  exact (List.cons.inj one).1

/-- The header at the cursor is the one at its position in the datagram. -/
theorem headerFrame (holds : Holds object datagram)
    (lower : object.buffer.toNat ≤ object.currentFrame.toNat)
    (header : object.currentFrame.toNat + offsetofDataPtr ≤ object.finish) :
    headerFrame E object =
      { type := datagram.getD object.position 0
        id := datagram.getD (object.position + 1) 0
        seq := datagram.getD (object.position + 2) 0
        size := sizeFieldAt E datagram object.position
        dataPtr := Pointer.advance object.currentFrame offsetofDataPtr } := by
  have bounded := finish_lt holds.placed holds.sized
  have cursor : object.currentFrame.toNat = object.buffer.toNat + object.position := by
    rw [WifiNetworkObject.position]
    omega
  rw [holds.finish] at header bounded
  rw [offsetofDataPtr_eq] at header
  have moved (count : ℕ) (small : count ≤ 7) :
      (Pointer.advance object.currentFrame count).toNat =
        object.buffer.toNat + (object.position + count) := by
    rw [Pointer.toNat_advance (by omega), cursor, Nat.add_assoc]
  have type := holds.heap_apply object.position (by omega)
  have id := holds.heap_apply (object.position + 1) (by omega)
  have seq := holds.heap_apply (object.position + 2) (by omega)
  have stored := holds.slice_heap (object.position + 3) 4 (by omega)
  simp only [WifiNetwork.headerFrame, Pointer.advance_advance, moved, Nat.reduceAdd,
    Nat.reduceLeDiff, sizeFieldAt, offsetofDataPtr_eq, Frame.mk.injEq]
  refine ⟨?_, id, seq, ?_, trivial⟩
  · rw [cursor]
    exact type
  · rw [stored]

/-- A frame whose payload is there says what the datagram says. -/
theorem content (holds : Holds object datagram)
    (lower : object.buffer.toNat ≤ object.currentFrame.toNat)
    (header : object.currentFrame.toNat + offsetofDataPtr ≤ object.finish)
    (inside : (sizeFieldAt E datagram object.position).toNat ≤ object.remaining) :
    (WifiNetwork.headerFrame E object).content object.heap =
      messageAt E datagram object.position := by
  have payload := toNat_payload holds.placed holds.sized header
  have cursor : object.currentFrame.toNat = object.buffer.toNat + object.position := by
    rw [WifiNetworkObject.position]
    omega
  have room : object.position + offsetofDataPtr +
      ((sizeFieldAt E datagram object.position).toNat - offsetofDataPtr) ≤ datagram.length := by
    rw [WifiNetworkObject.remaining, holds.finish] at inside
    rw [holds.finish] at header
    rw [offsetofDataPtr_eq] at *
    omega
  have stored := holds.slice_heap _ _ room
  rw [holds.headerFrame E lower header]
  simp only [Frame.content, messageAt, payload, cursor, Nat.add_assoc] at stored ⊢
  rw [stored]

end Holds

/-- A call of `Receive` that reads a datagram for delivery. -/
def Stores (timeDiff : TimeDiff) (call : ReceiveCall) (receiverObject : WifiNetworkObject w)
    (senderObject : Option (WifiNetworkObject w)) (datagram : List UInt8) : Prop :=
  (receive timeDiff call receiverObject senderObject).path = .read ∧
    call.recvs.head? = some (.data datagram)

/-- **A datagram that is read is in the buffer, with the cursor at its start.** -/
theorem receive_holds {timeDiff : TimeDiff} {call : ReceiveCall}
    {receiverObject : WifiNetworkObject w} {senderObject : Option (WifiNetworkObject w)}
    {datagram : List UInt8} (placed : Placed receiverObject.buffer) (nonempty : datagram ≠ [])
    (short : datagram.length ≤ receivingBufferSize)
    (stores : Stores timeDiff call receiverObject senderObject datagram) :
    Holds (receive timeDiff call receiverObject senderObject).receiverObject datagram ∧
      (receive timeDiff call receiverObject senderObject).receiverObject.currentFrame =
        receiverObject.buffer := by
  obtain ⟨path, answer⟩ := stores
  obtain ⟨answers, recvs⟩ : ∃ answers, call.recvs = .data datagram :: answers :=
    List.head?_eq_some_iff.mp answer
  have whole : received datagram = datagram := List.take_of_length_le short
  obtain ⟨byte, bytes, rfl⟩ := List.exists_cons_of_ne_nil nonempty
  have counted : (UInt32.ofNat (byte :: bytes).length).toNat = (byte :: bytes).length := by
    rw [receivingBufferSize_eq] at short
    rw [UInt32.toNat_ofNat', Nat.mod_eq_of_lt (by omega)]
  have buffer := startReception_buffer call.clock.first receiverObject
  simp only [receive] at path ⊢
  rcases receiveReady_cases timeDiff call (startReception call.clock.first receiverObject)
      senderObject with
    ⟨_, outcome⟩ | ⟨_, _, outcome⟩ | ⟨_, _, _, outcome⟩ | ⟨_, _, _, outcome⟩
  · rw [outcome] at path
    cases path
  · rw [outcome] at path
    cases path
  · rw [outcome] at path
    cases path
  · rw [outcome]
    simp only [recvs, List.headD_cons, readSocket, whole]
    refine ⟨⟨⟨?_, ?_⟩, ?_⟩, ?_⟩
    · simpa [WifiNetworkObject.fill, buffer] using placed
    · simpa only [saveReceptionDate_size, counted] using short
    · simp only [WifiNetworkObject.window, saveReceptionDate_size, saveReceptionDate_heap,
        saveReceptionDate_buffer, counted, WifiNetworkObject.fill, whole]
      rw [Mem.slice_blit_self, Mem.slice_ofList]
    · simp only [saveReceptionDate_buffer, WifiNetworkObject.fill, buffer]

/-! ## Exactness of the parser -/

/-- The receiver object after a call of `PopFrame`. -/
def popNext (object : WifiNetworkObject w) (_ : Unit) : WifiNetworkObject w :=
  (popFrame E object).receiverObject

/-- `PopFrame` takes a frame of a datagram exactly when its header and its payload
are there, yields what the datagram says and moves by the size; it drops the rest of
the datagram otherwise. -/
structure PopsExactly (datagram : List UInt8) (object : WifiNetworkObject w) : Prop where
  accepts : (popFrame E object).result = .default ↔
    offsetofDataPtr ≤ object.remaining ∧
      offsetofDataPtr ≤ (sizeFieldAt E datagram object.position).toNat ∧
        (sizeFieldAt E datagram object.position).toNat ≤ object.remaining
  yields : (popFrame E object).result = .default →
    (popFrame E object).frame.content (popFrame E object).receiverObject.heap =
      messageAt E datagram object.position
  moves : (popFrame E object).result = .default →
    (popFrame E object).receiverObject.currentFrame.toNat =
      object.currentFrame.toNat + (sizeFieldAt E datagram object.position).toNat
  refuses : (popFrame E object).result ≠ .default →
    (popFrame E object).result = if object.remaining = 0 then .bufferEmpty else .badFrame
  clears : (popFrame E object).result ≠ .default →
    (popFrame E object).receiverObject.window = [] ∧
      (popFrame E object).receiverObject.currentFrame = object.buffer

/-- A call that fails is exact where no frame is there, if it tells the end of the datagram
from a bad frame. -/
theorem PopsExactly.of_failed {datagram : List UInt8} {object : WifiNetworkObject w}
    {result : ManagerReturn} {reads : List Region}
    (outcome : popFrame E object = popFailed result object reads) (failed : result ≠ .default)
    (absent : ¬ (offsetofDataPtr ≤ object.remaining ∧
      offsetofDataPtr ≤ (sizeFieldAt E datagram object.position).toNat ∧
        (sizeFieldAt E datagram object.position).toNat ≤ object.remaining))
    (told : result = if object.remaining = 0 then .bufferEmpty else .badFrame) :
    PopsExactly E datagram object := by
  have error : (popFrame E object).result ≠ .default := by
    rw [outcome]
    exact failed
  refine ⟨iff_of_false error absent, ?_, ?_, ?_, ?_⟩
  · intro taken
    exact absurd taken error
  · intro taken
    exact absurd taken error
  · intro _
    rw [outcome]
    exact told
  · intro _
    rw [outcome]
    exact ⟨rfl, rfl⟩

/-- No header is left, or the size field counts a header and is at most the address
of the end plus a header, or it is below a header and the end is at the top of the
address space. -/
def SizeInRange (datagram : List UInt8) (object : WifiNetworkObject w) : Prop :=
  object.remaining < offsetofDataPtr ∨
    (offsetofDataPtr ≤ (sizeFieldAt E datagram object.position).toNat ∧
      (sizeFieldAt E datagram object.position).toNat ≤ object.finish + offsetofDataPtr) ∨
    ((sizeFieldAt E datagram object.position).toNat < offsetofDataPtr ∧
      2 ^ w ≤ object.finish + (offsetofDataPtr - (sizeFieldAt E datagram object.position).toNat))

instance (datagram : List UInt8) (object : WifiNetworkObject w) :
    Decidable (SizeInRange E datagram object) :=
  inferInstanceAs (Decidable (_ ∨ _))

/-- The cursor walks over a datagram, or the datagram was dropped. -/
structure Walks (datagram : List UInt8) (object : WifiNetworkObject w) : Prop
    extends InWindow object where
  window : object.window = datagram ∨ object.size = 0

namespace Walks

variable {datagram : List UInt8} {object : WifiNetworkObject w}

theorem dropped (walks : Walks datagram object) :
    Walks datagram { object with currentFrame := object.buffer, size := 0 } :=
  ⟨walks.toInWindow.dropped, .inr rfl⟩

/-- Where a header is left, the datagram is still there. -/
theorem holds (walks : Walks datagram object)
    (header : object.currentFrame.toNat + offsetofDataPtr ≤ object.finish) :
    Holds object datagram := by
  refine ⟨walks.toBuffered, walks.window.resolve_right ?_⟩
  intro emptied
  have lower := walks.lower
  rw [WifiNetworkObject.finish, emptied, offsetofDataPtr_eq] at header
  simp at header
  omega

theorem headerFrame_size (walks : Walks datagram object)
    (header : object.currentFrame.toNat + offsetofDataPtr ≤ object.finish) :
    (headerFrame E object).size = sizeFieldAt E datagram object.position := by
  rw [(walks.holds header).headerFrame E walks.lower header]

/-- A frame that is there leaves the cursor in the window. -/
theorem advance (walks : Walks datagram object) {size : ℕ}
    (inside : object.currentFrame.toNat + size ≤ object.finish) :
    Walks datagram
      { object with currentFrame := Pointer.advance object.currentFrame size } :=
  ⟨walks.toInWindow.advance inside, walks.window⟩

/-- What `PopFrame` preserves where the size field is in range. -/
theorem popNext (walks : Walks datagram object) (inRange : SizeInRange E datagram object) :
    Walks datagram (popNext E object ()) := by
  rw [WifiNetwork.popNext]
  rcases popFrame_cases E walks.placed walks.sized with
    ⟨_, outcome⟩ | ⟨_, _, outcome⟩ | ⟨header, accepted, outcome⟩
  · rw [outcome]
    exact walks.dropped
  · rw [outcome]
    exact walks.dropped
  · rw [outcome]
    apply walks.advance
    rw [walks.headerFrame_size E header] at accepted ⊢
    simp only [SizeInRange, SizeRefused, WifiNetworkObject.remaining, offsetofDataPtr_eq] at *
    omega

/-- `PopFrame` is exact where the size field is in range, and only there. -/
theorem popsExactly_iff (walks : Walks datagram object) :
    PopsExactly E datagram object ↔ SizeInRange E datagram object := by
  have upper := walks.upper
  rcases popFrame_cases E walks.placed walks.sized with
    ⟨short, outcome⟩ | ⟨header, refused, outcome⟩ | ⟨header, accepted, outcome⟩
  · have few : object.remaining < offsetofDataPtr := by
      rw [WifiNetworkObject.remaining]
      omega
    have atEnd : object.currentFrame.toNat = object.finish ↔ object.remaining = 0 := by
      rw [WifiNetworkObject.remaining]
      omega
    refine iff_of_true (.of_failed E outcome ?_ ?_ ?_) (.inl few)
    · split <;> simp
    · intro there
      exact Nat.not_le_of_lt few there.1
    · simp only [atEnd]
  · rw [walks.headerFrame_size E header] at refused
    have some : object.remaining ≠ 0 := by
      rw [WifiNetworkObject.remaining]
      rw [offsetofDataPtr_eq] at header
      omega
    refine iff_of_true (.of_failed E outcome (by decide) ?_ (if_neg some).symm) ?_
    · simp only [SizeRefused, WifiNetworkObject.remaining] at *
      omega
    · simp only [SizeInRange, SizeRefused, WifiNetworkObject.remaining] at *
      omega
  · have taken : (popFrame E object).result = .default := by rw [outcome]
    have bounded := finish_lt walks.placed walks.sized
    have size := walks.headerFrame_size E header
    rw [size] at accepted
    constructor
    · intro exact
      obtain ⟨held, holdsHeader, inside⟩ := exact.accepts.mp taken
      refine .inr (.inl ⟨holdsHeader, ?_⟩)
      simp only [WifiNetworkObject.remaining] at *
      omega
    · intro inRange
      have inside : (sizeFieldAt E datagram object.position).toNat ≤ object.remaining := by
        simp only [SizeInRange, SizeRefused, WifiNetworkObject.remaining] at *
        omega
      refine ⟨?_, ?_, ?_, ?_, ?_⟩
      · refine iff_of_true taken ⟨?_, ?_, inside⟩
        · rw [WifiNetworkObject.remaining]
          omega
        · simp only [SizeInRange, SizeRefused, WifiNetworkObject.remaining] at *
          omega
      · intro _
        rw [outcome]
        exact (walks.holds header).content E walks.lower header inside
      · intro _
        rw [outcome, size]
        refine Pointer.toNat_advance ?_
        rw [WifiNetworkObject.remaining] at inside
        omega
      · intro error
        exact absurd taken error
      · intro error
        exact absurd taken error

end Walks

/-- A datagram that is read is walked from its start. -/
theorem receive_walks {timeDiff : TimeDiff} {call : ReceiveCall}
    {receiverObject : WifiNetworkObject w} {senderObject : Option (WifiNetworkObject w)}
    {datagram : List UInt8} (placed : Placed receiverObject.buffer) (nonempty : datagram ≠ [])
    (short : datagram.length ≤ receivingBufferSize)
    (stores : Stores timeDiff call receiverObject senderObject datagram) :
    Walks datagram (receive timeDiff call receiverObject senderObject).receiverObject := by
  obtain ⟨holds, cursor⟩ := receive_holds placed nonempty short stores
  refine ⟨⟨holds.toBuffered, ?_, ?_⟩, .inl holds.window⟩
  · rw [cursor, receive_buffer]
  · rw [cursor, ← receive_buffer timeDiff call receiverObject senderObject]
    exact Nat.le_add_right _ _

/-- **At every cursor that size fields in range lead to, the size field is in range
exactly when `PopFrame` is exact there.** -/
theorem popFrame_exact_iff {timeDiff : TimeDiff} {call : ReceiveCall}
    {receiverObject object : WifiNetworkObject w}
    {senderObject : Option (WifiNetworkObject w)} {datagram : List UInt8}
    (placed : Placed receiverObject.buffer) (nonempty : datagram ≠ [])
    (short : datagram.length ≤ receivingBufferSize)
    (stores : Stores timeDiff call receiverObject senderObject datagram) {pops : List Unit}
    (run : Run (restrict (fun object _ => SizeInRange E datagram object) (follows (popNext E)))
      (receive timeDiff call receiverObject senderObject).receiverObject pops object) :
    PopsExactly E datagram object ↔ SizeInRange E datagram object := by
  have walks : Walks datagram object := by
    refine Run.invariant (Walks datagram) ?_ run
      (receive_walks placed nonempty short stores)
    rintro before label after walks ⟨inRange, rfl⟩
    exact walks.popNext E inRange
  exact walks.popsExactly_iff E

/-! ## A receiver on a 64-bit target -/

/-- The arrival of a datagram, one second after the epoch. -/
def arrival (datagram : List UInt8) : ReceiveCall :=
  ⟨.ready true false, [.data datagram], .constant ⟨1, 0⟩⟩

/-- The receiver that has stored the datagram. -/
def storedAtFourGiB (datagram : List UInt8) : WifiNetworkObject 64 :=
  (receive exactDiff (arrival datagram) newAtFourGiB none).receiverObject

theorem stores_arrival (datagram : List UInt8) :
    Stores exactDiff (arrival datagram) newAtFourGiB none datagram :=
  ⟨rfl, rfl⟩

/-- The second frame of a datagram of two, eight bytes each. -/
theorem popFrame_exact_eight :
    PopsExactly Endianness.littleEndianHost
      [1, 2, 3, 8, 0, 0, 0, 65, 1, 2, 4, 8, 0, 0, 0, 66]
      (popNext Endianness.littleEndianHost
        (storedAtFourGiB [1, 2, 3, 8, 0, 0, 0, 65, 1, 2, 4, 8, 0, 0, 0, 66]) ()) :=
  (popFrame_exact_iff Endianness.littleEndianHost placed_fourGiB (List.cons_ne_nil _ _)
    (by decide) (stores_arrival _) (.single ⟨by decide, rfl⟩)).mpr (by decide)

/-- A header with the size field zero is taken as a frame. -/
theorem popFrame_not_exact_zero :
    ¬ PopsExactly Endianness.littleEndianHost [1, 2, 3, 0, 0, 0, 0]
      (storedAtFourGiB [1, 2, 3, 0, 0, 0, 0]) := by
  intro exact
  obtain ⟨-, holdsHeader, -⟩ := exact.accepts.mp (by decide)
  exact absurd holdsHeader (by decide)

end WifiNetwork

end ARNetworkAL
