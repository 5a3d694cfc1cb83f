import ARNetworkAL.Mux.Object

/-!
# The size field of a Mux frame

Both directions compute the length of the payload as the size field less a header of seven
bytes, and neither tests that the size counts a header. `PushFrame` asks for a buffer of
`frame->size` bytes, writes seven into it and then `frame->size - 7` modulo `2 ^ 32`;
`PopFrame` tests that the size is at most the length of the data and hands the frame out.

So the lengths are right exactly where the size field is at least seven, or where the call
fails before it counts (`lengths_sound_iff`).
-/

set_option autoImplicit false

namespace ARNetworkAL

open Library

namespace MuxNetwork

variable {w : ℕ} {β : Type} (E : Endianness)

/-! ## PushFrame -/

/-- A call of `PushFrame` stays in a buffer of as many bytes as it asked for, reads at most
the payload, and does not accept a frame whose size does not count a header. -/
structure PushSound (caller : Mem UInt8) (answers : PushAnswers)
    (senderObject : MuxNetworkObject w β) (frame : Frame w) : Prop where
  writes : ∀ region ∈ (pushFrame E caller answers senderObject frame).writes,
    region.Within 0 frame.size.toNat
  reads : ∀ region ∈ (pushFrame E caller answers senderObject frame).reads,
    region.Within frame.dataPtr.toNat
      (frame.dataPtr.toNat + (frame.size.toNat - offsetofDataPtr))
  refuses : frame.size.toNat < offsetofDataPtr →
    (pushFrame E caller answers senderObject frame).result ≠ .default

section

variable (caller : Mem UInt8) {answers : PushAnswers} (senderObject : MuxNetworkObject w β)
  {frame : Frame w}

/-- The blocks that the copy of a frame writes. -/
theorem copyFrame_writes (word : 32 ≤ w) (raw : Mem UInt8) (frame : Frame w) :
    (copyFrame E caller raw frame).writes =
      [⟨0, 1⟩, ⟨1, 1⟩, ⟨2, 1⟩, ⟨3, 4⟩, ⟨7, (datasize frame).toNat⟩] := by
  have space : 2 ^ 32 ≤ 2 ^ w := Nat.pow_le_pow_right Nat.two_pos word
  have moved (count : ℕ) (small : count ≤ 7) :
      (Pointer.advance (0#w) count).toNat = count := by
    rw [Pointer.toNat_advance_mod, BitVec.toNat_ofNat, Nat.zero_mod, Nat.zero_add,
      Nat.mod_eq_of_lt (by omega)]
  simp [copyFrame, Writing.memcpy, Pointer.advance_advance, moved]

/-- What a call touches once the data of its buffer are there. -/
theorem pushFrame_touches (word : 32 ≤ w) (frame : Frame w) {raw : Mem UInt8}
    (allocated : answers.buffer = some raw) (read : ¬ answers.getData < 0) :
    (pushFrame E caller answers senderObject frame).writes =
        [⟨0, 1⟩, ⟨1, 1⟩, ⟨2, 1⟩, ⟨3, 4⟩, ⟨7, (datasize frame).toNat⟩] ∧
      (pushFrame E caller answers senderObject frame).reads =
        [⟨frame.dataPtr.toNat, (datasize frame).toNat⟩] := by
  rw [← copyFrame_writes E caller word raw frame]
  simp only [pushFrame, allocated, if_neg read]
  split
  · exact ⟨rfl, rfl⟩
  · split
    · exact ⟨rfl, rfl⟩
    · exact ⟨rfl, rfl⟩

/-- A call that does not get the data of a buffer touches nothing. -/
theorem pushFrame_untouched (frame : Frame w)
    (unread : answers.buffer = none ∨ answers.getData < 0) :
    (pushFrame E caller answers senderObject frame).writes = [] ∧
      (pushFrame E caller answers senderObject frame).reads = [] := by
  cases allocated : answers.buffer with
  | none =>
      rw [pushFrame_unallocated E caller senderObject frame allocated]
      exact ⟨rfl, rfl⟩
  | some raw =>
      rw [allocated] at unread
      have failed : answers.getData < 0 := unread.resolve_left (by simp)
      simp only [pushFrame, allocated, if_pos failed]
      exact ⟨trivial, trivial⟩

/-- A size that counts a header is sound, whatever libpomp and libmux answer. -/
theorem pushSound_of_header (word : 32 ≤ w) (holdsHeader : offsetofDataPtr ≤ frame.size.toNat) :
    PushSound E caller answers senderObject frame := by
  have counts : ¬ frame.size.toNat < offsetofDataPtr := Nat.not_lt.mpr holdsHeader
  by_cases unread : answers.buffer = none ∨ answers.getData < 0
  · obtain ⟨writes, reads⟩ := pushFrame_untouched E caller senderObject frame unread
    refine ⟨?_, ?_, fun few => absurd few counts⟩
    · simp [writes]
    · simp [reads]
  · obtain ⟨missing, read⟩ := not_or.mp unread
    obtain ⟨raw, allocated⟩ := Option.ne_none_iff_exists'.mp missing
    obtain ⟨writes, reads⟩ :=
      pushFrame_touches E caller senderObject word frame allocated read
    have payload := toNat_datasize holdsHeader
    refine ⟨?_, ?_, fun few => absurd few counts⟩
    · rw [writes, payload]
      simp only [offsetofDataPtr_eq, List.forall_mem_cons, Region.Within] at holdsHeader ⊢
      refine ⟨?_, ?_, ?_, ?_, ?_, by simp⟩ <;> omega
    · rw [reads, payload]
      simp [Region.Within]

/-- **`PushFrame` is sound exactly if the size counts a header**, or it gets a buffer and
not its data. -/
theorem pushSound_iff (word : 32 ≤ w) :
    PushSound E caller answers senderObject frame ↔
      offsetofDataPtr ≤ frame.size.toNat ∨
        (answers.buffer.isSome ∧ answers.getData < 0) := by
  rcases Nat.lt_or_ge frame.size.toNat offsetofDataPtr with few | holdsHeader
  · have uncounted : ¬ offsetofDataPtr ≤ frame.size.toNat := Nat.not_le.mpr few
    rw [or_iff_right uncounted]
    constructor
    · intro sound
      cases allocated : answers.buffer with
      | none =>
          refine absurd ?_ (sound.refuses few)
          rw [pushFrame_unallocated E caller senderObject frame allocated]
      | some raw =>
          refine ⟨rfl, ?_⟩
          by_contra read
          -- the size field itself is written past the end of the buffer
          obtain ⟨writes, -⟩ :=
            pushFrame_touches E caller senderObject word frame allocated read
          have header := sound.writes ⟨3, 4⟩ (by rw [writes]; simp)
          exact uncounted header.2
    · rintro ⟨some, unread⟩
      obtain ⟨raw, allocated⟩ := Option.isSome_iff_exists.mp some
      obtain ⟨writes, reads⟩ :=
        pushFrame_untouched E caller senderObject frame (.inr unread)
      obtain ⟨failed, -, -⟩ :=
        pushFrame_unfilled E caller senderObject frame allocated (.inl unread)
      refine ⟨?_, ?_, ?_⟩
      · simp [writes]
      · simp [reads]
      · intro _
        rw [failed]
        decide
  · exact iff_of_true (pushSound_of_header E caller senderObject word holdsHeader)
      (.inl holdsHeader)

end

/-! ## PopFrame -/

/-- A call of `PopFrame` that hands out a frame hands out one that counts a header and no
more than the data of its buffer, with its payload in them. -/
def PopSound (getCdata : β → Option (Cdata w)) (receiverObject : MuxNetworkObject w β)
    (frame : Frame w) : Prop :=
  (popFrame E getCdata receiverObject frame).result = .default →
    ∃ buffer cdata, receiverObject.rxbufRecv = some buffer ∧ getCdata buffer = some cdata ∧
      offsetofDataPtr ≤ (popFrame E getCdata receiverObject frame).frame.size.toNat ∧
      (popFrame E getCdata receiverObject frame).frame.size.toNat ≤ cdata.bytes.length ∧
      ((popFrame E getCdata receiverObject frame).frame.dataPtr - cdata.data).toNat +
          ((popFrame E getCdata receiverObject frame).frame.size.toNat - offsetofDataPtr) ≤
        cdata.bytes.length

/-- **`PopFrame` is sound exactly if the size field of every buffer it reads counts a
header**, or the data are too short for one. -/
theorem popSound_iff (word : 32 ≤ w) (getCdata : β → Option (Cdata w))
    (receiverObject : MuxNetworkObject w β) (frame : Frame w) :
    PopSound E getCdata receiverObject frame ↔
      ∀ buffer cdata, receiverObject.rxbufRecv = some buffer → receiverObject.rxbufPop = none →
        getCdata buffer = some cdata → cdata.bytes.length < 7 ∨
          offsetofDataPtr ≤ (sizeField E ((cdata.bytes.drop 3).take 4)).toNat := by
  constructor
  · intro sound buffer cdata received free read
    rw [PopSound, popFrame_some E getCdata frame received free read] at sound
    rcases Nat.lt_or_ge cdata.bytes.length 7 with short | header
    · exact .inl short
    · rcases Nat.lt_or_ge (sizeField E ((cdata.bytes.drop 3).take 4)).toNat offsetofDataPtr with
        few | counts
      · -- a size that does not count a header is below the length
        rw [offsetofDataPtr_eq] at few
        have taken : (readFrame E cdata frame).1 = .default :=
          (readFrame_default_iff E cdata frame).mpr
            ⟨header, (Nat.le_of_lt few).trans header⟩
        obtain ⟨_, _, _, _, counts, _⟩ := sound taken
        rw [readFrame_of_default E taken] at counts
        exact .inr counts
      · exact .inr counts
  · intro counted taken
    rcases (popFrame_cases E getCdata frame : (receiverObject.rxbufRecv = none ∧ _) ∨ _) with
      ⟨_, outcome⟩ | ⟨_, _, _, outcome⟩ | ⟨buffer, received, free, _⟩
    · rw [outcome] at taken
      cases taken
    · rw [outcome] at taken
      cases taken
    · cases read : getCdata buffer with
      | none =>
          simp only [popFrame, received, free, read, Option.isSome_none, Bool.false_eq_true,
            if_false] at taken
          cases taken
      | some cdata =>
          rw [popFrame_some E getCdata frame received free read] at taken ⊢
          obtain ⟨header, inside⟩ := (readFrame_default_iff E cdata frame).mp taken
          have counts := (counted buffer cdata received free read).resolve_left
            (Nat.not_lt.mpr header)
          refine ⟨buffer, cdata, received, read, ?_⟩
          rw [readFrame_of_default E taken]
          refine ⟨counts, inside, ?_⟩
          have space : 2 ^ 32 ≤ 2 ^ w := Nat.pow_le_pow_right Nat.two_pos word
          have payload := Pointer.toNat_advance_sub cdata.data (show 7 < 2 ^ w by omega)
          simp only [payload, offsetofDataPtr_eq] at counts ⊢
          have size : (readHeader E cdata frame).size.toNat ≤ cdata.bytes.length := inside
          have large : 7 ≤ (readHeader E cdata frame).size.toNat := counts
          omega

/-! ## Both directions -/

/-- **Each direction is sound exactly if its size field is not below a header**: that of the
frame pushed, unless its buffer gives no data, and that of a frame popped, unless it is cut
before its end. -/
theorem lengths_sound_iff (word : 32 ≤ w) (caller : Mem UInt8) (answers : PushAnswers)
    (object : MuxNetworkObject w β) (pushed : Frame w) (getCdata : β → Option (Cdata w))
    (filled : Frame w) :
    (PushSound E caller answers object pushed ↔
        offsetofDataPtr ≤ pushed.size.toNat ∨
          (answers.buffer.isSome ∧ answers.getData < 0)) ∧
      (PopSound E getCdata object filled ↔
        ∀ buffer cdata, object.rxbufRecv = some buffer → object.rxbufPop = none →
          getCdata buffer = some cdata → cdata.bytes.length < 7 ∨
            offsetofDataPtr ≤ (sizeField E ((cdata.bytes.drop 3).take 4)).toNat) :=
  ⟨pushSound_iff E caller object word, popSound_iff E word getCdata object filled⟩

/-- An object that has received a buffer. -/
def receivedObject : MuxNetworkObject 64 Unit :=
  { newObject 1 2 with rxbufRecv := some () }

/-- Libpomp and libmux accept everything. -/
def PushAnswers.accepting : PushAnswers := ⟨some fun _ => 0, 0, 0, 0⟩

/-- A frame with one byte of payload in each direction. -/
theorem lengths_sound_eight :
    let pushed : Frame 64 := ⟨2, 10, 0, 8, 4096⟩
    let getCdata := fun _ => some ⟨16, [2, 10, 0, 8, 0, 0, 0, 170]⟩
    (PushSound .littleEndianHost (fun _ => 0) .accepting receivedObject pushed ↔
        offsetofDataPtr ≤ pushed.size.toNat ∨
          (PushAnswers.accepting.buffer.isSome ∧ PushAnswers.accepting.getData < 0)) ∧
      (PopSound .littleEndianHost getCdata receivedObject (.reset 64) ↔
        ∀ buffer (cdata : Cdata 64), receivedObject.rxbufRecv = some buffer →
          receivedObject.rxbufPop = none → getCdata buffer = some cdata →
            cdata.bytes.length < 7 ∨
              offsetofDataPtr ≤
                (sizeField .littleEndianHost ((cdata.bytes.drop 3).take 4)).toNat) :=
  lengths_sound_iff .littleEndianHost (by decide) _ _ _ _ _ _

/-- A frame with a size of three overruns its buffer of three bytes, and reads nearly
4 GiB of payload. A received buffer with a size field of zero is handed out. -/
theorem lengths_not_sound_below_header :
    ¬ PushSound .littleEndianHost (fun _ => 0) .accepting receivedObject
        ⟨2, 10, 0, 3, 4096⟩ ∧
      ¬ PopSound .littleEndianHost (fun _ => some ⟨16, [2, 10, 0, 0, 0, 0, 0]⟩) receivedObject
        (.reset 64) := by
  constructor
  · intro sound
    exact absurd sound.writes (by decide)
  · intro sound
    obtain ⟨_, _, _, _, counts, _⟩ := sound (by decide)
    exact absurd counts (by decide)

end MuxNetwork

end ARNetworkAL
