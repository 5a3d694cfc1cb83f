import ARNetworkAL.Wifi.Datagram

/-!
# Delivering datagrams

On a byte string that splits into frames of the wire format, `PopFrame` is the
decoder of the format: it takes what `decodeFrame` takes (`decodeFrame_drop`,
`Walks.popFrame_decodes`). The loop that calls it until it returns something other
than `DEFAULT` therefore finds the frames of such a datagram, in order, and ends
with `BUFFER_EMPTY` (`Walks.drain_splits`).

`deliver` stores several datagrams one after the other, each by a call of `Receive`,
and drains each before the next.
-/

set_option autoImplicit false

namespace ARNetworkAL

open Library

namespace WifiNetwork

variable {w : ℕ} (E : Endianness)

/-! ## PopFrame decodes the wire format -/

theorem messageAt_drop (datagram : List UInt8) (position : ℕ) :
    messageAt E (datagram.drop position) 0 = messageAt E datagram position := by
  simp [messageAt, sizeFieldAt, List.drop_drop, List.getD_eq_getElem?_getD,
    List.getElem?_drop]

theorem decodeFrame_eq (stream : List UInt8) :
    decodeFrame E stream =
      if offsetofDataPtr ≤ stream.length ∧
          offsetofDataPtr ≤ (sizeFieldAt E stream 0).toNat ∧
            (sizeFieldAt E stream 0).toNat ≤ stream.length then
        some (messageAt E stream 0, stream.drop (sizeFieldAt E stream 0).toNat)
      else none := by
  match stream with
  | [] | [_] | [_, _] | [_, _, _] | [_, _, _, _] | [_, _, _, _, _] | [_, _, _, _, _, _] =>
      simp [decodeFrame]
  | type :: id :: seq :: b₀ :: b₁ :: b₂ :: b₃ :: rest =>
      have field : sizeFieldAt E (type :: id :: seq :: b₀ :: b₁ :: b₂ :: b₃ :: rest) 0 =
          sizeField E [b₀, b₁, b₂, b₃] := by
        simp [sizeFieldAt]
      have counted : (type :: id :: seq :: b₀ :: b₁ :: b₂ :: b₃ :: rest).length =
          rest.length + offsetofDataPtr := rfl
      simp only [decodeFrame, field, counted]
      by_cases fits : offsetofDataPtr ≤ (sizeField E [b₀, b₁, b₂, b₃]).toNat ∧
          (sizeField E [b₀, b₁, b₂, b₃]).toNat - offsetofDataPtr ≤ rest.length
      · obtain ⟨count, size⟩ := Nat.exists_eq_add_of_le' fits.1
        have within : offsetofDataPtr ≤ rest.length + offsetofDataPtr ∧
            offsetofDataPtr ≤ (sizeField E [b₀, b₁, b₂, b₃]).toNat ∧
              (sizeField E [b₀, b₁, b₂, b₃]).toNat ≤ rest.length + offsetofDataPtr := by
          omega
        rw [if_pos fits, if_pos within]
        simp [messageAt, field, size]
      · have beyond : ¬ (offsetofDataPtr ≤ rest.length + offsetofDataPtr ∧
            offsetofDataPtr ≤ (sizeField E [b₀, b₁, b₂, b₃]).toNat ∧
              (sizeField E [b₀, b₁, b₂, b₃]).toNat ≤ rest.length + offsetofDataPtr) := by
          omega
        rw [if_neg fits, if_neg beyond]

/-- The decoder at a position of a datagram. -/
theorem decodeFrame_drop (datagram : List UInt8) (position : ℕ) :
    decodeFrame E (datagram.drop position) =
      if offsetofDataPtr ≤ datagram.length - position ∧
          offsetofDataPtr ≤ (sizeFieldAt E datagram position).toNat ∧
            (sizeFieldAt E datagram position).toNat ≤ datagram.length - position then
        some (messageAt E datagram position,
          datagram.drop (position + (sizeFieldAt E datagram position).toNat))
      else none := by
  have same : sizeFieldAt E (datagram.drop position) 0 = sizeFieldAt E datagram position :=
    congrArg Message.size (messageAt_drop E datagram position)
  rw [decodeFrame_eq, same, messageAt_drop, List.length_drop, List.drop_drop]

/-- A frame that is taken leaves the bytes in use. -/
theorem popFrame_window {object : WifiNetworkObject w}
    (taken : (popFrame E object).result = .default) :
    (popFrame E object).receiverObject.window = object.window := by
  simp only [popFrame] at taken ⊢
  split at taken
  · split at taken <;> cases taken
  · rename_i header
    rw [if_neg header]
    split at taken
    · cases taken
    · rename_i payload
      rw [if_neg payload]
      rfl

namespace Walks

variable {datagram : List UInt8} {object : WifiNetworkObject w}

theorem remaining_of_window (walks : Walks datagram object) (whole : object.window = datagram) :
    object.remaining = datagram.length - object.position := by
  have lower := walks.lower
  have holds : Holds object datagram := ⟨walks.toBuffered, whole⟩
  rw [WifiNetworkObject.remaining, WifiNetworkObject.position, holds.finish]
  omega

/-- **`PopFrame` takes a frame of the wire format.** -/
theorem popFrame_decodes (walks : Walks datagram object) (whole : object.window = datagram)
    {message : Message} {rest : List UInt8}
    (decoded : decodeFrame E (datagram.drop object.position) = some (message, rest)) :
    (popFrame E object).result = .default ∧
      (popFrame E object).frame.content (popFrame E object).receiverObject.heap = message ∧
      Walks datagram (popFrame E object).receiverObject ∧
      (popFrame E object).receiverObject.window = datagram ∧
      datagram.drop (popFrame E object).receiverObject.position = rest := by
  have left := walks.remaining_of_window whole
  rw [decodeFrame_drop] at decoded
  split at decoded
  · rename_i fits
    simp only [Option.some.injEq, Prod.mk.injEq] at decoded
    obtain ⟨rfl, rfl⟩ := decoded
    rw [← left] at fits
    have inRange : SizeInRange E datagram object := by
      refine .inr (.inl ⟨fits.2.1, ?_⟩)
      have inside := fits.2.2
      rw [WifiNetworkObject.remaining] at inside
      omega
    have exact := (walks.popsExactly_iff E).mpr inRange
    have taken := exact.accepts.mpr fits
    refine ⟨taken, exact.yields taken, walks.popNext E inRange, ?_, ?_⟩
    · rw [popFrame_window E taken, whole]
    · have lower := walks.lower
      have moved := exact.moves taken
      rw [WifiNetworkObject.position, popFrame_buffer, moved, WifiNetworkObject.position,
        Nat.sub_add_comm lower]
  · cases decoded

/-- At the end of the datagram it finds nothing. -/
theorem popFrame_atEnd (walks : Walks datagram object) (whole : object.window = datagram)
    (done : datagram.drop object.position = []) :
    (popFrame E object).result = .bufferEmpty := by
  have left := walks.remaining_of_window whole
  have past := List.drop_eq_nil_iff.mp done
  have none : object.remaining = 0 := by omega
  have exact := (walks.popsExactly_iff E).mpr (.inl (by rw [none]; decide))
  have error : (popFrame E object).result ≠ .default := by
    rw [ne_eq, exact.accepts, none]
    rintro ⟨header, -⟩
    exact absurd header (Nat.not_succ_le_zero _)
  rw [exact.refuses error, if_pos none]

end Walks

/-! ## The loop -/

/-- What the loop over `PopFrame` found: the frames taken, the first return other
than `DEFAULT`, and the object afterwards. -/
structure Drained (w : ℕ) where
  messages : List Message
  result : ManagerReturn
  receiverObject : WifiNetworkObject w

/-- Call `PopFrame` until it returns something other than `DEFAULT`. -/
def drain : ℕ → WifiNetworkObject w → Option (Drained w)
  | 0, _ => none
  | fuel + 1, object =>
      let outcome := popFrame E object
      if outcome.result = .default then
        (drain fuel outcome.receiverObject).map fun drained =>
          { drained with
            messages := outcome.frame.content outcome.receiverObject.heap :: drained.messages }
      else some ⟨[], outcome.result, outcome.receiverObject⟩

/-- **The loop finds the frames that the datagram splits into, and ends with `BUFFER_EMPTY`.** -/
theorem Walks.drain_splits {datagram : List UInt8} {messages : List Message} {fuel : ℕ}
    {object : WifiNetworkObject w} (walks : Walks datagram object)
    (whole : object.window = datagram)
    (splits : (frameFormat E).Splits (datagram.drop object.position) messages [])
    (enough : messages.length < fuel) :
    ∃ receiverObject, drain E fuel object = some ⟨messages, .bufferEmpty, receiverObject⟩ ∧
      receiverObject.buffer = object.buffer := by
  generalize stream : datagram.drop object.position = bytes at splits
  induction messages generalizing fuel object bytes with
  | nil =>
      cases fuel with
      | zero => exact absurd enough (Nat.not_lt_zero _)
      | succ fuel =>
          cases splits with
          | stop refused =>
              have ended := walks.popFrame_atEnd E whole stream
              refine ⟨(popFrame E object).receiverObject, ?_, popFrame_buffer E object⟩
              rw [drain, ended]
              rfl
  | cons message messages ih =>
      cases fuel with
      | zero => exact absurd enough (Nat.not_lt_zero _)
      | succ fuel =>
          cases splits with
          | next accepted others =>
              rw [← stream] at accepted
              obtain ⟨taken, content, onward, still, left⟩ :=
                walks.popFrame_decodes E whole accepted
              obtain ⟨receiverObject, drained, buffer⟩ :=
                ih onward still (Nat.lt_of_succ_lt_succ enough) _ left others
              refine ⟨receiverObject, ?_, ?_⟩
              · rw [drain, if_pos taken, drained, content]
                rfl
              · rw [buffer, popFrame_buffer]

/-! ## Several datagrams -/

/-- Store datagrams by one call of `Receive` each, and drain each before the next. -/
def deliver (timeDiff : TimeDiff) (fuel : ℕ) :
    WifiNetworkObject w → List (ReceiveCall × Option (WifiNetworkObject w)) →
      Option (List (Drained w))
  | _, [] => some []
  | object, (call, senderObject) :: arrivals =>
      match drain E fuel (receive timeDiff call object senderObject).receiverObject with
      | none => none
      | some drained =>
          (deliver timeDiff fuel drained.receiverObject arrivals).map (drained :: ·)

/-- Each of these calls stores the datagram of its place. -/
def StoresEach (timeDiff : TimeDiff) (fuel : ℕ) :
    WifiNetworkObject w → List (ReceiveCall × Option (WifiNetworkObject w)) →
      List (List UInt8) → Prop
  | _, [], [] => True
  | object, (call, senderObject) :: arrivals, datagram :: datagrams =>
      Stores timeDiff call object senderObject datagram ∧
        ∀ drained, drain E fuel (receive timeDiff call object senderObject).receiverObject =
          some drained → StoresEach timeDiff fuel drained.receiverObject arrivals datagrams
  | _, _, _ => False

/-- Frames that can leave in one datagram. -/
structure Batch (messages : List Message) : Prop where
  nonempty : messages ≠ []
  valid : ∀ message ∈ messages, message.WellSized
  short : ((frameFormat E).encodeAll messages).length ≤ receivingBufferSize

/-- A header for each frame. -/
theorem length_encodeAll {messages : List Message}
    (valid : ∀ message ∈ messages, message.WellSized) :
    offsetofDataPtr * messages.length ≤ ((frameFormat E).encodeAll messages).length := by
  induction messages with
  | nil => exact Nat.zero_le _
  | cons message messages ih =>
      have others : offsetofDataPtr * messages.length ≤
          ((frameFormat E).encodeAll messages).length := by
        apply ih
        intro other member
        exact valid other (List.mem_cons_of_mem _ member)
      have sized := valid message List.mem_cons_self
      have header : offsetofDataPtr ≤ ((frameFormat E).encode message).length := by
        rw [show (frameFormat E).encode message = wire E message from rfl, length_wire E sized,
          ← show _ = message.size.toNat from sized]
        exact Nat.le_add_right _ _
      rw [RecordFormat.encodeAll_cons, List.length_append, List.length_cons, Nat.mul_succ]
      omega

theorem encodeAll_ne_nil {messages : List Message} (nonempty : messages ≠ [])
    (valid : ∀ message ∈ messages, message.WellSized) :
    (frameFormat E).encodeAll messages ≠ [] := by
  intro empty
  have long := length_encodeAll E valid
  have some := List.length_pos_iff.mpr nonempty
  rw [empty, List.length_nil, offsetofDataPtr_eq] at long
  omega

/-- **Batches that are sent and stored are found again, each by one drain that ends with
`BUFFER_EMPTY`.** -/
theorem deliver_batches {timeDiff : TimeDiff} {fuel : ℕ}
    (enough : receivingBufferSize / offsetofDataPtr < fuel) {object : WifiNetworkObject w}
    (placed : Placed object.buffer) {batches : List (List Message)}
    (sound : ∀ messages ∈ batches, Batch E messages)
    {arrivals : List (ReceiveCall × Option (WifiNetworkObject w))}
    (stores : StoresEach E timeDiff fuel object arrivals
      (batches.map (frameFormat E).encodeAll)) :
    ∃ drains, deliver E timeDiff fuel object arrivals = some drains ∧
      (∀ drained ∈ drains, drained.result = .bufferEmpty) ∧
      drains.map Drained.messages = batches := by
  induction batches generalizing object arrivals with
  | nil =>
      cases arrivals with
      | nil => exact ⟨[], rfl, by simp, rfl⟩
      | cons _ _ => exact stores.elim
  | cons messages batches ih =>
      cases arrivals with
      | nil => exact stores.elim
      | cons arrival arrivals =>
          obtain ⟨call, senderObject⟩ := arrival
          obtain ⟨stored, onward⟩ := stores
          obtain ⟨nonempty, valid, short⟩ := sound messages List.mem_cons_self
          have some := encodeAll_ne_nil E nonempty valid
          have walks := receive_walks placed some short stored
          obtain ⟨holds, cursor⟩ := receive_holds placed some short stored
          have start :
              (receive timeDiff call object senderObject).receiverObject.position = 0 := by
            rw [WifiNetworkObject.position, cursor, receive_buffer, Nat.sub_self]
          have splits := RecordFormat.splits_encodeAll (F := frameFormat E) valid
          have few : messages.length < fuel := by
            have headers := length_encodeAll E valid
            rw [receivingBufferSize_eq] at short enough
            rw [offsetofDataPtr_eq] at headers enough
            omega
          rw [← List.drop_zero (l := (frameFormat E).encodeAll messages), ← start] at splits
          obtain ⟨receiverObject, drained, buffer⟩ :=
            walks.drain_splits E holds.window splits few
          have still : Placed receiverObject.buffer := by
            rw [buffer, receive_buffer]
            exact placed
          have others : ∀ batch ∈ batches, Batch E batch := by
            intro batch member
            exact sound batch (List.mem_cons_of_mem _ member)
          obtain ⟨drains, delivered, ended, found⟩ :=
            ih still others (onward ⟨messages, .bufferEmpty, receiverObject⟩ drained)
          refine ⟨⟨messages, .bufferEmpty, receiverObject⟩ :: drains, ?_, ?_, ?_⟩
          · simp only [deliver, drained, delivered, Option.map_some]
          · rintro other member
            rcases List.mem_cons.mp member with rfl | later
            · rfl
            · exact ended other later
          · rw [List.map_cons, found]

end WifiNetwork

end ARNetworkAL
