import ARNetworkAL.Mux.Object
import ARNetworkAL.Wifi.Datagram

/-!
# The two decoders of the wire format

WiFi and Mux read the same wire format by different tests: `PopFrame` of WiFi compares
addresses, that of Mux compares lengths. On a 64-bit target, with the WiFi buffer above
4 GiB, no address of the first test wraps: a size field is below the address of the end,
and the alignment of `malloc` keeps the end away from the top of the address space. The
two then take the same byte strings (`popFrame_agrees`), those whose header is complete
and counts no more bytes than there are.
-/

set_option autoImplicit false

namespace ARNetworkAL

open Library

namespace MuxNetwork

variable {β : Type} (E : Endianness)

/-- What `malloc` promises on a 64-bit target, where it aligns to sixteen bytes. -/
structure Placed64 (buffer : BitVec 64) : Prop extends WifiNetwork.Placed buffer where
  aligned64 : 16 ∣ buffer.toNat

/-- The buffer ends eight bytes before the address space at the latest. -/
theorem Placed64.top {buffer : BitVec 64} (placed : Placed64 buffer) :
    buffer.toNat + 65527 + 8 < 2 ^ 64 := by
  obtain ⟨multiple, position⟩ := placed.aligned64
  have high := placed.high
  rw [WifiNetwork.sendingBufferSize_eq] at high
  omega

theorem placed64_fourGiB : Placed64 WifiNetwork.fourGiB where
  toPlaced := WifiNetwork.placed_fourGiB
  aligned64 := by decide

/-! ## The WiFi decoder on lengths -/

/-- Above 4 GiB the first `PopFrame` of WiFi makes the tests of Mux. -/
theorem wifi_default_iff {object : WifiNetwork.WifiNetworkObject 64} {datagram : List UInt8}
    (holds : WifiNetwork.Holds object datagram) (start : object.currentFrame = object.buffer)
    (placed : Placed64 object.buffer) (above : 2 ^ 32 ≤ object.buffer.toNat) :
    (WifiNetwork.popFrame E object).result = .default ↔
      7 ≤ datagram.length ∧
        (WifiNetwork.sizeFieldAt E datagram 0).toNat ≤ datagram.length := by
  have finish := holds.finish
  have top := placed.top
  have sized := holds.sized
  rw [← holds.length, WifiNetwork.receivingBufferSize_eq] at sized
  have position : object.position = 0 := by
    rw [WifiNetwork.WifiNetworkObject.position, start, Nat.sub_self]
  have word : (WifiNetwork.sizeFieldAt E datagram 0).toNat < 2 ^ 32 := UInt32.toNat_lt _
  rw [WifiNetwork.popFrame_default_iff E holds.placed holds.sized]
  by_cases header : object.currentFrame.toNat + offsetofDataPtr ≤ object.finish
  · have size := congrArg Frame.size
      (holds.headerFrame E (Nat.le_of_eq (by rw [start])) header)
    simp only [position] at size
    rw [size]
    simp only [WifiNetwork.SizeRefused, finish, start, offsetofDataPtr_eq] at header ⊢
    omega
  · refine iff_of_false (fun both => header both.1) ?_
    rw [start, finish, offsetofDataPtr_eq] at header
    omega

/-- What it takes is the frame at the start of the datagram. -/
theorem wifi_frame {object : WifiNetwork.WifiNetworkObject 64} {datagram : List UInt8}
    (holds : WifiNetwork.Holds object datagram) (start : object.currentFrame = object.buffer)
    (taken : (WifiNetwork.popFrame E object).result = .default) :
    (WifiNetwork.popFrame E object).frame =
      { type := datagram.getD 0 0
        id := datagram.getD 1 0
        seq := datagram.getD 2 0
        size := WifiNetwork.sizeFieldAt E datagram 0
        dataPtr := Pointer.advance object.buffer 7 } := by
  have position : object.position = 0 := by
    rw [WifiNetwork.WifiNetworkObject.position, start, Nat.sub_self]
  obtain ⟨header, accepted⟩ :=
    (WifiNetwork.popFrame_default_iff E holds.placed holds.sized).mp taken
  rcases WifiNetwork.popFrame_cases E holds.placed holds.sized with
    ⟨short, _⟩ | ⟨_, refused, _⟩ | ⟨_, _, outcome⟩
  · omega
  · exact absurd refused accepted
  · rw [outcome]
    have frame := holds.headerFrame E (Nat.le_of_eq (by rw [start])) header
    rw [position, start] at frame
    exact frame

/-- It says what the datagram says there. -/
theorem wifi_content {object : WifiNetwork.WifiNetworkObject 64} {datagram : List UInt8}
    (holds : WifiNetwork.Holds object datagram) (start : object.currentFrame = object.buffer)
    (taken : (WifiNetwork.popFrame E object).result = .default)
    (inside : (WifiNetwork.sizeFieldAt E datagram 0).toNat ≤ datagram.length) :
    (WifiNetwork.popFrame E object).frame.content object.heap =
      WifiNetwork.messageAt E datagram 0 := by
  have finish := holds.finish
  have position : object.position = 0 := by
    rw [WifiNetwork.WifiNetworkObject.position, start, Nat.sub_self]
  have header := ((WifiNetwork.popFrame_default_iff E holds.placed holds.sized).mp taken).1
  have lower : object.buffer.toNat ≤ object.currentFrame.toNat := Nat.le_of_eq (by rw [start])
  have content := holds.content E lower header (by
    rw [position, WifiNetwork.WifiNetworkObject.remaining, finish, start]
    omega)
  have frame := holds.headerFrame E lower header
  rw [position] at content frame
  rw [wifi_frame E holds start taken, ← content, frame, start]
  rfl

/-- So does the frame that Mux takes. -/
theorem mux_content (data : BitVec 64) (datagram : List UInt8) (frame : Frame 64)
    (taken : (readFrame E ⟨data, datagram⟩ frame).1 = .default) :
    Cdata.content ⟨data, datagram⟩ (readFrame E ⟨data, datagram⟩ frame).2 =
      WifiNetwork.messageAt E datagram 0 := by
  rw [readFrame_of_default E taken]
  simp only [Cdata.content, Pointer.toNat_advance_sub data (show 7 < 2 ^ 64 by decide)]
  rfl

/-- What it does not take is a bad frame, unless the datagram is empty. -/
theorem wifi_badFrame {object : WifiNetwork.WifiNetworkObject 64} {datagram : List UInt8}
    (holds : WifiNetwork.Holds object datagram) (start : object.currentFrame = object.buffer)
    (nonempty : datagram ≠ []) (refused : (WifiNetwork.popFrame E object).result ≠ .default) :
    (WifiNetwork.popFrame E object).result = .badFrame := by
  have some := List.length_pos_iff.mpr nonempty
  have finish := holds.finish
  rcases WifiNetwork.popFrame_cases E holds.placed holds.sized with
    ⟨_, outcome⟩ | ⟨_, _, outcome⟩ | ⟨_, _, outcome⟩
  · rw [outcome, if_neg (by rw [start, finish]; omega)]
    rfl
  · rw [outcome]
    rfl
  · rw [outcome] at refused
    exact absurd rfl refused

/-! ## Agreement -/

/-- What the first call of `PopFrame` of each transport makes of a byte string: both take
the same frame, with the payload from its eighth byte on, or both refuse it. -/
structure Agree (buffer : BitVec 64) (cdata : Cdata 64) (heap : Mem UInt8)
    (wifi : WifiNetwork.PopOutcome 64) (mux : PopOutcome 64 β) : Prop where
  accepts : wifi.result = .default ↔ mux.result = .default
  type : wifi.result = .default → wifi.frame.type = mux.frame.type
  id : wifi.result = .default → wifi.frame.id = mux.frame.id
  seq : wifi.result = .default → wifi.frame.seq = mux.frame.seq
  size : wifi.result = .default → wifi.frame.size = mux.frame.size
  wifiPayload : wifi.result = .default → wifi.frame.dataPtr = Pointer.advance buffer 7
  muxPayload : wifi.result = .default → mux.frame.dataPtr = Pointer.advance cdata.data 7
  payload : wifi.result = .default → wifi.frame.content heap = cdata.content mux.frame
  wifiRefuses : wifi.result ≠ .default → wifi.result = .badFrame
  muxRefuses : wifi.result ≠ .default → mux.result = .badFrame

/-- **On a 64-bit target, with the WiFi buffer above 4 GiB, the first `PopFrame` of WiFi and
that of Mux agree on every byte string.** -/
theorem popFrame_agrees {timeDiff : WifiNetwork.TimeDiff} {call : WifiNetwork.ReceiveCall}
    {wifiObject : WifiNetwork.WifiNetworkObject 64}
    {sender : Option (WifiNetwork.WifiNetworkObject 64)} {datagram : List UInt8}
    (placed : Placed64 wifiObject.buffer) (above : 2 ^ 32 ≤ wifiObject.buffer.toNat)
    (nonempty : datagram ≠ []) (short : datagram.length ≤ WifiNetwork.receivingBufferSize)
    (stores : WifiNetwork.Stores timeDiff call wifiObject sender datagram)
    {getCdata : β → Option (Cdata 64)} {buffer : β} {data : BitVec 64}
    (read : getCdata buffer = some ⟨data, datagram⟩) {muxObject : MuxNetworkObject 64 β}
    (queue : muxObject.rxqueue ≠ 0) (frame : Frame 64) :
    let stored := (WifiNetwork.receive timeDiff call wifiObject sender).receiverObject
    let received := (receive (.buffer buffer) muxObject).receiverObject
    Agree wifiObject.buffer ⟨data, datagram⟩ stored.heap (WifiNetwork.popFrame E stored)
      (popFrame E getCdata received frame) := by
  intro stored received
  obtain ⟨holds, cursor⟩ := WifiNetwork.receive_holds placed.toPlaced nonempty short stores
  have buffer' : stored.buffer = wifiObject.buffer := WifiNetwork.receive_buffer _ _ _ _
  have start : stored.currentFrame = stored.buffer := by rw [cursor, buffer']
  rw [← buffer'] at placed above
  have accepts : (WifiNetwork.popFrame E stored).result = .default ↔
      (readFrame E ⟨data, datagram⟩ frame).1 = .default := by
    rw [wifi_default_iff E holds start placed above, readFrame_default_iff]
    rfl
  have mux : popFrame E getCdata received frame = _ := popFrame_received E getCdata frame queue read
  rw [mux]
  have frames : (WifiNetwork.popFrame E stored).result = .default →
      (readFrame E ⟨data, datagram⟩ frame).2 =
        { (WifiNetwork.popFrame E stored).frame with dataPtr := Pointer.advance data 7 } := by
    intro taken
    rw [wifi_frame E holds start taken, readFrame_of_default E (accepts.mp taken)]
    rfl
  refine ⟨accepts, ?_, ?_, ?_, ?_, ?_, ?_, ?_, ?_, ?_⟩
  · intro taken
    rw [frames taken]
  · intro taken
    rw [frames taken]
  · intro taken
    rw [frames taken]
  · intro taken
    rw [frames taken]
  · intro taken
    rw [wifi_frame E holds start taken, ← buffer']
  · intro taken
    rw [frames taken]
  · intro taken
    have inside := ((wifi_default_iff E holds start placed above).mp taken).2
    rw [mux_content E data datagram frame (accepts.mp taken)]
    exact wifi_content E holds start taken inside
  · intro refused
    exact wifi_badFrame E holds start nonempty refused
  · intro refused
    exact readFrame_of_ne_default E (accepts.not.mp refused)

/-- A header with the size field zero: both take it. -/
theorem popFrame_agrees_zero :
    Agree WifiNetwork.fourGiB ⟨16, [1, 2, 3, 0, 0, 0, 0]⟩
      (WifiNetwork.storedAtFourGiB [1, 2, 3, 0, 0, 0, 0]).heap
      (WifiNetwork.popFrame Endianness.littleEndianHost
        (WifiNetwork.storedAtFourGiB [1, 2, 3, 0, 0, 0, 0]))
      (popFrame Endianness.littleEndianHost some
        (receive (.buffer ⟨16, [1, 2, 3, 0, 0, 0, 0]⟩) (newObject 1 2)).receiverObject
        (Frame.reset 64)) :=
  popFrame_agrees Endianness.littleEndianHost placed64_fourGiB (by decide) (List.cons_ne_nil _ _)
    (by decide) (WifiNetwork.stores_arrival [1, 2, 3, 0, 0, 0, 0])
    (show some (⟨16, [1, 2, 3, 0, 0, 0, 0]⟩ : Cdata 64) = some ⟨16, [1, 2, 3, 0, 0, 0, 0]⟩ from rfl)
    (show (newObject 1 2 : MuxNetworkObject 64 (Cdata 64)).rxqueue ≠ 0 by decide) (Frame.reset 64)

end MuxNetwork

end ARNetworkAL
