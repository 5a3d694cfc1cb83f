import Mathlib.Algebra.Group.Nat.Defs
import Mathlib.Data.List.Basic

/-!
# The bytes of a 32-bit word

A machine lays a 32-bit word out in memory as four bytes, least significant
first or most significant first. Either layout is a bijection between words and
lists of four bytes (`ByteOrder.value_bytes`, `ByteOrder.bytes_value`).
-/

set_option autoImplicit false

namespace Library

/-- The order in which a machine stores the bytes of a word. -/
inductive ByteOrder where
  | little
  | big
  deriving DecidableEq, Repr

/-- The four bytes of a word, least significant first. -/
def littleBytes (word : UInt32) : List UInt8 :=
  [UInt8.ofNat word.toNat, UInt8.ofNat (word.toNat / 2 ^ 8), UInt8.ofNat (word.toNat / 2 ^ 16),
    UInt8.ofNat (word.toNat / 2 ^ 24)]

/-- The word whose bytes are given, least significant first. -/
def littleValue (bytes : List UInt8) : UInt32 :=
  UInt32.ofNat (bytes.foldr (fun byte value => byte.toNat + 2 ^ 8 * value) 0)

theorem littleValue_littleBytes (word : UInt32) : littleValue (littleBytes word) = word := by
  have bounded : word.toNat < 2 ^ 32 := word.toNat_lt
  apply UInt32.toNat_inj.mp
  simp only [littleValue, littleBytes, List.foldr, UInt8.toNat_ofNat', UInt32.toNat_ofNat']
  omega

theorem littleBytes_littleValue (b₀ b₁ b₂ b₃ : UInt8) :
    littleBytes (littleValue [b₀, b₁, b₂, b₃]) = [b₀, b₁, b₂, b₃] := by
  have h₀ : b₀.toNat < 2 ^ 8 := b₀.toNat_lt
  have h₁ : b₁.toNat < 2 ^ 8 := b₁.toNat_lt
  have h₂ : b₂.toNat < 2 ^ 8 := b₂.toNat_lt
  have h₃ : b₃.toNat < 2 ^ 8 := b₃.toNat_lt
  simp only [littleBytes, littleValue, List.foldr, UInt32.toNat_ofNat', List.cons.injEq,
    ← UInt8.toNat_inj, UInt8.toNat_ofNat', and_true]
  omega

namespace ByteOrder

/-- The bytes of a word as the machine stores them. -/
def bytes : ByteOrder → UInt32 → List UInt8
  | little, word => littleBytes word
  | big, word => (littleBytes word).reverse

/-- The word a machine reads from its stored bytes. -/
def value : ByteOrder → List UInt8 → UInt32
  | little, stored => littleValue stored
  | big, stored => littleValue stored.reverse

@[simp] theorem length_bytes (order : ByteOrder) (word : UInt32) :
    (order.bytes word).length = 4 := by
  cases order <;> rfl

/-- Reading back a stored word. -/
@[simp] theorem value_bytes (order : ByteOrder) (word : UInt32) :
    order.value (order.bytes word) = word := by
  cases order with
  | little => exact littleValue_littleBytes word
  | big => simp only [value, bytes, List.reverse_reverse, littleValue_littleBytes]

/-- Storing a word that was read from four bytes. -/
theorem bytes_value (order : ByteOrder) {stored : List UInt8} (four : stored.length = 4) :
    order.bytes (order.value stored) = stored := by
  match stored, four with
  | [b₀, b₁, b₂, b₃], _ =>
    cases order with
    | little => exact littleBytes_littleValue b₀ b₁ b₂ b₃
    | big =>
      have reversed := littleBytes_littleValue b₃ b₂ b₁ b₀
      simp only [value, bytes, List.reverse_cons, List.reverse_nil, List.nil_append,
        List.cons_append, reversed]

end ByteOrder

end Library
