import Mathlib.Data.List.Basic

/-!
# Streams of self-delimiting records

A record format strips one record from the head of a stream. When the decoder
undoes the encoder in front of anything, the concatenation of encoded records
splits back into the same records (`RecordFormat.splits_encodeAll`). When the
encoder also undoes the decoder, whatever a stream splits into encodes to the
part of the stream that was split (`RecordFormat.Splits.encodeAll_append`).
-/

set_option autoImplicit false

namespace Library

universe u v

/-- An encoder of records over an alphabet, and the decoder of the first record
of a stream. Records that are not `Valid` may have no faithful encoding. -/
structure RecordFormat (α : Type u) (μ : Type v) where
  Valid : μ → Prop
  encode : μ → List α
  decode : List α → Option (μ × List α)
  decode_encode : ∀ record rest, Valid record →
    decode (encode record ++ rest) = some (record, rest)
  encode_decode : ∀ stream record rest, decode stream = some (record, rest) →
    Valid record ∧ stream = encode record ++ rest
  decode_nil : decode [] = none

namespace RecordFormat

variable {α : Type u} {μ : Type v} (F : RecordFormat α μ)

/-- The encodings of several records, one after the other. -/
def encodeAll (records : List μ) : List α := records.flatMap F.encode

@[simp] theorem encodeAll_nil : F.encodeAll [] = [] := rfl

@[simp] theorem encodeAll_cons (record : μ) (records : List μ) :
    F.encodeAll (record :: records) = F.encode record ++ F.encodeAll records := rfl

@[simp] theorem encodeAll_append (first second : List μ) :
    F.encodeAll (first ++ second) = F.encodeAll first ++ F.encodeAll second := by
  simp [encodeAll]

/-- The records at the head of a stream, as many as there is fuel for. -/
def decodeAll : ℕ → List α → List μ
  | 0, _ => []
  | fuel + 1, stream =>
      match F.decode stream with
      | none => []
      | some (record, rest) => record :: decodeAll fuel rest

@[simp] theorem decodeAll_nil (fuel : ℕ) : F.decodeAll fuel [] = [] := by
  cases fuel with
  | zero => rfl
  | succ fuel => simp only [decodeAll, F.decode_nil]

/-- Decoding undoes encoding. -/
theorem decodeAll_encodeAll {records : List μ} (valid : ∀ record ∈ records, F.Valid record)
    {fuel : ℕ} (enough : records.length ≤ fuel) :
    F.decodeAll fuel (F.encodeAll records) = records := by
  induction records generalizing fuel with
  | nil => exact F.decodeAll_nil fuel
  | cons record records ih =>
      obtain ⟨first, others⟩ := List.forall_mem_cons.mp valid
      cases fuel with
      | zero => exact absurd enough (Nat.not_succ_le_zero _)
      | succ fuel =>
          rw [encodeAll_cons, decodeAll, F.decode_encode record _ first]
          simp only [ih others (Nat.le_of_succ_le_succ enough)]

/-- Decoding a stream until the decoder refuses: the records found and what is left. -/
inductive Splits : List α → List μ → List α → Prop where
  | stop {stream : List α} : F.decode stream = none → Splits stream [] stream
  | next {stream rest left : List α} {record : μ} {records : List μ} :
      F.decode stream = some (record, rest) → Splits rest records left →
        Splits stream (record :: records) left

variable {F}

/-- **Encoded records split back into themselves, leaving nothing.** -/
theorem splits_encodeAll {records : List μ} (valid : ∀ record ∈ records, F.Valid record) :
    F.Splits (F.encodeAll records) records [] := by
  induction records with
  | nil => exact .stop F.decode_nil
  | cons record records ih =>
      have head := F.decode_encode record (F.encodeAll records) (valid record (by simp))
      refine .next head (ih ?_)
      intro other member
      exact valid other (List.mem_cons_of_mem _ member)

/-- Every record a stream splits into is valid. -/
theorem Splits.valid {stream left : List α} {records : List μ}
    (splits : F.Splits stream records left) : ∀ record ∈ records, F.Valid record := by
  induction splits with
  | stop => simp
  | next accepted _ ih =>
      intro record member
      rcases List.mem_cons.mp member with rfl | later
      · exact (F.encode_decode _ _ _ accepted).1
      · exact ih record later

/-- **The records a stream splits into encode to what was split off.** -/
theorem Splits.encodeAll_append {stream left : List α} {records : List μ}
    (splits : F.Splits stream records left) : stream = F.encodeAll records ++ left := by
  induction splits with
  | stop => rfl
  | next accepted _ ih =>
      rw [encodeAll_cons, List.append_assoc, ← ih]
      exact (F.encode_decode _ _ _ accepted).2

end RecordFormat

end Library
