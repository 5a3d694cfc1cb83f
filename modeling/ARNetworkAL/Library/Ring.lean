import Mathlib.Data.List.Rotate

/-!
# Rings of slots

A ring has a fixed number of slots and the index of the slot that was written last. A push
advances the index, from the last slot back to the first, and writes there. So a ring
holds the values that were pushed last, as many as it has slots, and `Ring.contents`
lists them with the newest first. A push puts its value in front and drops the oldest
(`Ring.contents_push`). That the contents are the newest part of a history is kept when
both are extended (`Ring.recent_push`).
-/

set_option autoImplicit false

namespace Library

universe u

/-- Slots, and the index of the one that was written last. -/
structure Ring (α : Type u) (capacity : ℕ) where
  slots : List α
  index : ℕ
  length_slots : slots.length = capacity
  index_lt : index < capacity

namespace Ring

variable {α : Type u} {capacity : ℕ}

/-- Every slot holds the same value. -/
def fill (positive : 0 < capacity) (value : α) : Ring α capacity where
  slots := List.replicate capacity value
  index := 0
  length_slots := List.length_replicate
  index_lt := positive

/-- Write the slot after the one that was written last. -/
def push (ring : Ring α capacity) (value : α) : Ring α capacity where
  slots := ring.slots.set ((ring.index + 1) % capacity) value
  index := (ring.index + 1) % capacity
  length_slots := by rw [List.length_set, ring.length_slots]
  index_lt := Nat.mod_lt _ (Nat.zero_lt_of_lt ring.index_lt)

/-- The values in the slots, the newest first. -/
def contents (ring : Ring α capacity) : List α := (ring.slots.rotate (ring.index + 1)).reverse

theorem contents_perm (ring : Ring α capacity) : ring.contents.Perm ring.slots :=
  (List.reverse_perm _).trans (List.rotate_perm _ _)

theorem contents_fill (positive : 0 < capacity) (value : α) :
    (fill positive value).contents = List.replicate capacity value := by
  simp [contents, fill]

/-- Writing a slot of a list makes it the newest of the list seen from there. -/
theorem rotate_set {slots : List α} {slot : ℕ} (within : slot < slots.length) (value : α) :
    (slots.set slot value).rotate (slot + 1) = (slots.rotate slot).tail ++ [value] := by
  have before : (slots.set slot value).take (slot + 1) = slots.take slot ++ [value] := by
    rw [List.take_succ_eq_append_getElem (by simpa using within), List.getElem_set_self,
      List.take_set_of_le (Nat.le_refl slot)]
  have after : (slots.rotate slot).tail = slots.drop (slot + 1) ++ slots.take slot := by
    rw [List.rotate_eq_drop_append_take (Nat.le_of_lt within), List.tail_append_of_ne_nil,
      List.tail_drop]
    simpa using within
  rw [List.rotate_eq_drop_append_take (by rw [List.length_set]; exact within), before, after,
    List.drop_set_of_lt (Nat.lt_succ_self slot), List.append_assoc]

/-- **A push puts its value in front and drops the oldest.** -/
theorem contents_push (ring : Ring α capacity) (value : α) :
    (ring.push value).contents = value :: ring.contents.dropLast := by
  have within : (ring.index + 1) % capacity < ring.slots.length := by
    rw [ring.length_slots]
    exact Nat.mod_lt _ (Nat.zero_lt_of_lt ring.index_lt)
  have turned : ring.slots.rotate ((ring.index + 1) % capacity) =
      ring.slots.rotate (ring.index + 1) := by
    rw [← List.rotate_mod ring.slots (ring.index + 1), ring.length_slots]
  rw [contents, push, rotate_set within, turned, List.reverse_append, contents,
    List.dropLast_reverse]
  rfl

/-- **A ring that holds the newest part of a history holds that of the history extended.** -/
theorem recent_push {ring : Ring α capacity} {history : List α}
    (recent : ring.contents = history.take capacity) (value : α) :
    (ring.push value).contents = (value :: history).take capacity := by
  obtain ⟨fewer, rfl⟩ := Nat.exists_eq_succ_of_ne_zero (Nat.ne_zero_of_lt ring.index_lt)
  have length : ring.contents.length = fewer + 1 := by
    rw [ring.contents_perm.length_eq, ring.length_slots]
  rw [contents_push, List.take_succ_cons, List.dropLast_eq_take, length, recent, List.take_take]
  simp

end Ring

end Library
