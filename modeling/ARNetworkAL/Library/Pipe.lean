import Mathlib.Data.List.Basic
import Mathlib.Data.Nat.Notation

/-!
# Pipes

A pipe holds what was written to it and not read yet, up to its capacity. A write waits while
the pipe is full (`write_eq_none_iff`); a read takes as much as it asks for, or what there is.
-/

set_option autoImplicit false

namespace Library

/-- The content of a pipe fits in it. -/
structure Pipe (α : Type*) (capacity : ℕ) where
  content : List α
  within : content.length ≤ capacity

namespace Pipe

variable {α : Type*} {capacity : ℕ}

/-- Nothing was written yet. -/
def empty (α : Type*) (capacity : ℕ) : Pipe α capacity := ⟨[], Nat.zero_le capacity⟩

/-- The pipe with one more cell. It is none while the pipe is full. -/
def write (pipe : Pipe α capacity) (cell : α) : Option (Pipe α capacity) :=
  if room : pipe.content.length < capacity then
    some ⟨pipe.content ++ [cell], by rw [List.length_append]; exact room⟩
  else none

/-- The pipe without the first cells. -/
def read (count : ℕ) (pipe : Pipe α capacity) : Pipe α capacity :=
  ⟨pipe.content.drop count, by
    rw [List.length_drop]
    exact Nat.le_trans (Nat.sub_le _ _) pipe.within⟩

/-- There is something to read. -/
def readable (pipe : Pipe α capacity) : Bool := !pipe.content.isEmpty

theorem readable_iff {pipe : Pipe α capacity} :
    pipe.readable = true ↔ 0 < pipe.content.length := by
  rw [readable, Bool.not_eq_true', List.isEmpty_eq_false_iff, List.length_pos_iff]

theorem write_eq_none_iff {pipe : Pipe α capacity} {cell : α} :
    pipe.write cell = none ↔ pipe.content.length = capacity := by
  have within := pipe.within
  rw [write]
  split
  · exact iff_of_false (Option.some_ne_none _) (by omega)
  · exact iff_of_true rfl (by omega)

theorem length_of_write {pipe after : Pipe α capacity} {cell : α}
    (written : pipe.write cell = some after) :
    after.content.length = pipe.content.length + 1 := by
  rw [write] at written
  split at written
  · cases written
    rw [List.length_append, List.length_singleton]
  · cases written

@[simp] theorem length_read (count : ℕ) (pipe : Pipe α capacity) :
    (pipe.read count).content.length = pipe.content.length - count :=
  List.length_drop

end Pipe

end Library
