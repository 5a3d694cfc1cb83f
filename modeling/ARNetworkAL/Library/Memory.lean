import Mathlib.Data.List.Basic

/-!
# Cells, slices and block copies

A memory gives a value to every address, and a region of it is read out as the
list of its cells. Copying a block into a memory changes the region it is copied
to and nothing else; the lemmas here say what a slice is after a copy, by where
the slice lies: on the copied region, before it, or after it.
-/

set_option autoImplicit false

namespace Library

universe u

/-- The contents of every address. -/
abbrev Mem (α : Type u) := ℕ → α

namespace Mem

variable {α : Type u}

/-- The `count` cells from `address` on. -/
def slice (memory : Mem α) (address count : ℕ) : List α :=
  (List.range count).map fun index => memory (address + index)

/-- Copy `count` cells of `source`, from its address zero, to `address`. -/
def blit (memory : Mem α) (address count : ℕ) (source : Mem α) : Mem α := fun cell =>
  if address ≤ cell ∧ cell < address + count then source (cell - address) else memory cell

/-- The memory as seen from an address. -/
def view (memory : Mem α) (address : ℕ) : Mem α := fun index => memory (address + index)

/-- A list laid out from address zero; the default elsewhere. -/
def ofList [Inhabited α] (cells : List α) : Mem α := fun index => cells.getD index default

/-! ## Slices -/

@[simp] theorem length_slice (memory : Mem α) (address count : ℕ) :
    (memory.slice address count).length = count := by
  simp [slice]

@[simp] theorem slice_zero (memory : Mem α) (address : ℕ) : memory.slice address 0 = [] := rfl

theorem slice_add (memory : Mem α) (address first second : ℕ) :
    memory.slice address (first + second) =
      memory.slice address first ++ memory.slice (address + first) second := by
  simp [slice, List.range_add, Function.comp_def, Nat.add_assoc]

theorem slice_one (memory : Mem α) (address : ℕ) : memory.slice address 1 = [memory address] := by
  simp [slice, List.range_succ]

/-- Two memories that agree on a region have the same slice there. -/
theorem slice_congr {memory other : Mem α} {address count : ℕ}
    (agree : ∀ cell, address ≤ cell → cell < address + count → memory cell = other cell) :
    memory.slice address count = other.slice address count := by
  apply List.map_congr_left
  intro index within
  have bounded : index < count := List.mem_range.mp within
  exact agree _ (by omega) (by omega)

@[simp] theorem slice_view (memory : Mem α) (base address count : ℕ) :
    (memory.view base).slice address count = memory.slice (base + address) count := by
  simp [slice, view, Nat.add_assoc]

theorem slice_ofList [Inhabited α] (cells : List α) :
    (ofList cells).slice 0 cells.length = cells := by
  apply List.ext_getElem
  · simp
  · intro index _ within
    simp [slice, ofList, List.getElem?_eq_getElem within]

/-- Cutting a slice at `first` cells. -/
theorem take_slice (memory : Mem α) (address first count : ℕ) (within : first ≤ count) :
    (memory.slice address count).take first = memory.slice address first := by
  obtain ⟨rest, rfl⟩ := Nat.exists_eq_add_of_le within
  simp [slice_add, List.take_left']

theorem drop_slice (memory : Mem α) (address first count : ℕ) (within : first ≤ count) :
    (memory.slice address count).drop first =
      memory.slice (address + first) (count - first) := by
  obtain ⟨rest, rfl⟩ := Nat.exists_eq_add_of_le within
  simp [slice_add, List.drop_left']

/-! ## Slices after a copy -/

theorem blit_apply_of_lt (memory source : Mem α) {address count cell : ℕ}
    (before : cell < address) :
    memory.blit address count source cell = memory cell := by
  simp [blit, Nat.not_le_of_lt before]

/-- A copied region holds what was copied. -/
theorem slice_blit_self (memory source : Mem α) (address count : ℕ) :
    (memory.blit address count source).slice address count = source.slice 0 count := by
  apply List.map_congr_left
  intro index within
  have bounded : index < count := List.mem_range.mp within
  simp [blit, bounded]

/-- A region before the copied one is unchanged. -/
theorem slice_blit_before (memory source : Mem α) {address count start length : ℕ}
    (before : start + length ≤ address) :
    (memory.blit address count source).slice start length = memory.slice start length :=
  slice_congr fun _ _ upper => blit_apply_of_lt memory source (by omega)

/-- A copy that starts where a slice ends extends the slice by what is copied. -/
theorem slice_blit_append (memory source : Mem α) (address first count : ℕ) :
    (memory.blit (address + first) count source).slice address (first + count) =
      memory.slice address first ++ source.slice 0 count := by
  rw [slice_add, slice_blit_before memory source (Nat.le_refl _), slice_blit_self]

end Mem

end Library
