import Mathlib.Data.BitVec
import Mathlib.Tactic.Ring

/-!
# Addresses of fixed width

Pointers are bit vectors, so moving one is arithmetic modulo `2 ^ w`. A move that
stays inside the address space is the same move on natural numbers
(`Pointer.toNat_advance`, `Pointer.toNat_retreat`); a move back past zero
comes out at the top of the address space (`Pointer.toNat_retreat_wraps`).

A `Region` is a block of addresses that a program touches.
-/

set_option autoImplicit false

namespace Library

variable {w : ℕ}

namespace Pointer

/-- The pointer `count` cells further. -/
def advance (pointer : BitVec w) (count : ℕ) : BitVec w := pointer + BitVec.ofNat w count

/-- The pointer `count` cells back. -/
def retreat (pointer : BitVec w) (count : ℕ) : BitVec w := pointer - BitVec.ofNat w count

theorem toNat_advance_mod (pointer : BitVec w) (count : ℕ) :
    (advance pointer count).toNat = (pointer.toNat + count) % 2 ^ w := by
  simp [advance, BitVec.toNat_add]

theorem toNat_advance {pointer : BitVec w} {count : ℕ} (room : pointer.toNat + count < 2 ^ w) :
    (advance pointer count).toNat = pointer.toNat + count := by
  rw [toNat_advance_mod, Nat.mod_eq_of_lt room]

/-- The distance that a pointer was moved. -/
theorem toNat_advance_sub (pointer : BitVec w) {count : ℕ} (bounded : count < 2 ^ w) :
    (advance pointer count - pointer).toNat = count := by
  rw [advance, BitVec.add_comm, BitVec.add_sub_cancel, BitVec.toNat_ofNat, Nat.mod_eq_of_lt bounded]

theorem toNat_retreat {pointer : BitVec w} {count : ℕ} (room : count ≤ pointer.toNat) :
    (retreat pointer count).toNat = pointer.toNat - count := by
  have bounded : pointer.toNat < 2 ^ w := pointer.isLt
  have counted : (BitVec.ofNat w count).toNat = count := by
    rw [BitVec.toNat_ofNat, Nat.mod_eq_of_lt (by omega)]
  rw [retreat, BitVec.toNat_sub_of_le (by rw [BitVec.le_def, counted]; exact room), counted]

/-- Going back past zero wraps to the top of the address space. -/
theorem toNat_retreat_wraps {pointer : BitVec w} {count : ℕ} (past : pointer.toNat < count)
    (bounded : count < 2 ^ w) :
    (retreat pointer count).toNat = pointer.toNat + 2 ^ w - count := by
  have counted : (BitVec.ofNat w count).toNat = count := by
    rw [BitVec.toNat_ofNat, Nat.mod_eq_of_lt bounded]
  rw [retreat, BitVec.toNat_sub, counted, Nat.mod_eq_of_lt (by omega)]
  omega

/-- Going back by a difference that is negative as a number goes forward. -/
theorem retreat_sub_of_lt {pointer : BitVec w} {first second : ℕ} (negative : first < second) :
    pointer - (BitVec.ofNat w first - BitVec.ofNat w second) =
      advance pointer (second - first) := by
  have split : second = (second - first) + first := by omega
  have added : BitVec.ofNat w second = BitVec.ofNat w (second - first) + BitVec.ofNat w first := by
    rw [← BitVec.ofNat_add, ← split]
  rw [advance, added]
  ring

/-- Going back by a difference that is a number goes back by it. -/
theorem retreat_sub_of_le {pointer : BitVec w} {first second : ℕ} (le : second ≤ first) :
    pointer - (BitVec.ofNat w first - BitVec.ofNat w second) =
      retreat pointer (first - second) := by
  have added : BitVec.ofNat w first = BitVec.ofNat w (first - second) + BitVec.ofNat w second := by
    rw [← BitVec.ofNat_add, Nat.sub_add_cancel le]
  rw [retreat, added, BitVec.add_sub_cancel]

theorem advance_advance (pointer : BitVec w) (first second : ℕ) :
    advance (advance pointer first) second = advance pointer (first + second) := by
  rw [advance, advance, advance, BitVec.add_assoc, ← BitVec.ofNat_add]

theorem retreat_advance (pointer : BitVec w) {first second : ℕ} (le : second ≤ first) :
    retreat (advance pointer first) second = advance pointer (first - second) := by
  have added : BitVec.ofNat w first = BitVec.ofNat w (first - second) + BitVec.ofNat w second := by
    rw [← BitVec.ofNat_add, Nat.sub_add_cancel le]
  rw [retreat, advance, advance, added, ← BitVec.add_assoc, BitVec.add_sub_cancel]

/-- Going forward again by a part of the way back. -/
theorem advance_retreat (pointer : BitVec w) {first second : ℕ} (le : second ≤ first) :
    advance (retreat pointer first) second = retreat pointer (first - second) := by
  have added : BitVec.ofNat w first = BitVec.ofNat w (first - second) + BitVec.ofNat w second := by
    rw [← BitVec.ofNat_add, Nat.sub_add_cancel le]
  rw [advance, retreat, retreat, added]
  ring

/-- Going back further than a pointer was moved. -/
theorem retreat_advance_of_le (pointer : BitVec w) {first second : ℕ} (le : first ≤ second) :
    retreat (advance pointer first) second = retreat pointer (second - first) := by
  have added : BitVec.ofNat w second = BitVec.ofNat w (second - first) + BitVec.ofNat w first := by
    rw [← BitVec.ofNat_add, Nat.sub_add_cancel le]
  rw [retreat, retreat, advance, added]
  ring

end Pointer

/-- A block of cells: where it starts and how many there are. -/
structure Region where
  address : ℕ
  count : ℕ
  deriving DecidableEq, Repr

/-- The block lies between two addresses, the second excluded. -/
def Region.Within (region : Region) (lower upper : ℕ) : Prop :=
  lower ≤ region.address ∧ region.address + region.count ≤ upper

instance (region : Region) (lower upper : ℕ) : Decidable (region.Within lower upper) :=
  inferInstanceAs (Decidable (_ ∧ _))

theorem Region.Within.mono {region : Region} {lower upper lower' upper' : ℕ}
    (within : region.Within lower upper) (below : lower' ≤ lower) (above : upper ≤ upper') :
    region.Within lower' upper' :=
  ⟨Nat.le_trans below within.1, Nat.le_trans within.2 above⟩

end Library
