import Mathlib.Data.Nat.Notation
import Mathlib.Logic.Basic

/-!
# Counting semaphores

A semaphore is a number of units. `wait` takes one and is possible above zero only; `post`
gives one back.

Two users that share a semaphore of one unit exclude each other: the unit is in the semaphore
or with exactly one of them (`Lock`).
-/

set_option autoImplicit false

namespace Library

namespace Semaphore

/-- Taking a unit. -/
def wait : ℕ → Option ℕ
  | 0 => none
  | count + 1 => some count

/-- Giving a unit back. -/
def post (count : ℕ) : ℕ := count + 1

theorem wait_eq_none_iff {count : ℕ} : wait count = none ↔ count = 0 := by
  cases count with
  | zero => exact iff_of_true rfl rfl
  | succ rest => exact iff_of_false (Option.some_ne_none _) (Nat.succ_ne_zero rest)

theorem wait_eq_some_iff {count rest : ℕ} : wait count = some rest ↔ count = post rest := by
  cases count with
  | zero => exact iff_of_false (Option.some_ne_none _).symm (Nat.succ_ne_zero rest).symm
  | succ others => rw [wait, post, Option.some.injEq, Nat.add_right_cancel_iff]

/-! ## One unit and two users -/

/-- The unit of a semaphore is there, or with the first user, or with the second. -/
def Lock (count : ℕ) (first second : Bool) : Prop := count + first.toNat + second.toNat = 1

namespace Lock

variable {count rest : ℕ} {first second : Bool}

/-- Nobody has taken the unit yet. -/
theorem free : Lock 1 false false := rfl

theorem symm (lock : Lock count first second) : Lock count second first := by
  rw [Lock] at lock ⊢
  omega

/-- Not both users have the unit. -/
theorem apart (lock : Lock count first second) (held : first = true) : second = false := by
  subst held
  cases second with
  | false => rfl
  | true =>
      simp only [Lock, Bool.toNat_true] at lock
      omega

/-- A user that waits with success has the unit. -/
theorem wait (lock : Lock count first second) (taken : Semaphore.wait count = some rest) :
    Lock rest true second := by
  rw [wait_eq_some_iff] at taken
  subst taken
  cases first with
  | false =>
      rw [Lock, post, Bool.toNat_false] at lock
      rw [Lock, Bool.toNat_true]
      exact lock
  | true =>
      rw [Lock, post, Bool.toNat_true] at lock
      omega

/-- A user that posts has had it. -/
theorem post (lock : Lock count true second) : Lock (Semaphore.post count) false second := by
  rw [Lock, Bool.toNat_true] at lock
  rw [Lock, Semaphore.post, Bool.toNat_false]
  exact lock

/-- **Who does not have the unit waits exactly while the other has it.** -/
theorem waits_iff (lock : Lock count false second) :
    Semaphore.wait count = none ↔ second = true := by
  rw [wait_eq_none_iff]
  cases second with
  | false =>
      simp only [Lock, Bool.toNat_false] at lock
      exact iff_of_false (by omega) Bool.false_ne_true
  | true =>
      simp only [Lock, Bool.toNat_false, Bool.toNat_true] at lock
      exact iff_of_true (by omega) rfl

end Lock

end Semaphore

end Library
