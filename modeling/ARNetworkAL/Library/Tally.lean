import Mathlib.Algebra.Ring.Nat

/-!
# A counter that is added to and emptied

One thread adds to a counter by a load and a store. Another one empties it: it copies the value
to a list and then clears the counter. Nothing keeps the accesses of the two apart.

What is stored between a copy and its clear is in no value that was copied, and gone. What was
loaded before a clear and is stored after it was copied already, and comes back. Apart from
these two the values that were copied and the counter make up what was added (`Sound.balance`),
and each access that brings one of them about is known (`inexact_store`, `inexact_clear`).
-/

set_option autoImplicit false

namespace Library

/-- An addition between its load and its store. `emptied` says whether the counter was cleared
since. -/
structure Addition where
  loaded : ℕ
  amount : ℕ
  emptied : Bool
  deriving DecidableEq, Repr

/-- The counter, the addition that is under way, the value that was copied and is not cleared
yet, and all values that were copied, the latest first. The rest is what was added, what is
gone, and what came back. -/
structure Tally where
  current : ℕ
  pending : Option Addition
  copied : Option ℕ
  closed : List ℕ
  added : ℕ
  lost : ℕ
  again : ℕ
  deriving DecidableEq, Repr

namespace Tally

/-- Nothing was added. -/
def fresh : Tally := ⟨0, none, none, [], 0, 0, 0⟩

/-- An addition loads the counter. -/
def load (amount : ℕ) (tally : Tally) : Tally :=
  { tally with pending := some ⟨tally.current, amount, false⟩ }

/-- The addition that is under way stores the counter. -/
def store (tally : Tally) : Tally :=
  match tally.pending with
  | none => tally
  | some addition =>
      { tally with
        current := addition.loaded + addition.amount
        pending := none
        added := tally.added + addition.amount
        again := tally.again + if addition.emptied then addition.loaded else 0 }

/-- The counter is copied. -/
def copy (tally : Tally) : Tally :=
  { tally with
    copied := some tally.current
    closed := tally.current :: tally.closed }

/-- The counter is cleared after it was copied. -/
def clear (tally : Tally) : Tally :=
  match tally.copied with
  | none => tally
  | some value =>
      { tally with
        current := 0
        pending := tally.pending.map fun addition => { addition with emptied := true }
        copied := none
        lost := tally.lost + (tally.current - value) }

/-- **What was copied, what is in the counter and what is gone make up what was added and what
came back.** A value that is not cleared yet is there twice. -/
structure Sound (tally : Tally) : Prop where
  pending : ∀ addition ∈ tally.pending,
    tally.current = if addition.emptied then 0 else addition.loaded
  copied : ∀ value ∈ tally.copied, value ≤ tally.current
  balance : tally.closed.sum + tally.current + tally.lost =
    tally.added + tally.again + tally.copied.getD 0

/-- A store would bring back what was copied. -/
def Revives (tally : Tally) : Prop :=
  ∃ addition, tally.pending = some addition ∧ addition.emptied = true ∧ addition.loaded ≠ 0

/-- A clear would drop what was stored since the copy. -/
def Drops (tally : Tally) : Prop := ∃ value, tally.copied = some value ∧ value < tally.current

/-- Something is gone or came back. -/
def Inexact (tally : Tally) : Prop := tally.lost ≠ 0 ∨ tally.again ≠ 0

section

variable {tally : Tally}

theorem sound_fresh : fresh.Sound where
  pending := fun _ absent => absurd absent (Option.not_mem_none _)
  copied := fun _ absent => absurd absent (Option.not_mem_none _)
  balance := rfl

theorem Sound.load (sound : tally.Sound) (amount : ℕ) : (tally.load amount).Sound where
  pending := by
    rintro _ ⟨⟩
    rfl
  copied := sound.copied
  balance := sound.balance

theorem Sound.store (sound : tally.Sound) : tally.store.Sound := by
  obtain ⟨pending, copied, balance⟩ := sound
  rw [Tally.store]
  split
  · exact ⟨pending, copied, balance⟩
  · rename_i addition under
    have here := pending addition under
    refine ⟨fun _ absent => absurd absent (Option.not_mem_none _), ?_, ?_⟩
    · intro value there
      have before := copied value there
      split at here
      · simp only
        omega
      · simp only
        omega
    · simp only
      split at here
      · rename_i emptied
        rw [if_pos emptied]
        omega
      · rename_i whole
        rw [if_neg whole]
        omega

theorem Sound.copy (sound : tally.Sound) (idle : tally.copied = none) : tally.copy.Sound where
  pending := sound.pending
  copied := by
    rintro _ ⟨⟩
    exact Nat.le_refl _
  balance := by
    have balance := sound.balance
    rw [idle, Option.getD_none] at balance
    simp only [Tally.copy, List.sum_cons, Option.getD_some]
    omega

theorem Sound.clear (sound : tally.Sound) : tally.clear.Sound := by
  obtain ⟨pending, copied, balance⟩ := sound
  rw [Tally.clear]
  split
  · exact ⟨pending, copied, balance⟩
  · rename_i value there
    have before := copied value there
    rw [there, Option.getD_some] at balance
    refine ⟨?_, fun _ absent => absurd absent (Option.not_mem_none _), ?_⟩
    · intro addition under
      obtain ⟨_, -, rfl⟩ := Option.map_eq_some_iff.mp under
      rfl
    · simp only [Option.getD_none]
      omega

/-- **A store makes a tally inexact exactly if it brings something back.** -/
theorem inexact_store : tally.store.Inexact ↔ tally.Inexact ∨ tally.Revives := by
  rw [store, Revives]
  split
  · rename_i idle
    simp [idle]
  · rename_i addition under
    cases emptied : addition.emptied with
    | false => simp [Inexact, under, emptied]
    | true =>
        simp only [Inexact, under, emptied, if_true, Option.some.injEq, exists_eq_left', true_and]
        omega

/-- **A clear makes a tally inexact exactly if it drops something.** -/
theorem inexact_clear : tally.clear.Inexact ↔ tally.Inexact ∨ tally.Drops := by
  rw [clear, Drops]
  split
  · rename_i idle
    simp [idle]
  · rename_i value there
    simp only [Inexact, there, Option.some.injEq, exists_eq_left']
    omega

end

end Tally

end Library
