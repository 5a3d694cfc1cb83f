import ARNetworkAL.Library.Run
import Mathlib.Data.Nat.Notation

/-!
# A hook that is taken back

A source calls a hook as long as it is registered. A call begins, and later it uses what belongs
to the hook, once or more. Another party takes the hook back and disposes of what belongs to it.

That ends no call that has begun. The calls that are under way when the hook is disposed of use
what is gone once they go on, and no others do (`Hook.misused_of_run`).
-/

set_option autoImplicit false

namespace Library

/-- Whether the hook is registered, whether what belongs to it is gone, the calls that have
begun and are still to use it, and those that used it when it was gone. -/
structure Hook where
  registered : Bool
  disposed : Bool
  underWay : ℕ
  misused : ℕ
  deriving DecidableEq, Repr

namespace Hook

/-- What happens to a hook. -/
inductive Move where
  | register
  | begin
  | use
  | retract
  | dispose
  | stay
  deriving DecidableEq, Repr

/-- The moves of a hook. A source that finds it not registered ignores it. -/
inductive Step (hook : Hook) : Move → Hook → Prop where
  | register (kept : hook.disposed = false) : Step hook .register { hook with registered := true }
  | begin (registered : hook.registered = true) :
      Step hook .begin { hook with underWay := hook.underWay + 1 }
  | ignored (unregistered : hook.registered = false) : Step hook .begin hook
  | use {others : ℕ} (begun : hook.underWay = others + 1) :
      Step hook .use { hook with
        underWay := others
        misused := hook.misused + hook.disposed.toNat }
  -- what is there can be used again
  | useFirst (kept : hook.disposed = false) : Step hook .use hook
  | retract : Step hook .retract { hook with registered := false }
  | dispose : Step hook .dispose { hook with registered := false, disposed := true }
  | stay : Step hook .stay hook

variable {hook after : Hook} {move : Move}

/-- Nothing is misused before the hook is disposed of. -/
def Intact (hook : Hook) : Prop := hook.disposed = false → hook.misused = 0

theorem Intact.step (intact : hook.Intact) (taken : Step hook move after) : after.Intact := by
  cases taken with
  | register kept => exact intact
  | begin registered => exact intact
  | ignored unregistered => exact intact
  | use begun =>
      intro kept
      change hook.misused + hook.disposed.toNat = 0
      rw [intact kept, show hook.disposed = false from kept]
      rfl
  | useFirst kept => exact intact
  | retract => exact intact
  | dispose =>
      intro kept
      cases kept
  | stay => exact intact

/-- The hook is disposed of, and so many calls misuse it, or will. -/
structure Gone (hook : Hook) (calls : ℕ) : Prop where
  disposed : hook.disposed = true
  registered : hook.registered = false
  calls : hook.misused + hook.underWay = calls

/-- No call begins any more, and each one under way misuses what is gone. -/
theorem Gone.step {calls : ℕ} (gone : hook.Gone calls) (taken : Step hook move after) :
    after.Gone calls := by
  obtain ⟨disposed, unregistered, total⟩ := gone
  cases taken with
  | register kept =>
      rw [disposed] at kept
      cases kept
  | begin registered =>
      rw [unregistered] at registered
      cases registered
  | ignored => exact ⟨disposed, unregistered, total⟩
  | use begun =>
      refine ⟨disposed, unregistered, ?_⟩
      rw [begun] at total
      simp only [disposed, Bool.toNat_true]
      omega
  | useFirst kept =>
      rw [disposed] at kept
      cases kept
  | retract => exact ⟨disposed, rfl, total⟩
  | dispose => exact ⟨rfl, rfl, total⟩
  | stay => exact ⟨disposed, unregistered, total⟩

section

variable {fresh : Hook} {moves : List Move}

/-- **Nothing is misused before the hook is disposed of.** -/
theorem misused_eq_zero (run : Run Step fresh moves hook) (unused : fresh.misused = 0)
    (kept : hook.disposed = false) : hook.misused = 0 :=
  run.invariant Intact (fun _ _ _ intact taken => intact.step taken) (fun _ => unused) kept

/-- **The calls that misuse a hook are those that are under way when it is disposed of.** -/
theorem misused_of_run (run : Run Step fresh moves hook) (unused : fresh.misused = 0)
    (kept : hook.disposed = false) (disposes : Step hook .dispose after) {last : Hook}
    {others : List Move} (rest : Run Step after others last) :
    last.misused + last.underWay = hook.underWay := by
  have none := misused_eq_zero run unused kept
  have gone : after.Gone hook.underWay := by
    cases disposes
    refine ⟨rfl, rfl, ?_⟩
    change hook.misused + hook.underWay = hook.underWay
    rw [none, Nat.zero_add]
  exact (rest.invariant (Gone · hook.underWay) (fun _ _ _ gone taken => gone.step taken) gone).calls

end

end Hook

end Library
