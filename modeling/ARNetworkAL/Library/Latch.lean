import ARNetworkAL.Library.Run
import Mathlib.Logic.Function.Basic

/-!
# Parties that share one flag

Any number of parties may find a reason to act, and one of them should. They share a flag:
a party that finds a reason checks the flag, gives way if it is up, and else raises it and
acts. Check, raise and act are separate steps.

No two parties act as long as none checks the flag, and finds it down, while another is
between its own check and its raise (`acts_le_one`).
-/

set_option autoImplicit false

namespace Library

universe u

namespace Latch

/-- Where a party is. -/
inductive Point where
  | rest
  | checking
  | passed
  | raised
  deriving DecidableEq, Repr

variable {ι : Type u} [DecidableEq ι]

/-- The parties, the flag they share, and how often one of them acted. -/
@[ext] structure State (ι : Type u) where
  point : ι → Point
  up : Bool
  acts : ℕ

namespace State

/-- One party moves on. -/
def goto (s : State ι) (party : ι) (point : Point) : State ι :=
  { s with point := Function.update s.point party point }

/-- The party does not check a flag that is down while another has passed its check. -/
def Alone (s : State ι) (party : ι) : Prop :=
  s.point party = .checking → s.up = false → ∀ other, s.point other ≠ .passed

end State

/-- The steps of a party. -/
inductive Step : State ι → ι → State ι → Prop where
  | stay {s : State ι} {party : ι} (here : s.point party = .rest) : Step s party s
  | arrive {s : State ι} {party : ι} (here : s.point party = .rest) :
      Step s party (s.goto party .checking)
  | giveWay {s : State ι} {party : ι} (here : s.point party = .checking) (up : s.up = true) :
      Step s party (s.goto party .rest)
  | pass {s : State ι} {party : ι} (here : s.point party = .checking) (down : s.up = false) :
      Step s party (s.goto party .passed)
  | raise {s : State ι} {party : ι} (here : s.point party = .passed) :
      Step s party { s.goto party .raised with up := true }
  | act {s : State ι} {party : ι} (here : s.point party = .raised) :
      Step s party { s.goto party .rest with acts := s.acts + 1 }

section

variable (s : State ι) {party other : ι} {point : Point}

@[simp] theorem goto_point_self : (s.goto party point).point party = point :=
  Function.update_self ..

theorem goto_point_other (distinct : other ≠ party) :
    (s.goto party point).point other = s.point other :=
  Function.update_of_ne distinct ..

@[simp] theorem goto_up : (s.goto party point).up = s.up := rfl

/-- Who is at a point after a move to another one was there before. -/
theorem point_of_goto {here : Point} (elsewhere : point ≠ here)
    (found : (s.goto party point).point other = here) : s.point other = here := by
  by_cases same : other = party
  · subst same
    rw [goto_point_self] at found
    exact absurd found elsewhere
  · rwa [goto_point_other s same] at found

end

/-! ## Once at most -/

/-- While the flag is down nobody has raised it and one party at most has passed its check.
While it is up none has. A party that is about to act is the only one, and nobody acted
before it. -/
structure Once (s : State ι) : Prop where
  down : s.up = false → s.acts = 0 ∧ (∀ party, s.point party ≠ .raised) ∧
    ∀ party other, s.point party = .passed → s.point other = .passed → party = other
  up : s.up = true → ∀ party, s.point party ≠ .passed
  single : ∀ party, s.point party = .raised →
    s.acts = 0 ∧ ∀ other, s.point other = .raised → other = party
  bounded : s.acts ≤ 1

namespace Once

variable {s t : State ι} {party : ι}

/-- Going to a point where nothing is claimed yet keeps all. -/
theorem withdraw (once : Once s) {point : Point} (idle : point = .rest ∨ point = .checking) :
    Once (s.goto party point) := by
  have unpassed : point ≠ .passed := by rcases idle with rfl | rfl <;> decide
  have unraised : point ≠ .raised := by rcases idle with rfl | rfl <;> decide
  refine ⟨?_, ?_, ?_, once.bounded⟩
  · intro down
    obtain ⟨none, raised, passed⟩ := once.down down
    refine ⟨none, ?_, ?_⟩
    · intro other found
      exact raised other (point_of_goto s unraised found)
    · intro first second one two
      exact passed first second (point_of_goto s unpassed one) (point_of_goto s unpassed two)
  · intro up other found
    exact once.up up other (point_of_goto s unpassed found)
  · intro other found
    obtain ⟨none, only⟩ := once.single other (point_of_goto s unraised found)
    refine ⟨none, ?_⟩
    intro third there
    exact only third (point_of_goto s unraised there)

/-- A party passes its check while no other has. -/
theorem pass (once : Once s) (down : s.up = false) (none : ∀ other, s.point other ≠ .passed) :
    Once (s.goto party .passed) := by
  obtain ⟨unacted, unraised, _⟩ := once.down down
  have only : ∀ other, (s.goto party .passed).point other = .passed → other = party := by
    intro other found
    by_contra distinct
    rw [goto_point_other s distinct] at found
    exact none other found
  have still : ∀ other, (s.goto party .passed).point other ≠ .raised := by
    intro other found
    exact unraised other (point_of_goto s (by decide) found)
  refine ⟨?_, ?_, ?_, once.bounded⟩
  · intro _
    refine ⟨unacted, still, ?_⟩
    intro first second one two
    rw [only first one, only second two]
  · intro up
    rw [goto_up, down] at up
    cases up
  · intro other found
    exact absurd found (still other)

/-- A party that has passed raises the flag. -/
theorem raise (once : Once s) (here : s.point party = .passed) :
    Once { s.goto party .raised with up := true } := by
  have down : s.up = false := by
    by_contra up
    rw [Bool.not_eq_false] at up
    exact once.up up party here
  obtain ⟨unacted, unraised, passed⟩ := once.down down
  have only : ∀ other, (s.goto party .raised).point other = .raised → other = party := by
    intro other found
    by_contra distinct
    rw [goto_point_other s distinct] at found
    exact unraised other found
  refine ⟨?_, ?_, ?_, once.bounded⟩
  · intro down
    cases down
  · intro _ other found
    have before := point_of_goto s (by decide : Point.raised ≠ .passed) found
    rw [passed other party before here] at found
    rw [goto_point_self] at found
    cases found
  · intro other found
    refine ⟨unacted, ?_⟩
    intro third there
    rw [only other found, only third there]

/-- The party that raised it acts. -/
theorem act (once : Once s) (here : s.point party = .raised) :
    Once { s.goto party .rest with acts := s.acts + 1 } := by
  obtain ⟨unacted, only⟩ := once.single party here
  have none : ∀ other, (s.goto party .rest).point other ≠ .raised := by
    intro other found
    have before := point_of_goto s (by decide : Point.rest ≠ .raised) found
    rw [only other before, goto_point_self] at found
    cases found
  refine ⟨?_, ?_, ?_, ?_⟩
  · intro down
    exact absurd here ((once.down down).2.1 party)
  · intro up other found
    exact once.up up other (point_of_goto s (by decide) found)
  · intro other found
    exact absurd found (none other)
  · exact Nat.le_of_eq (by rw [unacted])

/-- What a step preserves, if no party checks a flag that is down while another has passed. -/
theorem step (once : Once s) (alone : s.Alone party) (taken : Step s party t) : Once t := by
  cases taken with
  | stay here => exact once
  | arrive here => exact once.withdraw (.inr rfl)
  | giveWay here up => exact once.withdraw (.inl rfl)
  | pass here down => exact once.pass down (alone here down)
  | raise here => exact once.raise here
  | act here => exact once.act here

end Once

/-- **If no party checks a flag that is down while another has passed its check, the parties
act once at most.** -/
theorem acts_le_one {s t : State ι} (once : Once s) {parties : List ι}
    (run : Run (restrict State.Alone Step) s parties t) : t.acts ≤ 1 := by
  refine (Run.invariant Once ?_ run once).bounded
  rintro before party after once ⟨alone, taken⟩
  exact once.step alone taken

end Latch

end Library
