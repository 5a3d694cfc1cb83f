import ARNetworkAL.Library.Run
import Mathlib.Logic.Function.Basic

/-!
# Two parties that announce one event

Two parties may notice the same event, and one of them has to announce it. Each has a
flag that the other can read. A party that notices the event raises its own flag,
reads the other's, and announces the event unless that one is raised.

Every access to a flag is one step, and so is the announcement. However the steps of
the parties interleave the event is announced once at most (`announced_le_one`): the
two reads cannot both come before the two writes. They can both come after them, and
then nobody announces. This is the only way to lose the event (`announced_of_apart`), and
it loses the event for good (`missed_of_together`).
-/

set_option autoImplicit false

namespace Library

namespace Announce

/-- Where a party is. -/
inductive Point where
  | rest
  | noticed
  | raising
  | testing
  | announcing
  deriving DecidableEq, Repr

/-- The two parties are the two booleans, and `!p` is the other one of `p`. -/
@[ext] structure State where
  point : Bool → Point
  raised : Bool → Bool
  announced : ℕ

namespace State

/-- Nothing has happened. -/
def start : State := ⟨fun _ => .rest, fun _ => false, 0⟩

/-- One party moves on. -/
def goto (s : State) (p : Bool) (point : Point) : State :=
  { s with point := Function.update s.point p point }

/-- Both parties are at rest. -/
def AtRest (s : State) : Prop := ∀ p, s.point p = .rest

end State

/-- The steps of party `p`. Where `listened` fails nobody may be there to hear the
announcement, and a party can then keep it for itself. -/
inductive Step (listened : Prop) : State → Bool → State → Prop where
  | stay {s : State} {p : Bool} (here : s.point p = .rest) : Step listened s p s
  | notice {s : State} {p : Bool} (here : s.point p = .rest) :
      Step listened s p (s.goto p .noticed)
  | leave {s : State} {p : Bool} (here : s.point p = .noticed) :
      Step listened s p (s.goto p .rest)
  | resolve {s : State} {p : Bool} (here : s.point p = .noticed) (unraised : s.raised p = false) :
      Step listened s p (s.goto p .raising)
  | raise {s : State} {p : Bool} (here : s.point p = .raising) :
      Step listened s p
        { s.goto p .testing with raised := Function.update s.raised p true }
  | claim {s : State} {p : Bool} (here : s.point p = .testing) (free : s.raised (!p) = false) :
      Step listened s p (s.goto p .announcing)
  | giveWay {s : State} {p : Bool} (here : s.point p = .testing)
      (taken : listened → s.raised (!p) = true) :
      Step listened s p (s.goto p .rest)
  | announce {s : State} {p : Bool} (here : s.point p = .announcing) :
      Step listened s p { s.goto p .rest with announced := s.announced + 1 }

/-- A property of both parties, seen from one of them. -/
theorem forall_party {P : Bool → Prop} (p : Bool) : (∀ q, P q) ↔ P p ∧ P (!p) := by
  rw [Bool.forall_bool]
  cases p
  · exact Iff.rfl
  · exact and_comm

section

variable (s : State) (p : Bool) (point : Point)

@[simp] theorem goto_point_self : (s.goto p point).point p = point :=
  Function.update_self ..

@[simp] theorem goto_point_other : (s.goto p point).point (!p) = s.point (!p) := by
  simp [State.goto, Function.update_of_ne]

@[simp] theorem goto_raised : (s.goto p point).raised = s.raised := rfl

@[simp] theorem goto_announced : (s.goto p point).announced = s.announced := rfl

end

/-! ## Never twice -/

/-- A party that is past its first write has its flag up, at most one party is about to
announce, and if the event was announced then a party with its flag up is done. -/
structure Exclusive (s : State) : Prop where
  unraised : ∀ p, s.point p = .raising → s.raised p = false
  raised : ∀ p, s.point p = .testing ∨ s.point p = .announcing → s.raised p = true
  single : ∀ p, s.point p = .announcing → s.announced = 0 ∧ s.point (!p) ≠ .announcing
  settled : s.announced ≠ 0 →
    s.announced = 1 ∧ ∃ p, s.raised p = true ∧ (s.point p = .rest ∨ s.point p = .noticed)

theorem exclusive_start : Exclusive State.start where
  unraised _ here := by cases here
  raised _ here := by rcases here with here | here <;> cases here
  single _ here := by cases here
  settled some := absurd rfl some

namespace Exclusive

variable {s t : State} {p : Bool}

/-- A party with its flag up that is done was never about to write. -/
theorem settled_other (exclusive : Exclusive s) (some : s.announced ≠ 0)
    (busy : s.point p ≠ .rest ∧ s.point p ≠ .noticed) :
    s.raised (!p) = true ∧ (s.point (!p) = .rest ∨ s.point (!p) = .noticed) := by
  obtain ⟨-, q, up, done⟩ := exclusive.settled some
  by_cases same : q = p
  · subst same
    rcases done with done | done
    · exact absurd done busy.1
    · exact absurd done busy.2
  · rw [Bool.eq_not_of_ne same] at up done
    exact ⟨up, done⟩

/-- A party may go back whenever it likes. -/
theorem withdraw (exclusive : Exclusive s) (p : Bool) {point : Point}
    (back : point = .rest ∨ point = .noticed) : Exclusive (s.goto p point) := by
  have idle : point ≠ .raising ∧ point ≠ .testing ∧ point ≠ .announcing := by
    rcases back with rfl | rfl <;> decide
  refine ⟨(forall_party p).mpr ⟨?_, ?_⟩, (forall_party p).mpr ⟨?_, ?_⟩,
    (forall_party p).mpr ⟨?_, ?_⟩, ?_⟩
  · intro here
    exact absurd (by simpa using here) idle.1
  · simpa using exclusive.unraised (!p)
  · intro here
    have here : point = .testing ∨ point = .announcing := by simpa using here
    exact absurd here (not_or.mpr idle.2)
  · simpa using exclusive.raised (!p)
  · intro here
    exact absurd (by simpa using here) idle.2.2
  · intro here
    refine ⟨(exclusive.single (!p) (by simpa using here)).1, ?_⟩
    simpa using idle.2.2
  · intro some
    obtain ⟨once, q, up, done⟩ := exclusive.settled some
    refine ⟨once, q, up, ?_⟩
    by_cases same : q = p
    · subst same
      simpa using back
    · rw [Bool.eq_not_of_ne same] at done ⊢
      simpa using done

theorem resolve (exclusive : Exclusive s) (unraised : s.raised p = false) :
    Exclusive (s.goto p .raising) := by
  refine ⟨(forall_party p).mpr ⟨?_, ?_⟩, (forall_party p).mpr ⟨?_, ?_⟩,
    (forall_party p).mpr ⟨?_, ?_⟩, ?_⟩
  · intro
    exact unraised
  · simpa using exclusive.unraised (!p)
  · intro here
    simp at here
  · simpa using exclusive.raised (!p)
  · intro here
    simp at here
  · intro here
    refine ⟨(exclusive.single (!p) (by simpa using here)).1, ?_⟩
    simp
  · intro some
    obtain ⟨once, q, up, done⟩ := exclusive.settled some
    have other : q = !p := by
      refine Bool.eq_not_of_ne fun same => ?_
      rw [same, unraised] at up
      cases up
    subst other
    exact ⟨once, !p, up, by simpa using done⟩

theorem raise (exclusive : Exclusive s) (here : s.point p = .raising) :
    Exclusive { s.goto p .testing with raised := Function.update s.raised p true } := by
  have kept : Function.update s.raised p true (!p) = s.raised (!p) :=
    Function.update_of_ne (by simp) true s.raised
  refine ⟨(forall_party p).mpr ⟨?_, ?_⟩, (forall_party p).mpr ⟨?_, ?_⟩,
    (forall_party p).mpr ⟨?_, ?_⟩, ?_⟩
  · intro there
    simp at there
  · simpa [kept] using exclusive.unraised (!p)
  · intro
    exact Function.update_self ..
  · simpa [kept] using exclusive.raised (!p)
  · intro there
    simp at there
  · intro there
    refine ⟨(exclusive.single (!p) (by simpa using there)).1, ?_⟩
    simp
  · intro some
    obtain ⟨up, done⟩ := exclusive.settled_other (p := p) some (by simp [here])
    exact ⟨(exclusive.settled some).1, !p, kept.trans up, by simpa using done⟩

/-- The other party has not raised its flag, so it neither announces nor has announced. -/
theorem claim (exclusive : Exclusive s) (here : s.point p = .testing)
    (free : s.raised (!p) = false) : Exclusive (s.goto p .announcing) := by
  have silent : s.announced = 0 := by
    by_contra some
    obtain ⟨up, -⟩ := exclusive.settled_other (p := p) some (by simp [here])
    rw [free] at up
    cases up
  have alone : s.point (!p) ≠ .announcing := by
    intro there
    rw [exclusive.raised (!p) (.inr there)] at free
    cases free
  refine ⟨(forall_party p).mpr ⟨?_, ?_⟩, (forall_party p).mpr ⟨?_, ?_⟩,
    (forall_party p).mpr ⟨?_, ?_⟩, ?_⟩
  · intro there
    simp at there
  · simpa using exclusive.unraised (!p)
  · intro
    exact exclusive.raised p (.inl here)
  · simpa using exclusive.raised (!p)
  · intro
    exact ⟨silent, by simpa using alone⟩
  · intro there
    exact absurd (by simpa using there) alone
  · intro some
    exact absurd silent some

theorem announce (exclusive : Exclusive s) (here : s.point p = .announcing) :
    Exclusive { s.goto p .rest with announced := s.announced + 1 } := by
  obtain ⟨silent, alone⟩ := exclusive.single p here
  have back := exclusive.withdraw p (.inl rfl)
  refine ⟨back.unraised, back.raised, (forall_party p).mpr ⟨?_, ?_⟩, ?_⟩
  · intro there
    simp at there
  · intro there
    exact absurd (by simpa using there) alone
  · intro
    exact ⟨congrArg (· + 1) silent, p, exclusive.raised p (.inr here), .inl (by simp)⟩

theorem step {listened : Prop} (exclusive : Exclusive s) (taken : Step listened s p t) :
    Exclusive t := by
  cases taken with
  | stay => exact exclusive
  | notice => exact exclusive.withdraw p (.inr rfl)
  | leave => exact exclusive.withdraw p (.inl rfl)
  | resolve _ unraised => exact exclusive.resolve unraised
  | raise here => exact exclusive.raise here
  | claim here free => exact exclusive.claim here free
  | giveWay => exact exclusive.withdraw p (.inl rfl)
  | announce here => exact exclusive.announce here

end Exclusive

theorem exclusive_of_run {listened : Prop} {moves : List Bool} {t : State}
    (run : Run (Step listened) .start moves t) : Exclusive t := by
  refine run.invariant Exclusive ?_ exclusive_start
  intro before party after exclusive taken
  exact exclusive.step taken

/-- **The event is announced once at most.** -/
theorem announced_le_one {listened : Prop} {moves : List Bool} {t : State}
    (run : Run (Step listened) .start moves t) : t.announced ≤ 1 := by
  have exclusive := exclusive_of_run run
  by_cases some : t.announced = 0
  · exact some ▸ Nat.zero_le 1
  · exact Nat.le_of_eq (exclusive.settled some).1

/-! ## Lost or not -/

/-- No party raises its flag while the other has raised its own and not yet read this one. -/
def Apart (s : State) (p : Bool) : Prop := ¬ (s.point p = .raising ∧ s.point (!p) = .testing)

instance (s : State) (p : Bool) : Decidable (Apart s p) := inferInstanceAs (Decidable (¬ _))

/-- If a flag is up, the event was announced or a party is on its way to announce it. -/
def Heard (s : State) : Prop :=
  ∀ p, s.raised p = true → s.announced ≠ 0 ∨
    ∃ q, s.point q = .announcing ∨ (s.point q = .testing ∧ s.raised (!q) = false)

/-- Both flags are up, the event was not announced, and no party is on its way. -/
structure Missed (s : State) : Prop where
  raised : ∀ p, s.raised p = true
  silent : s.announced = 0
  idle : ∀ p, s.point p ≠ .raising ∧ s.point p ≠ .announcing

namespace Heard

variable {s t : State} {p : Bool}

/-- A party that is not on its way to announce may move anywhere. -/
theorem goto (heard : Heard s) (point : Point) (elsewhere : s.point p ≠ .announcing)
    (decided : s.point p = .testing → s.raised (!p) = true) : Heard (s.goto p point) := by
  intro r up
  rcases heard r up with some | ⟨q, onItsWay⟩
  · exact .inl some
  · refine .inr ⟨q, ?_⟩
    have other : q = !p := by
      refine Bool.eq_not_of_ne fun same => ?_
      subst same
      rcases onItsWay with there | ⟨there, free⟩
      · exact elsewhere there
      · rw [decided there] at free
        cases free
    subst other
    simpa using onItsWay

/-- A party that raises its flag while the other is not testing will find that one down, or
the event is in the other's hands. -/
theorem raise (heard : Heard s) (here : s.point p = .raising) (apart : Apart s p) :
    Heard { s.goto p .testing with raised := Function.update s.raised p true } := by
  have kept : Function.update s.raised p true (!p) = s.raised (!p) := by simp
  intro _ _
  by_cases free : s.raised (!p) = false
  · exact .inr ⟨p, .inr ⟨by simp, kept.trans free⟩⟩
  · rcases heard (!p) (Bool.not_eq_false _ ▸ free) with some | ⟨q, onItsWay⟩
    · exact .inl some
    · have other : q = !p := by
        refine Bool.eq_not_of_ne fun same => ?_
        rw [same, here] at onItsWay
        rcases onItsWay with there | ⟨there, -⟩ <;> cases there
      subst other
      rcases onItsWay with there | ⟨there, -⟩
      · exact .inr ⟨!p, .inl (by simpa using there)⟩
      · exact absurd ⟨here, there⟩ apart

theorem step (heard : Heard s) (apart : Apart s p) (taken : Step True s p t) : Heard t := by
  cases taken with
  | stay => exact heard
  | notice here => exact heard.goto _ (by simp [here]) (by simp [here])
  | leave here => exact heard.goto _ (by simp [here]) (by simp [here])
  | resolve here => exact heard.goto _ (by simp [here]) (by simp [here])
  | raise here => exact heard.raise here apart
  | claim => exact fun _ _ => .inr ⟨p, .inl (by simp)⟩
  | giveWay here taken => exact heard.goto _ (by simp [here]) fun _ => taken trivial
  | announce => exact fun _ _ => .inl (Nat.succ_ne_zero _)

end Heard

namespace Missed

variable {s t : State} {p : Bool}

theorem withdraw (missed : Missed s) (p : Bool) {point : Point}
    (back : point = .rest ∨ point = .noticed) : Missed (s.goto p point) := by
  refine ⟨missed.raised, missed.silent, (forall_party p).mpr ⟨?_, ?_⟩⟩
  · rcases back with rfl | rfl <;> simp
  · simpa using missed.idle (!p)

/-- An event that is missed stays so. -/
theorem step {listened : Prop} (missed : Missed s) (taken : Step listened s p t) : Missed t := by
  cases taken with
  | stay => exact missed
  | notice => exact missed.withdraw p (.inr rfl)
  | leave => exact missed.withdraw p (.inl rfl)
  | resolve _ unraised => simp [missed.raised p] at unraised
  | raise here => exact absurd here (missed.idle p).1
  | claim _ free => simp [missed.raised (!p)] at free
  | giveWay => exact missed.withdraw p (.inl rfl)
  | announce here => exact absurd here (missed.idle p).2

/-- Two writes before the two reads miss the event. -/
theorem of_not_apart {listened : Prop} (exclusive : Exclusive s) (together : ¬ Apart s p)
    (taken : Step listened s p t) : Missed t := by
  obtain ⟨raising, testing⟩ := Classical.not_not.mp together
  have silent : s.announced = 0 := by
    by_contra some
    obtain ⟨-, done⟩ := exclusive.settled_other (p := p) some (by simp [raising])
    simp [testing] at done
  cases taken with
  | raise =>
      refine ⟨(forall_party p).mpr ⟨by simp, ?_⟩, silent, (forall_party p).mpr ⟨by simp, ?_⟩⟩
      · simpa using exclusive.raised (!p) (.inl testing)
      · simp [testing]
  | stay here => simp [raising] at here
  | notice here => simp [raising] at here
  | leave here => simp [raising] at here
  | resolve here => simp [raising] at here
  | claim here => simp [raising] at here
  | giveWay here => simp [raising] at here
  | announce here => simp [raising] at here

end Missed

/-- **An event that was noticed is announced** by the time both parties are at rest, if they
never raised their flags together. -/
theorem announced_of_apart {moves : List Bool} {t : State}
    (run : Run (restrict Apart (Step True)) .start moves t) (atRest : t.AtRest)
    (noticed : ∃ p, t.raised p = true) : 1 ≤ t.announced := by
  obtain ⟨p, up⟩ := noticed
  have heard : Heard t := by
    refine run.invariant Heard ?_ ?_
    · rintro before party after heard ⟨apart, taken⟩
      exact heard.step apart taken
    · intro party up
      cases up
  rcases heard p up with some | ⟨q, there | ⟨there, -⟩⟩
  · exact Nat.one_le_iff_ne_zero.mpr some
  · rw [atRest q] at there
    cases there
  · rw [atRest q] at there
    cases there

/-- **An event for which they did is never announced.** -/
theorem missed_of_together {listened : Prop} {before after : List Bool} {s s' t : State} {p : Bool}
    (first : Run (Step listened) .start before s) (together : ¬ Apart s p)
    (taken : Step listened s p s') (rest : Run (Step listened) s' after t) : Missed t := by
  have exclusive := exclusive_of_run first
  refine rest.invariant Missed ?_ (.of_not_apart exclusive together taken)
  intro before party after missed taken
  exact missed.step taken

end Announce

end Library
