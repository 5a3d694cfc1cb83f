import Mathlib.Data.List.Basic
import Mathlib.Data.Nat.Find

/-!
# Runs of a labelled step relation

A run follows a list of labels from one state to another. The rules here are the
ones a proof about a state machine needs: what every step preserves holds in
every state a run reaches (`Run.invariant`), a run is a run of whatever simulates
its steps (`Run.simulate`), and a run whose steps do not all meet a guard has a first
step that does not (`Run.first_violation`).
-/

set_option autoImplicit false

namespace Library

universe u v

variable {σ : Type u} {ι : Type v}

/-- `Run step s labels t`: the steps labelled `labels`, in order, lead from `s` to `t`. -/
inductive Run (step : σ → ι → σ → Prop) : σ → List ι → σ → Prop where
  | nil (s : σ) : Run step s [] s
  | cons {s t u : σ} {label : ι} {labels : List ι} :
      step s label t → Run step t labels u → Run step s (label :: labels) u

/-- The steps of a function on states. -/
def follows (next : σ → ι → σ) : σ → ι → σ → Prop := fun s label t => next s label = t

/-- The steps of a function that is defined where a step is possible. -/
def enabled (next : σ → ι → Option σ) : σ → ι → σ → Prop :=
  fun s label t => next s label = some t

/-- The steps that are taken where a guard on the state and the label holds. -/
def restrict (guard : σ → ι → Prop) (step : σ → ι → σ → Prop) : σ → ι → σ → Prop :=
  fun s label t => guard s label ∧ step s label t

namespace Run

variable {step : σ → ι → σ → Prop}

theorem single {s t : σ} {label : ι} (taken : step s label t) : Run step s [label] t :=
  .cons taken (.nil t)

/-- A run goes on where another ended. -/
theorem append {s t u : σ} {labels others : List ι} (first : Run step s labels t)
    (second : Run step t others u) : Run step s (labels ++ others) u := by
  induction first with
  | nil => exact second
  | cons taken _ ih => exact .cons taken (ih second)

/-- **What every step preserves holds at the end of every run.** -/
theorem invariant (Inv : σ → Prop) (preserved : ∀ s label t, Inv s → step s label t → Inv t)
    {s t : σ} {labels : List ι} (run : Run step s labels t) (initial : Inv s) : Inv t := by
  induction run with
  | nil => exact initial
  | cons taken _ ih => exact ih (preserved _ _ _ initial taken)

/-- **What every step lowers bounds the length of every run.** The invariant holds at both
ends. -/
theorem length_le (Inv : σ → Prop) (measure : σ → ℕ)
    (lowered : ∀ s label t, Inv s → step s label t → Inv t ∧ measure t < measure s)
    {s t : σ} {labels : List ι} (run : Run step s labels t) (initial : Inv s) :
    labels.length + measure t ≤ measure s := by
  induction run with
  | nil s => exact Nat.le_of_eq (Nat.zero_add _)
  | cons taken _ ih =>
      obtain ⟨kept, less⟩ := lowered _ _ _ initial taken
      have rest := ih kept
      rw [List.length_cons]
      omega

/-- **A run is a run of whatever simulates its steps.** The invariant holds at both ends. -/
theorem simulate {σ' : Type*} {ι' : Type*} {step' : σ' → ι' → σ' → Prop} (Inv : σ → Prop)
    (view : σ → σ') (name : ι → ι')
    (simulated : ∀ s label t, Inv s → step s label t →
      Inv t ∧ step' (view s) (name label) (view t))
    {s t : σ} {labels : List ι} (run : Run step s labels t) (initial : Inv s) :
    Inv t ∧ Run step' (view s) (labels.map name) (view t) := by
  induction run with
  | nil s => exact ⟨initial, .nil _⟩
  | cons taken _ ih =>
      obtain ⟨kept, follows⟩ := simulated _ _ _ initial taken
      obtain ⟨final, rest⟩ := ih kept
      exact ⟨final, .cons follows rest⟩

/-- A run of fewer steps is a run of more. -/
theorem mono {other : σ → ι → σ → Prop} (included : ∀ s label t, step s label t → other s label t)
    {s t : σ} {labels : List ι} (run : Run step s labels t) : Run other s labels t := by
  induction run with
  | nil s => exact .nil s
  | cons taken _ ih => exact .cons (included _ _ _ taken) ih

theorem of_restrict {guard : σ → ι → Prop} {s t : σ} {labels : List ι}
    (run : Run (restrict guard step) s labels t) : Run step s labels t :=
  run.mono fun _ _ _ taken => taken.2

/-- A run meets a guard throughout, or has a first step that does not. -/
theorem first_violation (guard : σ → ι → Prop) {s u : σ} {labels : List ι}
    (run : Run step s labels u) :
    Run (restrict guard step) s labels u ∨
      ∃ before label after t t', labels = before ++ label :: after ∧
        Run (restrict guard step) s before t ∧ ¬ guard t label ∧ step t label t' ∧
          Run step t' after u := by
  induction run with
  | nil s => exact .inl (.nil s)
  | @cons s t u label labels taken rest ih =>
      by_cases met : guard s label
      · rcases ih with run | ⟨before, next, after, t₁, t₂, rfl, run, unmet, there, rest'⟩
        · exact .inl (.cons ⟨met, taken⟩ run)
        · exact .inr ⟨label :: before, next, after, t₁, t₂, rfl, .cons ⟨met, taken⟩ run, unmet,
            there, rest'⟩
      · exact .inr ⟨[], label, labels, s, t, rfl, .nil s, met, taken, rest⟩

/-- **A property that each step keeps exactly where a guard holds** is met in every state that
a run passes exactly if the run meets the guard throughout. -/
theorem always_iff (Inv : σ → Prop) (guard : σ → ι → Prop)
    (functional : ∀ s label t t', step s label t → step s label t' → t = t')
    (exact : ∀ s label t, Inv s → step s label t → (Inv t ↔ guard s label))
    {s u : σ} {labels : List ι} (run : Run step s labels u) (initial : Inv s) :
    (∀ passed, passed <+: labels → ∀ t, Run step s passed t → Inv t) ↔
      Run (restrict guard step) s labels u := by
  constructor
  · intro always
    induction run with
    | nil s => exact .nil s
    | @cons s t u label labels taken _ ih =>
        have kept : Inv t := always [label] (by simp) t (single taken)
        have met := (exact s label t initial taken).mp kept
        refine .cons ⟨met, taken⟩ (ih kept ?_)
        intro passed start m reached
        exact always (label :: passed) (by simpa using start) m (.cons taken reached)
  · intro guarded
    induction guarded with
    | nil s =>
        intro passed start m reached
        rw [List.prefix_nil] at start
        subst start
        cases reached
        exact initial
    | @cons s t u label labels taken rest ih =>
        have kept := (exact s label t initial taken.2).mpr taken.1
        intro passed start m reached
        cases reached with
        | nil => exact initial
        | cons first after =>
            obtain ⟨same, further⟩ := List.cons_prefix_cons.mp start
            subst same
            rw [functional _ _ _ _ first taken.2] at after
            exact ih rest.of_restrict kept _ further m after

/-- **A property that steps keep and some steps bring about** holds at the end of a run
exactly if it held at the start or one of its steps brought it about. -/
theorem holds_iff {P : σ → Prop} {Q : σ → ι → Prop}
    (gained : ∀ s label t, step s label t → (P t ↔ P s ∨ Q s label))
    {s t : σ} {labels : List ι} (run : Run step s labels t) :
    P t ↔ P s ∨ ∃ before label after u, labels = before ++ label :: after ∧
      Run step s before u ∧ Q u label ∧ Run step u (label :: after) t := by
  constructor
  · intro holds
    induction run with
    | nil s => exact .inl holds
    | @cons s t u label labels taken rest ih =>
        rcases ih holds with kept | ⟨before, next, after, m, rfl, first, there, last⟩
        · rcases (gained s label t taken).mp kept with held | brought
          · exact .inl held
          · exact .inr ⟨[], label, labels, s, rfl, .nil s, brought, .cons taken rest⟩
        · exact .inr ⟨label :: before, next, after, m, rfl, .cons taken first, there, last⟩
  · have kept : ∀ s label t, P s → step s label t → P t :=
      fun s label t held taken => (gained s label t taken).mpr (.inl held)
    rintro (held | ⟨before, label, after, u, -, -, brought, last⟩)
    · exact run.invariant P kept held
    · cases last with
      | cons taken rest =>
          exact rest.invariant P kept ((gained _ _ _ taken).mpr (.inr brought))

/-- A function that is defined where a step is possible has one run at most over a list of
labels, and computes where it ends. -/
theorem enabled_iff {next : σ → ι → Option σ} {s t : σ} {labels : List ι} :
    Run (enabled next) s labels t ↔ labels.foldlM next s = some t := by
  constructor
  · intro run
    induction run with
    | nil s => rfl
    | cons taken _ ih =>
        rw [List.foldlM_cons, show next _ _ = _ from taken]
        exact ih
  · intro folded
    induction labels generalizing s with
    | nil =>
        cases folded
        exact .nil _
    | cons label labels ih =>
        obtain ⟨middle, taken, rest⟩ := Option.bind_eq_some_iff.mp folded
        exact .cons taken (ih rest)

/-- The rest of the run is not lost where each step has one result at most. -/
theorem holds_iff_of_enabled {next : σ → ι → Option σ} {P : σ → Prop} {Q : σ → ι → Prop}
    (gained : ∀ s label t, next s label = some t → (P t ↔ P s ∨ Q s label))
    {s t : σ} {labels : List ι} (run : Run (enabled next) s labels t) :
    P t ↔ P s ∨ ∃ before label after u, labels = before ++ label :: after ∧
      Run (enabled next) s before u ∧ Q u label := by
  rw [run.holds_iff gained]
  refine or_congr_right ?_
  constructor
  · rintro ⟨before, label, after, u, split, first, brought, -⟩
    exact ⟨before, label, after, u, split, first, brought⟩
  · rintro ⟨before, label, after, u, rfl, first, brought⟩
    have whole := enabled_iff.mp run
    rw [List.foldlM_append, enabled_iff.mp first] at whole
    exact ⟨before, label, after, u, rfl, first, brought, enabled_iff.mpr whole⟩

end Run

/-! ## First occurrences -/

/-- Two properties of the steps of a run that agree up to the first step at which
the second holds are met by the same bounds. -/
theorem exists_le_iff_of_agree {P Q : ℕ → Prop} {bound : ℕ}
    (agree : ∀ index ≤ bound, (∀ earlier < index, ¬ Q earlier) → (P index ↔ Q index)) :
    (∃ index ≤ bound, P index) ↔ ∃ index ≤ bound, Q index := by
  classical
  constructor
  · rintro ⟨index, within, holds⟩
    by_cases sooner : ∃ earlier < index, Q earlier
    · obtain ⟨earlier, before, met⟩ := sooner
      exact ⟨earlier, by omega, met⟩
    · have first : ∀ earlier < index, ¬ Q earlier := by
        intro earlier before met
        exact sooner ⟨earlier, before, met⟩
      exact ⟨index, within, (agree index within first).mp holds⟩
  · rintro ⟨index, within, met⟩
    have found : ∃ index, Q index := ⟨index, met⟩
    have least : Nat.find found ≤ index := Nat.find_min' found met
    have first : ∀ earlier < Nat.find found, ¬ Q earlier := fun _ => Nat.find_min found
    exact ⟨Nat.find found, by omega,
      (agree _ (by omega) first).mpr (Nat.find_spec found)⟩

end Library
