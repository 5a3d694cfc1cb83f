import Mathlib.Data.List.Basic
import Mathlib.Data.List.Infix

/-!
# Requests in order, until one is refused

A program makes requests to a party that answers each of them. The answer may depend on all
that was requested before, so the party is a predicate on the requests made so far.
`requestAll` makes a list of requests in order and stops at the first that is refused.

It makes them all exactly if no beginning of the list ends in a refusal
(`requestAll_fst_iff`), and what it makes is a beginning of the list (`requestAll_made`).
-/

set_option autoImplicit false

namespace Library

universe u

variable {κ : Type u} (accepts : List κ → Prop) [DecidablePred accepts]

/-- Make requests in order, after others were made, until one is refused: whether none was,
and the requests made by then. -/
def requestAll : List κ → List κ → Bool × List κ
  | made, [] => (true, made)
  | made, request :: requests =>
      if accepts (made ++ [request]) then requestAll (made ++ [request]) requests
      else (false, made ++ [request])

/-- **All requests are made exactly if none on the way is refused.** -/
theorem requestAll_fst_iff {made requests : List κ} :
    (requestAll accepts made requests).1 = true ↔
      ∀ passed, passed <+: requests → passed ≠ [] → accepts (made ++ passed) := by
  induction requests generalizing made with
  | nil =>
      refine iff_of_true rfl ?_
      intro passed start some
      exact absurd (List.prefix_nil.mp start) some
  | cons request requests ih =>
      by_cases accepted : accepts (made ++ [request])
      · rw [requestAll, if_pos accepted, ih]
        constructor
        · intro rest passed start some
          obtain ⟨first, further, rfl⟩ := List.exists_cons_of_ne_nil some
          obtain ⟨same, within⟩ := List.cons_prefix_cons.mp start
          subst same
          by_cases last : further = []
          · rw [last]
            exact accepted
          · simpa using rest further within last
        · intro whole passed start _
          simpa using whole (request :: passed) (List.cons_prefix_cons.mpr ⟨rfl, start⟩)
            (List.cons_ne_nil _ _)
      · rw [requestAll, if_neg accepted]
        refine iff_of_false Bool.false_ne_true ?_
        intro whole
        exact accepted (whole [request] (List.cons_prefix_cons.mpr ⟨rfl, List.nil_prefix⟩)
          (List.cons_ne_nil _ _))

/-- **What is made is a beginning of the list.** -/
theorem requestAll_made (made requests : List κ) :
    ∃ passed, passed <+: requests ∧ (requestAll accepts made requests).2 = made ++ passed := by
  induction requests generalizing made with
  | nil => exact ⟨[], List.prefix_refl _, (List.append_nil made).symm⟩
  | cons request requests ih =>
      by_cases accepted : accepts (made ++ [request])
      · obtain ⟨passed, start, all⟩ := ih (made ++ [request])
        refine ⟨request :: passed, List.cons_prefix_cons.mpr ⟨rfl, start⟩, ?_⟩
        rw [requestAll, if_pos accepted, all, List.append_assoc, List.singleton_append]
      · refine ⟨[request], List.cons_prefix_cons.mpr ⟨rfl, List.nil_prefix⟩, ?_⟩
        rw [requestAll, if_neg accepted]

/-- If none is refused all are made. -/
theorem requestAll_snd_of_fst {made requests : List κ}
    (all : (requestAll accepts made requests).1 = true) :
    (requestAll accepts made requests).2 = made ++ requests := by
  induction requests generalizing made with
  | nil => exact (List.append_nil made).symm
  | cons request requests ih =>
      rw [requestAll] at all ⊢
      by_cases accepted : accepts (made ++ [request])
      · rw [if_pos accepted] at all ⊢
        rw [ih all, List.append_assoc, List.singleton_append]
      · rw [if_neg accepted] at all
        cases all

/-! ## All answers -/

/-- A predicate holds of what was requested after each of the requests. -/
def Throughout (answered : List κ → Prop) (made requests : List κ) : Prop :=
  ∀ passed, passed <+: requests → passed ≠ [] → answered (made ++ passed)

namespace Throughout

variable {answered : List κ → Prop} {made requests : List κ}

theorem nil : Throughout answered made [] :=
  fun _ start some => absurd (List.prefix_nil.mp start) some

/-- The first request, and the others after it. -/
theorem cons_iff {request : κ} :
    Throughout answered made (request :: requests) ↔
      answered (made ++ [request]) ∧ Throughout answered (made ++ [request]) requests := by
  constructor
  · intro whole
    refine ⟨whole [request] (List.cons_prefix_cons.mpr ⟨rfl, List.nil_prefix⟩)
      (List.cons_ne_nil _ _), ?_⟩
    intro passed start _
    rw [List.append_assoc, List.singleton_append]
    exact whole (request :: passed) (List.cons_prefix_cons.mpr ⟨rfl, start⟩)
      (List.cons_ne_nil _ _)
  · rintro ⟨here, rest⟩ passed start some
    obtain ⟨first, further, rfl⟩ := List.exists_cons_of_ne_nil some
    obtain ⟨same, within⟩ := List.cons_prefix_cons.mp start
    subst same
    by_cases last : further = []
    · rw [last]
      exact here
    · rw [← List.singleton_append, ← List.append_assoc]
      exact rest further within last

/-- The same requests in other words, to a party that is as well disposed. -/
theorem of_map {ι κ' : Type*} {answered' : List κ' → Prop} {made' : List κ'} {names : List ι}
    {request : ι → κ} {request' : ι → κ'}
    (whole : Throughout answered made (names.map request))
    (translated : ∀ passed, passed <+: names → answered (made ++ passed.map request) →
      answered' (made' ++ passed.map request')) :
    Throughout answered' made' (names.map request') := by
  intro passed start some
  obtain ⟨passed, beginning, rfl⟩ := List.prefix_map_iff.mp start
  apply translated passed beginning
  apply whole
  · exact beginning.map request
  · simpa using some

end Throughout

end Library
