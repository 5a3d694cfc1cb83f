import Mathlib.Data.Multiset.AddSub
import Mathlib.Data.List.Nodup
import Mathlib.Data.Multiset.UnionInter

/-!
# Ledgers of resources

A ledger lists what a program acquires and releases, in order. It settles from what is
held at first if every release is of something held at that moment; what is held at last
is then determined (`settle`).

Two rules carry most proofs. What else is held does not matter (`settle_frame`), so a
function can be accounted for on the resources it touches. And nothing is lost
(`settle_conserves`): what was held or acquired is held or was released. A ledger that
settles from nothing to nothing has released everything it acquired, as often as it
acquired it (`settle_balanced`).
-/

set_option autoImplicit false

namespace Library

universe u v

/-- An entry of a ledger. -/
inductive Entry (ρ : Type u) where
  | acquire (resource : ρ)
  | release (resource : ρ)
  deriving DecidableEq, Repr

/-- An entry about what a resource stands for. -/
def Entry.map {ρ : Type u} {ρ' : Type v} (f : ρ → ρ') : Entry ρ → Entry ρ'
  | acquire resource => acquire (f resource)
  | release resource => release (f resource)

namespace Ledger

variable {ρ : Type u}

/-- What a ledger acquires, in order. -/
def acquired : List (Entry ρ) → List ρ
  | [] => []
  | .acquire resource :: entries => resource :: acquired entries
  | .release _ :: entries => acquired entries

/-- What it releases, in order. -/
def released : List (Entry ρ) → List ρ
  | [] => []
  | .acquire _ :: entries => released entries
  | .release resource :: entries => resource :: released entries

@[simp] theorem acquired_append (first second : List (Entry ρ)) :
    acquired (first ++ second) = acquired first ++ acquired second := by
  induction first with
  | nil => rfl
  | cons entry entries ih =>
      cases entry with
      | acquire resource => simp [acquired, ih]
      | release resource => simp [acquired, ih]

@[simp] theorem acquired_releases (resources : List ρ) :
    acquired (resources.map .release) = [] := by
  induction resources with
  | nil => rfl
  | cons resource resources ih => exact ih

variable [DecidableEq ρ]

/-- What is held after an entry. Only what is held can be released. -/
def post (held : Multiset ρ) : Entry ρ → Option (Multiset ρ)
  | .acquire resource => some (resource ::ₘ held)
  | .release resource => if resource ∈ held then some (held.erase resource) else none

/-- What is held after a ledger, if each of its releases is of something held. -/
def settle (held : Multiset ρ) (entries : List (Entry ρ)) : Option (Multiset ρ) :=
  entries.foldlM post held

@[simp] theorem settle_nil (held : Multiset ρ) : settle held [] = some held := rfl

@[simp] theorem settle_acquire (held : Multiset ρ) (resource : ρ) (entries : List (Entry ρ)) :
    settle held (.acquire resource :: entries) = settle (resource ::ₘ held) entries := rfl

/-- A release of what was acquired last. -/
@[simp] theorem settle_release (held : Multiset ρ) (resource : ρ) (entries : List (Entry ρ)) :
    settle (resource ::ₘ held) (.release resource :: entries) = settle held entries := by
  simp [settle, post]

/-- Several resources are acquired. -/
theorem settle_acquires (held : Multiset ρ) (resources : List ρ) :
    settle held (resources.map .acquire) = some (held + resources) := by
  induction resources generalizing held with
  | nil => simp
  | cons resource resources ih =>
      rw [List.map_cons, settle_acquire, ih, ← Multiset.cons_coe, Multiset.cons_add,
        Multiset.add_cons]

/-- Everything is released. -/
theorem settle_releases (resources : List ρ) :
    settle (resources : Multiset ρ) (resources.map .release) = some 0 := by
  induction resources with
  | nil => rfl
  | cons resource resources ih =>
      rw [List.map_cons, ← Multiset.cons_coe, settle_release, ih]

theorem settle_append (held : Multiset ρ) (first second : List (Entry ρ)) :
    settle held (first ++ second) = (settle held first).bind fun after => settle after second :=
  List.foldlM_append

/-- Ledgers that settle one after the other. -/
theorem settle_trans {held middle after : Multiset ρ} {first second : List (Entry ρ)}
    (settled : settle held first = some middle) (further : settle middle second = some after) :
    settle held (first ++ second) = some after := by
  rw [settle_append, settled, Option.bind_some, further]

theorem post_frame {held after : Multiset ρ} {entry : Entry ρ}
    (posted : post held entry = some after) (others : Multiset ρ) :
    post (held + others) entry = some (after + others) := by
  cases entry with
  | acquire resource =>
      simp only [post, Option.some.injEq] at posted ⊢
      rw [← posted, Multiset.cons_add]
  | release resource =>
      simp only [post] at posted ⊢
      split at posted
      · rename_i member
        rw [Option.some.injEq] at posted
        rw [if_pos (Multiset.mem_add.mpr (.inl member)), ← posted,
          Multiset.erase_add_left_pos _ member]
      · cases posted

/-- **What else is held does not matter.** -/
theorem settle_frame {held after : Multiset ρ} {entries : List (Entry ρ)}
    (settled : settle held entries = some after) (others : Multiset ρ) :
    settle (held + others) entries = some (after + others) := by
  induction entries generalizing held with
  | nil =>
      cases settled
      rfl
  | cons entry entries ih =>
      obtain ⟨middle, posted, further⟩ := Option.bind_eq_some_iff.mp settled
      exact Option.bind_eq_some_iff.mpr ⟨_, post_frame posted others, ih further⟩

/-- A ledger about what the resources stand for, which tells them apart. -/
theorem settle_map {ρ' : Type v} [DecidableEq ρ'] {f : ρ → ρ'} (injective : Function.Injective f)
    {held after : Multiset ρ} {entries : List (Entry ρ)}
    (settled : settle held entries = some after) :
    settle (held.map f) (entries.map (Entry.map f)) = some (after.map f) := by
  induction entries generalizing held with
  | nil =>
      cases settled
      rfl
  | cons entry entries ih =>
      obtain ⟨middle, posted, further⟩ := Option.bind_eq_some_iff.mp settled
      refine Option.bind_eq_some_iff.mpr ⟨middle.map f, ?_, ih further⟩
      cases entry with
      | acquire resource =>
          cases posted
          exact congrArg some (Multiset.map_cons f resource held).symm
      | release resource =>
          simp only [post] at posted
          split at posted
          · rename_i member
            cases posted
            rw [Entry.map, post, if_pos (Multiset.mem_map_of_mem f member),
              Multiset.map_erase f injective]
          · cases posted

/-- Resources that are acquired before and released after. -/
theorem settle_bracket {held after : Multiset ρ} {entries : List (Entry ρ)}
    (settled : settle held entries = some after) (resources : List ρ) :
    settle held (resources.map .acquire ++ entries ++ resources.map .release) = some after := by
  have inside := settle_trans (settle_acquires held resources)
    (settle_frame settled (resources : Multiset ρ))
  have released := settle_frame (settle_releases resources) after
  rw [Multiset.zero_add, Multiset.add_comm] at released
  exact settle_trans inside released

/-- **What was held or acquired is held or was released.** -/
theorem settle_conserves {held after : Multiset ρ} {entries : List (Entry ρ)}
    (settled : settle held entries = some after) :
    held + (acquired entries : Multiset ρ) = after + (released entries : Multiset ρ) := by
  induction entries generalizing held with
  | nil =>
      cases settled
      rfl
  | cons entry entries ih =>
      obtain ⟨middle, posted, further⟩ := Option.bind_eq_some_iff.mp settled
      have rest := ih further
      cases entry with
      | acquire resource =>
          simp only [post, Option.some.injEq] at posted
          rw [← posted, Multiset.cons_add] at rest
          rw [acquired, released, ← Multiset.cons_coe, Multiset.add_cons, rest]
      | release resource =>
          simp only [post] at posted
          split at posted
          · rename_i member
            rw [Option.some.injEq] at posted
            rw [acquired, released, ← Multiset.cons_coe, Multiset.add_cons, ← rest, ← posted,
              ← Multiset.cons_add, Multiset.cons_erase member]
          · cases posted

/-- A ledger that settles from nothing to nothing releases what it acquires. -/
theorem settle_balanced {entries : List (Entry ρ)} (settled : settle 0 entries = some 0) :
    (acquired entries).Perm (released entries) := by
  have same := settle_conserves settled
  rw [Multiset.zero_add, Multiset.zero_add] at same
  exact Multiset.coe_eq_coe.mp same

/-- What is acquired once is released once at most, and not while it is held. -/
theorem released_nodup {held : Multiset ρ} {entries : List (Entry ρ)}
    (settled : settle 0 entries = some held) (once : (acquired entries).Nodup) :
    (released entries).Nodup ∧ ∀ resource ∈ held, resource ∉ released entries := by
  have same := settle_conserves settled
  rw [Multiset.zero_add] at same
  have distinct : (held + (released entries : Multiset ρ)).Nodup := by
    rw [← same]
    exact Multiset.coe_nodup.mpr once
  obtain ⟨_, released, disjoint⟩ := Multiset.nodup_add.mp distinct
  refine ⟨Multiset.coe_nodup.mp released, ?_⟩
  intro resource member gone
  exact Multiset.disjoint_left.mp disjoint member (Multiset.mem_coe.mpr gone)

/-- Everything that is acquired is released, exactly once. -/
def Balanced (entries : List (Entry ρ)) : Prop :=
  ∀ resource ∈ acquired entries, (released entries).count resource = 1

instance (entries : List (Entry ρ)) : Decidable (Balanced entries) :=
  inferInstanceAs (Decidable (∀ _ ∈ _, _))

/-- **Where nothing is acquired twice, a ledger is balanced exactly if nothing is held at
the end.** -/
theorem balanced_iff {held : Multiset ρ} {entries : List (Entry ρ)}
    (settled : settle 0 entries = some held) (once : (acquired entries).Nodup) :
    Balanced entries ↔ held = 0 := by
  have same := settle_conserves settled
  rw [Multiset.zero_add] at same
  have counts (resource : ρ) (member : resource ∈ acquired entries) :
      held.count resource + (released entries).count resource = 1 := by
    rw [← Multiset.coe_count, ← Multiset.count_add, ← same, Multiset.coe_count]
    exact List.count_eq_one_of_mem once member
  constructor
  · intro balanced
    apply Multiset.eq_zero_of_forall_notMem
    intro resource member
    have known : resource ∈ acquired entries := by
      rw [← Multiset.mem_coe, same]
      exact Multiset.mem_add.mpr (.inl member)
    have total := counts resource known
    rw [balanced resource known, Nat.add_eq_right] at total
    exact Multiset.count_ne_zero.mpr member total
  · intro empty resource member
    have total := counts resource member
    rwa [empty, Multiset.count_zero, Nat.zero_add] at total

end Ledger

end Library
