import ARNetworkAL.Library.Ledger

/-!
# Programs that acquire and release

A program in the monad `Accounting` acquires resources of some kinds, releases them, and may
crash. Each acquisition gives a resource a number of its own, and an account keeps the ledger
of what was done.

`Triple held program left` says that a program that starts with the resources `held` releases
only what it has, and ends with `left` of its result, unless it crashes. Whatever else is held
does not matter (`Triple.frame`), so the triple of a function is used wherever it is called.
-/

set_option autoImplicit false

namespace Library

universe u v

/-- The number of the next resource, and the ledger so far. -/
structure Account (κ : Type u) where
  number : ℕ
  entries : List (Entry (κ × ℕ))

namespace Account

variable {κ : Type u}

/-- Nothing was acquired yet. -/
def opened : Account κ := ⟨0, []⟩

variable [DecidableEq κ]

/-- The ledger settles on these resources, and every number was given once. -/
structure Holds (account : Account κ) (held : Multiset (κ × ℕ)) : Prop where
  settled : Ledger.settle 0 account.entries = some held
  named : (Ledger.acquired account.entries).map Prod.snd = List.range account.number

namespace Holds

variable {account : Account κ} {held : Multiset (κ × ℕ)}

theorem opened : (opened : Account κ).Holds 0 := ⟨rfl, rfl⟩

/-- Nothing is acquired twice. -/
theorem acquiredOnce (holds : account.Holds held) : (Ledger.acquired account.entries).Nodup := by
  have distinct : ((Ledger.acquired account.entries).map Prod.snd).Nodup := by
    rw [holds.named]
    exact List.nodup_range
  exact distinct.of_map

/-- **What is acquired is released once at most, and not while it is held.** -/
theorem releasedOnce (holds : account.Holds held) :
    (Ledger.released account.entries).Nodup ∧
      ∀ resource ∈ held, resource ∉ Ledger.released account.entries :=
  Ledger.released_nodup holds.settled holds.acquiredOnce

/-- **Everything was released exactly if nothing is held.** -/
theorem balanced_iff (holds : account.Holds held) :
    Ledger.Balanced account.entries ↔ held = 0 :=
  Ledger.balanced_iff holds.settled holds.acquiredOnce

end Holds

end Account

/-! ## Programs -/

/-- Programs over an account that may crash. -/
abbrev Accounting (κ : Type u) := StateT (Account κ) Option

namespace Accounting

variable {κ : Type u} {α β : Type u}

/-- A resource of a kind is acquired. -/
def acquire (kind : κ) : Accounting κ (κ × ℕ) := fun account =>
  some ((kind, account.number),
    ⟨account.number + 1, account.entries ++ [.acquire (kind, account.number)]⟩)

/-- A resource is released. -/
def release (resource : κ × ℕ) : Accounting κ PUnit := fun account =>
  some (⟨⟩, ⟨account.number, account.entries ++ [.release resource]⟩)

/-- Nothing is defined from here on. -/
def crash : Accounting κ α := fun _ => none

/-! ## Results -/

/-- What the program returns, unless it crashes. -/
def Ensures (program : Accounting κ α) (post : α → Prop) : Prop :=
  ∀ account result after, program account = some (result, after) → post result

namespace Ensures

variable {program : Accounting κ α} {post : α → Prop}

theorem any (program : Accounting κ α) : Ensures program fun _ => True :=
  fun _ _ _ _ => trivial

theorem crash : Ensures (crash : Accounting κ α) post := by
  intro account result after ran
  cases ran

theorem pure {result : α} (holds : post result) : Ensures (pure result : Accounting κ α) post := by
  intro account other after ran
  cases ran
  exact holds

/-- One program after another. -/
theorem bind {next : α → Accounting κ β} {final : β → Prop} (first : Ensures program post)
    (rest : ∀ result, post result → Ensures (next result) final) :
    Ensures (program >>= next) final := by
  intro account result after ran
  obtain ⟨⟨middle, reached⟩, taken, further⟩ := Option.bind_eq_some_iff.mp ran
  exact rest middle (first account middle reached taken) reached result after further

end Ensures

/-! ## Resources -/

variable [DecidableEq κ]

/-- From `held` the program releases only what it has, and ends with `left` of its result. -/
def Triple (held : Multiset (κ × ℕ)) (program : Accounting κ α)
    (left : α → Multiset (κ × ℕ)) : Prop :=
  ∀ account others, Account.Holds account (held + others) →
    ∀ result after, program account = some (result, after) → after.Holds (left result + others)

namespace Triple

variable {held more : Multiset (κ × ℕ)} {program : Accounting κ α}
  {left : α → Multiset (κ × ℕ)}

theorem acquire (kind : κ) : Triple 0 (acquire kind) fun resource => {resource} := by
  intro account others holds result after ran
  cases ran
  rw [Multiset.zero_add] at holds
  refine ⟨?_, ?_⟩
  · rw [Ledger.settle_append, holds.settled, Multiset.singleton_add]
    rfl
  · rw [Ledger.acquired_append, List.map_append, holds.named, List.range_succ]
    rfl

theorem release (resource : κ × ℕ) : Triple {resource} (release resource) fun _ => 0 := by
  intro account others holds result after ran
  cases ran
  rw [Multiset.zero_add]
  refine ⟨?_, ?_⟩
  · rw [Ledger.settle_append, holds.settled, Multiset.singleton_add]
    exact Ledger.settle_release others resource []
  · rw [Ledger.acquired_append, List.map_append, holds.named]
    exact List.append_nil _

theorem crash : Triple held (crash : Accounting κ α) left := by
  intro account others holds result after ran
  cases ran

theorem pure {result : α} (same : held = left result) :
    Triple held (pure result : Accounting κ α) left := by
  intro account others holds other after ran
  cases ran
  rwa [← same]

/-- One program after another, which may use what the first one ensures. -/
theorem bind_of {post : α → Prop} {next : α → Accounting κ β} {final : β → Multiset (κ × ℕ)}
    (first : Triple held program left) (ensures : Ensures program post)
    (rest : ∀ result, post result → Triple (left result) (next result) final) :
    Triple held (program >>= next) final := by
  intro account others holds result after ran
  obtain ⟨⟨middle, reached⟩, taken, further⟩ := Option.bind_eq_some_iff.mp ran
  have met := ensures account middle reached taken
  exact rest middle met reached others (first account others holds middle reached taken) result
    after further

theorem bind {next : α → Accounting κ β} {final : β → Multiset (κ × ℕ)}
    (first : Triple held program left) (rest : ∀ result, Triple (left result) (next result) final) :
    Triple held (program >>= next) final :=
  first.bind_of (.any program) fun result _ => rest result

/-- **What else is held does not matter.** -/
theorem frame (triple : Triple held program left) (more : Multiset (κ × ℕ)) :
    Triple (held + more) program fun result => left result + more := by
  intro account others holds result after ran
  rw [Multiset.add_assoc] at holds ⊢
  exact triple account (more + others) holds result after ran

/-- The resources may be written otherwise. -/
theorem congr {held' : Multiset (κ × ℕ)} {left' : α → Multiset (κ × ℕ)}
    (triple : Triple held program left) (start : held' = held)
    (finish : ∀ result, left result = left' result) : Triple held' program left' := by
  intro account others holds result after ran
  rw [start] at holds
  rw [← finish]
  exact triple account others holds result after ran

/-- An acquisition, among other resources, and then the rest. -/
theorem acquire_bind {kind : κ} {next : κ × ℕ → Accounting κ α}
    (rest : ∀ resource, Triple ({resource} + held) (next resource) left) :
    Triple held (Accounting.acquire kind >>= next) left := by
  have acquired := ((Triple.acquire kind).frame held).congr (Multiset.zero_add held).symm
    fun _ => rfl
  exact acquired.bind rest

/-- A release, among other resources, and then the rest. -/
theorem release_bind {resource : κ × ℕ} {next : PUnit → Accounting κ α}
    (same : held = {resource} + more) (rest : Triple more (next ⟨⟩) left) :
    Triple held (Accounting.release resource >>= next) left := by
  have released := ((Triple.release resource).frame more).congr same
    fun _ => Multiset.zero_add more
  exact released.bind fun _ => rest

end Triple

end Accounting

end Library
