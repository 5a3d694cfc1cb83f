import ARNetworkAL.Library.Run
import Mathlib.Data.List.Flatten

/-!
# Channels over media

A `Medium` says what may happen to a sequence of messages on its way: nothing, some of them
being lost, or anything short of a message that was never sent. It is a preorder on lists
that concatenation and the replacement of each message by others respect.

A `Channel` records what was put in, what is inside, and what was taken out at the other
end. Whatever its steps, what was taken and what is inside are what the medium may make of
what was put in (`Channel.conserves`).
-/

set_option autoImplicit false

namespace Library

universe u

/-- What may become of a list of messages: `le after before`. -/
structure Medium where
  le : {μ : Type u} → List μ → List μ → Prop
  refl : ∀ {μ : Type u} (messages : List μ), le messages messages
  trans : ∀ {μ : Type u} {first second third : List μ},
    le first second → le second third → le first third
  append : ∀ {μ : Type u} {first second first' second' : List μ},
    le first first' → le second second' → le (first ++ second) (first' ++ second')
  flatMap : ∀ {μ ν : Type u} {after before : List μ} (f : μ → List ν),
    le after before → le (after.flatMap f) (before.flatMap f)
  subset : ∀ {μ : Type u} {after before : List μ}, le after before → after ⊆ before

namespace Medium

/-- Everything arrives, in order. -/
def reliable : Medium.{u} where
  le := Eq
  refl := fun _ => rfl
  trans := Eq.trans
  append := fun first second => by rw [first, second]
  flatMap := fun f same => by rw [same]
  subset := fun same => by rw [same]; exact List.Subset.refl _

/-- What arrives is in order, and once. -/
def lossy : Medium.{u} where
  le := List.Sublist
  refl := List.Sublist.refl
  trans := List.Sublist.trans
  append := List.Sublist.append
  flatMap := fun f kept => kept.flatMap f
  subset := List.Sublist.subset

/-- What arrives was sent. -/
def unordered : Medium.{u} where
  le := List.Subset
  refl := List.Subset.refl
  trans := List.Subset.trans
  append := fun first second => List.append_subset.mpr
    ⟨List.subset_append_of_subset_left _ first, List.subset_append_of_subset_right _ second⟩
  flatMap := fun f included => by
    intro message member
    obtain ⟨source, sent, from_source⟩ := List.mem_flatMap.mp member
    exact List.mem_flatMap.mpr ⟨source, included sent, from_source⟩
  subset := id

/-- A medium that may lose anything. -/
def Loses (M : Medium.{u}) : Prop := ∀ {μ : Type u} (messages : List μ), M.le [] messages

theorem unordered_loses : unordered.Loses := List.nil_subset

variable {M : Medium.{u}} {μ : Type u}

theorem append_left (before : List μ) {after after' : List μ} (kept : M.le after after') :
    M.le (before ++ after) (before ++ after') :=
  M.append (M.refl before) kept

theorem append_right {before before' : List μ} (kept : M.le before before') (after : List μ) :
    M.le (before ++ after) (before' ++ after) :=
  M.append kept (M.refl after)

/-- The first messages are lost. -/
theorem Loses.drop_left (loses : M.Loses) (lost rest : List μ) : M.le rest (lost ++ rest) :=
  M.append_right (loses lost) rest

end Medium

/-- What was put in, what is inside, and what was taken out, each in order. -/
structure Channel (μ : Type u) where
  put : List μ
  inside : List μ
  taken : List μ

namespace Channel

variable {μ : Type u}

/-- Nothing was put in. -/
def empty : Channel μ := ⟨[], [], []⟩

/-- What can happen to a channel: a message is put in, the first one is taken out, or the
medium leaves this of what is inside. -/
inductive Move (μ : Type u) where
  | put (message : μ)
  | take (message : μ)
  | disturb (left : List μ)

/-- The moves of a channel. -/
inductive Step (M : Medium.{u}) : Channel μ → Move μ → Channel μ → Prop where
  | put (channel : Channel μ) (message : μ) :
      Step M channel (.put message)
        ⟨channel.put ++ [message], channel.inside ++ [message], channel.taken⟩
  | take {channel : Channel μ} {message : μ} {rest : List μ} :
      channel.inside = message :: rest →
        Step M channel (.take message) ⟨channel.put, rest, channel.taken ++ [message]⟩
  | disturb {channel : Channel μ} {left : List μ} :
      M.le left channel.inside →
        Step M channel (.disturb left) ⟨channel.put, left, channel.taken⟩

/-- One channel leads to another. -/
def Leads (M : Medium.{u}) (channel after : Channel μ) : Prop :=
  ∃ moves, Run (Step M) channel moves after

variable {M : Medium.{u}}

namespace Leads

theorem refl (channel : Channel μ) : Leads M channel channel := ⟨[], .nil channel⟩

theorem trans {first second third : Channel μ} (start : Leads M first second)
    (rest : Leads M second third) : Leads M first third := by
  obtain ⟨moves, run⟩ := start
  obtain ⟨others, run'⟩ := rest
  exact ⟨moves ++ others, run.append run'⟩

theorem of_step {channel after : Channel μ} {move : Move μ} (taken : Step M channel move after) :
    Leads M channel after :=
  ⟨[move], .single taken⟩

/-- What is inside may become anything that the medium allows. -/
theorem disturb {put inside taken left : List μ} (kept : M.le left inside) :
    Leads M ⟨put, inside, taken⟩ ⟨put, left, taken⟩ :=
  of_step (show Step M ⟨put, inside, taken⟩ _ _ from .disturb kept)

theorem put (put inside taken : List μ) (message : μ) :
    Leads M ⟨put, inside, taken⟩ ⟨put ++ [message], inside ++ [message], taken⟩ :=
  of_step (.put ⟨put, inside, taken⟩ message)

theorem take (put rest taken : List μ) (message : μ) :
    Leads M ⟨put, message :: rest, taken⟩ ⟨put, rest, taken ++ [message]⟩ :=
  of_step (.take rfl)

end Leads

/-- The medium accounts for what was put in. -/
def Accounts (M : Medium.{u}) (channel : Channel μ) : Prop :=
  M.le (channel.taken ++ channel.inside) channel.put

/-- What every move preserves. -/
theorem Accounts.step {channel after : Channel μ} {move : Move μ}
    (accounts : channel.Accounts M) (taken : Step M channel move after) : after.Accounts M := by
  cases taken with
  | put message =>
      have longer := M.append_right accounts [message]
      rwa [List.append_assoc] at longer
  | take first =>
      rw [Accounts, first] at accounts
      rw [Accounts, List.append_assoc]
      exact accounts
  | disturb kept => exact M.trans (M.append_left channel.taken kept) accounts

/-- **What was taken out and what is inside are what the medium may make of what was put
in.** -/
theorem conserves {channel : Channel μ} (leads : Leads M empty channel) : channel.Accounts M := by
  obtain ⟨moves, run⟩ := leads
  refine run.invariant (Accounts M) ?_ (M.refl [])
  intro before move after accounts taken
  exact accounts.step taken

end Channel

namespace Run

variable {μ : Type u} {M : Medium.{u}} {σ ι : Type*} {step : σ → ι → σ → Prop}

/-- **A system whose every step leads its view of a channel on** leads it on over whole
runs. The invariant holds at both ends. -/
theorem leads (Inv : σ → Prop) (view : σ → Channel μ)
    (simulated : ∀ s label t, Inv s → step s label t →
      Inv t ∧ Channel.Leads M (view s) (view t))
    {s t : σ} {labels : List ι} (run : Run step s labels t) (initial : Inv s) :
    Inv t ∧ Channel.Leads M (view s) (view t) := by
  induction run with
  | nil s => exact ⟨initial, .refl _⟩
  | cons taken _ ih =>
      obtain ⟨kept, first⟩ := simulated _ _ _ initial taken
      obtain ⟨final, rest⟩ := ih kept
      exact ⟨final, first.trans rest⟩

end Run

end Library
