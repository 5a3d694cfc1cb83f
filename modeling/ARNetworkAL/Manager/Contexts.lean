import ARNetworkAL.Library.Account
import ARNetworkAL.Library.Run
import ARNetworkAL.Manager.PublicCalls
import Mathlib.Algebra.Order.Group.Multiset
import Mathlib.Tactic.Abel

/-!
# The context of a mux

Java gives `initMuxNetwork` a reference to a mux and releases it before it returns. The object
that `InitMuxNetwork` allocates keeps a reference to the context of its own, until
`CloseMuxNetwork` releases it and frees the object.

So the context is there as long as the object is. But `InitMuxNetwork` puts an object in the
place of another one, and `dispose` frees the manager alone, and either loses the object with
its reference. `CloseMuxNetwork` reads an object that may not be there, and so does `Unlock`
after it, which is still called through the manager (`contexts_accounted`).
-/

set_option autoImplicit false

namespace ARNetworkAL

open Library Accounting

namespace MuxNetwork

namespace Contexts

/-- What is acquired: the reference that Java makes, one to a context, the memory of an
object. -/
inductive Reference where
  | muxRef
  | context
  | block
  deriving DecidableEq, Repr

/-- An object, with what it holds. -/
structure Held where
  block : Reference × ℕ
  context : Reference × ℕ
  deriving DecidableEq, Repr

/-- A Java manager: whether it has a native one, the object there, whether its operation `unlock`
is set, and the objects that were lost. -/
structure Holder where
  manager : Bool
  senderObject : Option Held
  unlock : Bool
  lost : List Held
  deriving DecidableEq, Repr

/-- `ARNETWORKAL_Manager_InitMuxNetwork`, by whether `calloc` succeeds. -/
def initMuxNetwork (allocated : Bool) (holder : Holder) :
    Accounting Reference (ErrorCode × Holder) :=
  if allocated then do
    let block ← acquire .block
    let context ← acquire .context
    pure (.ok,
      { holder with
        senderObject := some ⟨block, context⟩
        unlock := true
        lost := holder.senderObject.toList ++ holder.lost })
  else pure (.alloc, holder)

/-- `nativeInitMuxNetwork`. Without a manager or a context it has nothing to do. -/
def nativeInitMuxNetwork (muxCtx allocated : Bool) (holder : Holder) :
    Accounting Reference (ErrorCode × Holder) :=
  if holder.manager ∧ muxCtx then initMuxNetwork allocated holder else pure (.ok, holder)

/-- `ARNETWORKAL_Manager_CloseMuxNetwork`. -/
def closeMuxNetwork (holder : Holder) : Accounting Reference (ErrorCode × Holder) :=
  if holder.manager then
    match holder.senderObject with
    | none => crash
    | some held => do
        release held.context
        release held.block
        pure (.ok, { holder with senderObject := none })
  else pure (.badParameter, holder)

/-- `ARNETWORKAL_Manager_Unlock`, with `ARNETWORKAL_MuxNetwork_Unlock`. -/
def unlock (holder : Holder) : Accounting Reference (ErrorCode × Holder) :=
  if holder.manager then
    if holder.unlock then
      match holder.senderObject with
      | none => crash
      | some _ => pure (.ok, holder)
    else pure (.managerOperationNotSupported, holder)
  else pure (.badParameter, holder)

/-- The calls on a Java manager; `initMuxNetwork` with whether the mux is null, and whether its
context is. -/
inductive ContextCall where
  | initMuxNetwork (mux muxCtx allocated : Bool)
  | unlock
  | closeMuxNetwork
  | dispose
  deriving DecidableEq, Repr

/-- What a call returns and does. -/
def ContextCall.program (holder : Holder) :
    ContextCall → Accounting Reference (ErrorCode × Holder)
  | .initMuxNetwork mux muxCtx allocated =>
      if mux then do
        let muxRef ← acquire .muxRef
        let result ← nativeInitMuxNetwork muxCtx allocated holder
        release muxRef
        pure result
      else pure (.generic, holder)
  | .unlock => Contexts.unlock holder
  | .closeMuxNetwork => Contexts.closeMuxNetwork holder
  | .dispose =>
      if holder.manager then
        pure (.ok, ⟨false, none, false, holder.senderObject.toList ++ holder.lost⟩)
      else pure (.ok, holder)

/-- A manager with the account of what its calls did. -/
structure ContextSession where
  holder : Holder
  account : Account Reference

namespace ContextSession

/-- The constructor has returned, with a native manager or without. -/
def start (manager : Bool) : ContextSession := ⟨⟨manager, none, false, []⟩, .opened⟩

/-- The session after a call that does not crash. -/
def next (s : ContextSession) (call : ContextCall) : Option ContextSession :=
  (call.program s.holder s.account).map fun after => ⟨after.1.2, after.2⟩

end ContextSession

/-! ## The native manager -/

/-- The native manager of a Java one, on which nothing but these calls was made. -/
def Holder.toManager (holder : Holder) : Option Manager :=
  if holder.manager then
    let manager := if holder.unlock then Manager.new.install .mux else .new
    some (if holder.senderObject.isSome then manager.withObjects .mux else manager)
  else none

/-- What a call returns and does by the model of the native manager, which may be null. -/
def ContextCall.onManager (manager : Option Manager) :
    ContextCall → Option (ErrorCode × Option Manager)
  | .initMuxNetwork mux muxCtx allocated =>
      if mux then
        match manager with
        | none => some (.ok, none)
        | some manager =>
            let (error, manager) := manager.nativeInitMuxNetwork muxCtx allocated
            some (error, some manager)
      else some (.generic, manager)
  | .unlock =>
      match manager with
      | none => some (.badParameter, none)
      | some manager => (manager.unlock true).map fun error => (error, some manager)
  | .closeMuxNetwork =>
      match manager with
      | none => some (.badParameter, none)
      | some manager => manager.closeMuxNetwork.map fun manager => (.ok, some manager)
  | .dispose => some (.ok, none)

/-- Installing a transport again changes nothing. -/
theorem install_install (manager : Manager) (transport : Transport) :
    (manager.install transport).install transport = manager.install transport := by
  simp only [Manager.install, Manager.mk.injEq, and_self, and_true]
  funext operation
  split
  · rfl
  · rfl

/-- **A call returns what the manager's model returns**, leaves the manager that it leaves, and
crashes where it does. -/
theorem program_onManager (holder : Holder) (call : ContextCall) (account : Account Reference) :
    (call.program holder account).map (fun after => (after.1.1, after.1.2.toManager)) =
      call.onManager holder.toManager := by
  obtain ⟨manager, senderObject, unlock, lost⟩ := holder
  cases call with
  | initMuxNetwork mux muxCtx allocated =>
      cases mux with
      | false => rfl
      | true =>
          cases manager with
          | false => rfl
          | true =>
              cases muxCtx with
              | false => rfl
              | true =>
                  cases allocated with
                  | false => rfl
                  | true =>
                      cases unlock with
                      | false => cases senderObject <;> rfl
                      | true =>
                          have again := congrArg
                            (fun manager => some (ErrorCode.ok, some (manager.withObjects .mux)))
                            (install_install .new .mux).symm
                          cases senderObject <;> exact again
  | unlock =>
      cases manager with
      | false => rfl
      | true => cases unlock <;> cases senderObject <;> rfl
  | closeMuxNetwork =>
      cases manager with
      | false => rfl
      | true => cases unlock <;> cases senderObject <;> rfl
  | dispose => cases manager <;> rfl

/-! ## What is held -/

/-- What an object holds. -/
def Held.owned (held : Held) : Multiset (Reference × ℕ) := {held.block} + {held.context}

/-- What is held for a manager, the objects included that it lost. -/
def Holder.owned (holder : Holder) : Multiset (Reference × ℕ) :=
  (holder.senderObject.elim 0 Held.owned) + (holder.lost.map Held.owned).sum

/-- An object that is lost is still held. -/
theorem sum_owned (senderObject : Option Held) (lost : List Held) :
    ((senderObject.toList ++ lost).map Held.owned).sum =
      senderObject.elim 0 Held.owned + (lost.map Held.owned).sum := by
  cases senderObject with
  | none => simp
  | some held => simp

section

variable (holder : Holder)

theorem nativeInitMuxNetwork_triple (muxCtx allocated : Bool) :
    Triple holder.owned (nativeInitMuxNetwork muxCtx allocated holder) fun result =>
      result.2.owned := by
  rw [nativeInitMuxNetwork]
  split
  · rw [initMuxNetwork]
    split
    · refine .acquire_bind fun block => .acquire_bind fun context => .pure ?_
      simp only [Holder.owned, sum_owned, Option.elim_some, Held.owned]
      abel
    · exact .pure rfl
  · exact .pure rfl

theorem closeMuxNetwork_triple :
    Triple holder.owned (closeMuxNetwork holder) fun result => result.2.owned := by
  obtain ⟨manager, senderObject, unlock, lost⟩ := holder
  rw [closeMuxNetwork]
  split
  · cases senderObject with
    | none => exact .crash
    | some held =>
        have held_first : Holder.owned ⟨manager, some held, unlock, lost⟩ =
            {held.context} + ({held.block} + (lost.map Held.owned).sum) := by
          simp only [Holder.owned, Option.elim_some, Held.owned]
          abel
        refine .release_bind held_first (.release_bind rfl (.pure ?_))
        simp only [Holder.owned, Option.elim_none, zero_add]
  · exact .pure rfl

theorem unlock_triple : Triple holder.owned (unlock holder) fun result => result.2.owned := by
  rw [unlock]
  split
  · split
    · split
      · exact .crash
      · exact .pure rfl
    · exact .pure rfl
  · exact .pure rfl

/-- **A call accounts for what it does.** -/
theorem program_triple (call : ContextCall) :
    Triple holder.owned (call.program holder) fun result => result.2.owned := by
  cases call with
  | initMuxNetwork mux muxCtx allocated =>
      rw [ContextCall.program]
      split
      · refine .acquire_bind fun muxRef => ?_
        refine (((nativeInitMuxNetwork_triple holder muxCtx allocated).frame {muxRef}).congr
          (add_comm _ _) fun _ => rfl).bind ?_
        intro result
        exact .release_bind (add_comm _ _) (.pure rfl)
      · exact .pure rfl
  | unlock => exact unlock_triple holder
  | closeMuxNetwork => exact closeMuxNetwork_triple holder
  | dispose =>
      rw [ContextCall.program]
      split
      · refine .pure ?_
        simp only [Holder.owned, sum_owned, Option.elim_none, zero_add]
      · exact .pure rfl

/-! ## What a call loses, and what it cannot do -/

/-- The object that a call no longer refers to, and does not free. -/
def ContextCall.loses : ContextCall → List Held
  | .initMuxNetwork mux muxCtx allocated =>
      if mux ∧ (holder.manager ∧ muxCtx) ∧ allocated then holder.senderObject.toList else []
  | .dispose => if holder.manager then holder.senderObject.toList else []
  | .unlock | .closeMuxNetwork => []

/-- A call reads an object that is not there. -/
def ContextCall.Dangles : ContextCall → Prop
  | .unlock => holder.manager ∧ holder.unlock ∧ holder.senderObject = none
  | .closeMuxNetwork => holder.manager ∧ holder.senderObject = none
  | .initMuxNetwork _ _ _ | .dispose => False

theorem nativeInitMuxNetwork_lost (muxCtx allocated : Bool) :
    Ensures (nativeInitMuxNetwork muxCtx allocated holder) fun result =>
      result.2.lost = (if (holder.manager ∧ muxCtx) ∧ allocated then
        holder.senderObject.toList else []) ++ holder.lost := by
  rw [nativeInitMuxNetwork]
  by_cases given : holder.manager ∧ muxCtx
  · rw [if_pos given, initMuxNetwork]
    cases allocated with
    | true =>
        refine (Ensures.any _).bind fun block _ => (Ensures.any _).bind fun context _ => .pure ?_
        rw [if_pos ⟨given, rfl⟩]
    | false =>
        refine .pure ?_
        rw [if_neg fun both => Bool.false_ne_true both.2]
        rfl
  · rw [if_neg given]
    refine .pure ?_
    rw [if_neg fun both => given both.1]
    rfl

/-- **An object is lost by `initMuxNetwork` and by `dispose`**, and by nothing else. -/
theorem program_lost (call : ContextCall) :
    Ensures (call.program holder) fun result =>
      result.2.lost = call.loses holder ++ holder.lost := by
  cases call with
  | initMuxNetwork mux muxCtx allocated =>
      rw [ContextCall.program, ContextCall.loses]
      cases mux with
      | true =>
          refine (Ensures.any _).bind fun muxRef _ => ?_
          refine (nativeInitMuxNetwork_lost holder muxCtx allocated).bind fun result lost => ?_
          refine (Ensures.any _).bind fun _ _ => .pure ?_
          simpa only [true_and] using lost
      | false => exact .pure rfl
  | unlock =>
      rw [ContextCall.program, Contexts.unlock]
      split
      · split
        · split
          · exact .crash
          · exact .pure rfl
        · exact .pure rfl
      · exact .pure rfl
  | closeMuxNetwork =>
      rw [ContextCall.program, Contexts.closeMuxNetwork]
      split
      · split
        · exact .crash
        · exact (Ensures.any _).bind fun _ _ => (Ensures.any _).bind fun _ _ => .pure rfl
      · exact .pure rfl
  | dispose =>
      rw [ContextCall.program, ContextCall.loses]
      split
      · exact .pure rfl
      · exact .pure rfl

/-- **A call crashes exactly if it reads an object that is not there.** -/
theorem program_eq_none_iff (call : ContextCall) (account : Account Reference) :
    call.program holder account = none ↔ call.Dangles holder := by
  obtain ⟨manager, senderObject, unlock, lost⟩ := holder
  cases call with
  | initMuxNetwork mux muxCtx allocated =>
      cases mux <;> cases manager <;> cases muxCtx <;> cases allocated <;>
        exact iff_of_false (Option.some_ne_none _) id
  | unlock =>
      cases manager with
      | false =>
          refine iff_of_false (Option.some_ne_none _) fun dangles => ?_
          exact Bool.false_ne_true dangles.1
      | true =>
          cases unlock with
          | false =>
              refine iff_of_false (Option.some_ne_none _) fun dangles => ?_
              exact Bool.false_ne_true dangles.2.1
          | true =>
              cases senderObject with
              | none => exact iff_of_true rfl ⟨rfl, rfl, rfl⟩
              | some held =>
                  refine iff_of_false (Option.some_ne_none _) fun dangles => ?_
                  exact Option.some_ne_none held dangles.2.2
  | closeMuxNetwork =>
      cases manager with
      | false =>
          refine iff_of_false (Option.some_ne_none _) fun dangles => ?_
          exact Bool.false_ne_true dangles.1
      | true =>
          cases senderObject with
          | none => exact iff_of_true rfl ⟨rfl, rfl⟩
          | some held =>
              refine iff_of_false (Option.some_ne_none _) fun dangles => ?_
              exact Option.some_ne_none held dangles.2
  | dispose => cases manager <;> exact iff_of_false (Option.some_ne_none _) id

end

namespace ContextSession

/-! ## A session -/

variable {s t : ContextSession} {call : ContextCall}

/-- The account holds what the manager has. -/
def Sound (s : ContextSession) : Prop := s.account.Holds s.holder.owned

theorem start_sound (manager : Bool) : (start manager).Sound := Account.Holds.opened

theorem next_sound (sound : s.Sound) (taken : s.next call = some t) : t.Sound := by
  obtain ⟨⟨⟨error, holder⟩, account⟩, ran, rfl⟩ := Option.map_eq_some_iff.mp taken
  have left := program_triple s.holder call s.account 0 (by rwa [add_zero]) _ account ran
  rwa [add_zero] at left

/-- The next call loses an object. -/
def Loses (s : ContextSession) (call : ContextCall) : Prop := call.loses s.holder ≠ []

theorem next_lost (taken : s.next call = some t) :
    t.holder.lost ≠ [] ↔ s.holder.lost ≠ [] ∨ s.Loses call := by
  obtain ⟨⟨⟨error, holder⟩, account⟩, ran, rfl⟩ := Option.map_eq_some_iff.mp taken
  rw [show holder.lost = _ from program_lost s.holder call s.account _ account ran, Loses, ne_eq,
    List.append_eq_nil_iff]
  tauto

/-- The steps of the native manager. -/
def onManager (manager : Option Manager) (call : ContextCall) : Option (Option Manager) :=
  (call.onManager manager).map Prod.snd

/-- **A session is a run of the manager's model.** -/
theorem run_onManager {calls : List ContextCall} (ran : Run (enabled next) s calls t) :
    Run (enabled onManager) s.holder.toManager calls t.holder.toManager := by
  have simulated : ∀ s call t, True → enabled next s call t →
      True ∧ enabled onManager s.holder.toManager (id call) t.holder.toManager := by
    intro s call t _ taken
    obtain ⟨after, finished, rfl⟩ := Option.map_eq_some_iff.mp taken
    have same := program_onManager s.holder call s.account
    rw [finished] at same
    refine ⟨trivial, ?_⟩
    rw [enabled, id_eq, onManager, ← same]
    rfl
  have viewed := (ran.simulate (fun _ => True) (fun s => s.holder.toManager) id simulated trivial).2
  rwa [List.map_id] at viewed

/-- One of the calls loses an object. -/
def Lost (manager : Bool) (calls : List ContextCall) : Prop :=
  ∃ before call after s, calls = before ++ call :: after ∧
    Run (enabled next) (start manager) before s ∧ s.Loses call

end ContextSession

/-- Nothing is held exactly without an object, if none was lost. -/
theorem owned_eq_zero_iff (holder : Holder) :
    holder.owned = 0 ↔ holder.senderObject = none ∧ holder.lost = [] := by
  obtain ⟨manager, senderObject, unlock, lost⟩ := holder
  have something : ∀ held more, ¬ Held.owned held + more = 0 := by
    intro held more nothing
    have member : held.block ∈ Held.owned held + more := by simp [Held.owned]
    rw [nothing] at member
    exact Multiset.notMem_zero _ member
  cases senderObject with
  | some held => exact iff_of_false (something held _) fun both => Option.some_ne_none held both.1
  | none =>
      cases lost with
      | nil => exact iff_of_true rfl ⟨rfl, rfl⟩
      | cons held rest =>
          refine iff_of_false ?_ fun both => List.cons_ne_nil _ _ both.2
          simpa [Holder.owned] using something held (rest.map Held.owned).sum

/-- **The references to a context.** After any calls, the native manager is the one that its model
has after them, and the next call crashes exactly if it reads an object that is not there. The
context of the object is held, so that no call uses one that was released, and nothing was
released twice. All was released exactly if the object was closed and none was lost. -/
theorem contexts_accounted {manager : Bool} {calls : List ContextCall} {session : ContextSession}
    (ran : Run (enabled ContextSession.next) (.start manager) calls session) :
    Run (enabled ContextSession.onManager) (ContextSession.start manager).holder.toManager calls
        session.holder.toManager ∧
      (∀ call, session.next call = none ↔ call.Dangles session.holder) ∧
      (∀ held ∈ session.holder.senderObject,
        held.context ∈ Ledger.acquired session.account.entries ∧
          held.context ∉ Ledger.released session.account.entries) ∧
      (Ledger.released session.account.entries).Nodup ∧
      (Ledger.Balanced session.account.entries ↔
        session.holder.senderObject = none ∧ ¬ ContextSession.Lost manager calls) := by
  have sound : session.Sound :=
    ran.invariant ContextSession.Sound
      (fun _ _ _ sound taken => ContextSession.next_sound sound taken)
      (ContextSession.start_sound manager)
  refine ⟨ContextSession.run_onManager ran, ?_, ?_, sound.releasedOnce.1, ?_⟩
  · intro call
    rw [ContextSession.next, Option.map_eq_none_iff]
    exact program_eq_none_iff session.holder call session.account
  · intro held present
    have member : held.context ∈ session.holder.owned := by
      rw [Holder.owned, Option.mem_def.mp present]
      simp [Held.owned]
    have conserved := Ledger.settle_conserves sound.settled
    rw [zero_add] at conserved
    refine ⟨?_, sound.releasedOnce.2 _ member⟩
    rw [← Multiset.mem_coe, conserved]
    exact Multiset.mem_add.mpr (.inl member)
  · have lost := ran.holds_iff_of_enabled (P := fun session => session.holder.lost ≠ [])
      (Q := ContextSession.Loses) fun _ _ _ taken => ContextSession.next_lost taken
    rw [sound.balanced_iff, owned_eq_zero_iff]
    refine and_congr_right fun _ => ?_
    rw [← not_iff_not, not_not, ← ne_eq, lost]
    exact or_iff_right fun fresh => fresh rfl

/-- A mux is installed, its channel closed, and the object closed. -/
def closedCalls : List ContextCall :=
  [.initMuxNetwork true true true, .unlock, .closeMuxNetwork]

/-- Where calls lead a manager. -/
def reachedBy (calls : List ContextCall) : ContextSession :=
  (calls.foldlM ContextSession.next (.start true)).getD (.start true)

/-- All was released, and closing again or `unlock` would read an object that is not there. -/
theorem contexts_accounted_closed :
    Ledger.Balanced (reachedBy closedCalls).account.entries ∧
      (reachedBy closedCalls).next .closeMuxNetwork = none ∧
      (reachedBy closedCalls).next .unlock = none := by
  have ran : Run (enabled ContextSession.next) (.start true) closedCalls
      (reachedBy closedCalls) := Run.enabled_iff.mpr rfl
  have accounted := contexts_accounted ran
  refine ⟨by decide, ?_, ?_⟩
  · exact (accounted.2.1 .closeMuxNetwork).mpr ⟨rfl, rfl⟩
  · exact (accounted.2.1 .unlock).mpr ⟨rfl, rfl, rfl⟩

end Contexts

end MuxNetwork

end ARNetworkAL
