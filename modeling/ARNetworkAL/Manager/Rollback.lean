import ARNetworkAL.Library.Run
import ARNetworkAL.Manager.Resources
import ARNetworkAL.Manager.Transports

/-!
# Init and Close of WiFi

`InitWifiNetwork` calls `New`, `Connect` and `Bind` one after the other, as long as they
succeed, and `Delete` after the first that fails. `CloseWifiNetwork` calls `Delete`.

An `Init` that fails and a `Close` leave nothing behind, in any run of them
(`next_rolledBack`). The codes and the objects are those of the manager
(`initWifiNetwork_of`), the next `Init` does what the first one did (`initsAsNew`), and after
an `Init` that succeeds the objects are a connected sender and a bound receiver
(`initWifiNetwork_connects`).
-/

set_option autoImplicit false

namespace ARNetworkAL

open Library

namespace WifiNetwork

variable {w : ℕ}

/-- What the system answers to `InitWifiNetwork`, and the last parameter of the call. -/
structure InitAnswers (w : ℕ) where
  new : NewAnswers w
  connect : OpenAnswers
  bufferSize : ℤ
  bind : OpenAnswers
  recvTimeoutSec : UInt32

/-- The next function is called if the one before it succeeds. -/
def Outcome.andThen (outcome : Outcome w) (next : Objects w → Outcome w) : Outcome w :=
  if outcome.error = .ok then
    let further := next outcome.objects
    { further with entries := outcome.entries ++ further.entries }
  else outcome

/-- `ARNETWORKAL_Manager_InitWifiNetwork`; the address may be null. -/
def initWifiNetwork (addr : Option String) (answers : InitAnswers w) (objects : Objects w) :
    Option (Outcome w) :=
  let outcome :=
    if addr = none then ⟨.badParameter, objects, []⟩
    else
      ((new answers.new objects).andThen (connect answers.connect answers.bufferSize)).andThen
        (WifiNetwork.bind answers.bind answers.recvTimeoutSec)
  if outcome.error = .ok then some outcome
  else
    (delete outcome.objects).map fun deleted =>
      ⟨outcome.error, deleted.objects, outcome.entries ++ deleted.entries⟩

/-! ## What is kept -/

theorem Accounts.andThen {before : Objects w} {outcome : Outcome w}
    {next : Objects w → Outcome w} (accounts : Accounts before outcome)
    (further : outcome.error = .ok → Accounts outcome.objects (next outcome.objects)) :
    Accounts before (outcome.andThen next) := by
  rw [Outcome.andThen]
  split
  · rename_i ok
    exact Ledger.settle_trans accounts (further ok)
  · exact accounts

/-- What the objects hold is accounted for, and can be deleted. -/
structure Kept (before : Objects w) (outcome : Outcome w) : Prop where
  accounts : Accounts before outcome
  idle : outcome.objects.Idle

/-- **What is kept can be deleted, and then nothing is left.** -/
theorem Kept.delete {outcome : Outcome w} (kept : Kept .empty outcome) :
    ∃ deleted, delete outcome.objects = some deleted ∧ deleted.objects = .empty ∧
      Ledger.settle 0 (outcome.entries ++ deleted.entries) = some 0 :=
  ⟨_, delete_eq kept.idle, rfl, Ledger.settle_trans kept.accounts (Ledger.settle_releases _)⟩

theorem NewLeaves.kept {outcome : Outcome w} (leaves : NewLeaves outcome) :
    Kept .empty outcome :=
  ⟨leaves.accounts, fun sender found => (leaves.sender sender found).idle,
    fun receiver found => (leaves.receiver receiver found).idle⟩

theorem Kept.andThen {before : Objects w} {outcome : Outcome w} {next : Objects w → Outcome w}
    (kept : Kept before outcome)
    (further : outcome.error = .ok → Kept outcome.objects (next outcome.objects)) :
    Kept before (outcome.andThen next) := by
  refine ⟨kept.accounts.andThen fun ok => (further ok).accounts, ?_⟩
  rw [Outcome.andThen]
  split
  · rename_i ok
    exact (further ok).idle
  · exact kept.idle

/-- Two calls that succeed have both succeeded. -/
theorem Outcome.andThen_ok {outcome : Outcome w} {next : Objects w → Outcome w}
    (ok : (outcome.andThen next).error = .ok) :
    outcome.error = .ok ∧ (next outcome.objects).error = .ok ∧
      (outcome.andThen next).objects = (next outcome.objects).objects := by
  by_cases first : outcome.error = .ok
  · rw [Outcome.andThen, if_pos first] at ok ⊢
    exact ⟨first, ok, rfl⟩
  · rw [Outcome.andThen, if_neg first] at ok
    exact absurd ok first

section

variable (answers : InitAnswers w)

/-- `New` and `Connect` keep what they acquire. If they succeed, there is a sender, and a
receiver that was not opened yet. -/
theorem connected_kept :
    let outcome := (new answers.new .empty).andThen (connect answers.connect answers.bufferSize)
    Kept .empty outcome ∧ (outcome.error = .ok → outcome.objects.senderObject ≠ none ∧
      ∀ receiver, outcome.objects.receiverObject = some receiver → receiver.Unopened) := by
  intro outcome
  have created := new_leaves answers.new
  refine ⟨created.kept.andThen fun _ => ?_, ?_⟩
  · exact ⟨accounts_connect _ _ created.sender, connect_idle _ _ created.kept.idle⟩
  · intro ok
    obtain ⟨made, _, objects⟩ := Outcome.andThen_ok ok
    rw [objects, connect_receiver]
    exact ⟨connect_present _ _ (created.ok made).1, created.receiver⟩

/-- So does the rest of `Init`, whichever of the three functions fails. -/
theorem opening_kept :
    let outcome := ((new answers.new .empty).andThen
      (connect answers.connect answers.bufferSize)).andThen
        (WifiNetwork.bind answers.bind answers.recvTimeoutSec)
    Kept .empty outcome ∧ (outcome.error = .ok → outcome.objects.Installed) := by
  intro outcome
  obtain ⟨kept, ready⟩ := connected_kept answers
  refine ⟨kept.andThen fun ok => ?_, ?_⟩
  · exact ⟨accounts_bind _ _ (ready ok).2, bind_idle _ _ kept.idle⟩
  · intro ok
    obtain ⟨connected, _, objects⟩ := Outcome.andThen_ok ok
    rw [objects]
    exact .inl (bind_present _ _ (ready connected).1)

/-- **An `Init` of a manager without a transport returns.** It keeps what it acquires if it
succeeds, and otherwise leaves nothing. -/
theorem initWifiNetwork_kept (addr : Option String) :
    ∃ outcome, initWifiNetwork addr answers .empty = some outcome ∧ Kept .empty outcome ∧
      if outcome.error = .ok then outcome.objects.Installed else outcome.objects = .empty := by
  obtain ⟨outcome, whole, kept, installed⟩ : ∃ outcome : Outcome w,
      (if addr = none then ⟨.badParameter, .empty, []⟩
        else ((new answers.new .empty).andThen
          (connect answers.connect answers.bufferSize)).andThen
            (WifiNetwork.bind answers.bind answers.recvTimeoutSec)) = outcome ∧
        Kept .empty outcome ∧ (outcome.error = .ok → outcome.objects.Installed) := by
    split
    · exact ⟨_, rfl, ⟨rfl, idle_empty⟩, nofun⟩
    · exact ⟨_, rfl, opening_kept answers⟩
  simp only [initWifiNetwork, whole]
  by_cases ok : outcome.error = .ok
  · rw [if_pos ok]
    exact ⟨outcome, rfl, kept, by rw [if_pos ok]; exact installed ok⟩
  · obtain ⟨deleted, gone, empty, settled⟩ := kept.delete
    rw [if_neg ok, gone]
    refine ⟨_, rfl, ?_, by rw [if_neg ok]; exact empty⟩
    simp only [empty]
    exact ⟨settled, idle_empty⟩

end

/-! ## An Init that succeeds -/

theorem new_ok {answers : NewAnswers w} {objects : Objects w}
    (ok : (new answers objects).error = .ok) :
    (new answers objects).objects =
      ⟨some ⟨answers.senderObject.address,
          newSender answers.senderObject.object answers.senderBuffer⟩,
        some ⟨answers.receiverObject.address,
          newReceiver answers.receiverObject.object answers.receiverBuffer⟩⟩ := by
  simp only [new] at ok ⊢
  split at ok
  · cases ok
  · rename_i senderObject
    rw [if_neg senderObject]
    split at ok
    · cases ok
    · rename_i senderBuffer
      rw [if_neg senderBuffer]
      split at ok
      · cases ok
      · rename_i receiverObject
        rw [if_neg receiverObject]
        split at ok
        · cases ok
        · rename_i receiverBuffer
          rw [if_neg receiverBuffer]

/-- Without an error there are a socket and a pipe. -/
theorem OpenAnswers.ok {answers : OpenAnswers} (ok : answers.outline.error = .ok) :
    ∃ socket pipe, answers = ⟨some socket, some pipe, none⟩ := by
  obtain ⟨socket, pipe, failure⟩ := answers
  cases socket with
  | none =>
      cases pipe with
      | none => cases ok
      | some fds => cases ok
  | some fd =>
      cases pipe with
      | none => cases ok
      | some fds =>
          cases failure with
          | none => exact ⟨fd, fds, rfl⟩
          | some errno => cases errno <;> cases ok

/-- **An `Init` that succeeds leaves a connected sender and a bound receiver.** -/
theorem initWifiNetwork_connects {addr : Option String} {answers : InitAnswers w}
    {objects : Objects w} {outcome : Outcome w}
    (returned : initWifiNetwork addr answers objects = some outcome)
    (ok : outcome.error = .ok) :
    ∃ (socket socket' : ℕ) (pipe pipe' : ℕ × ℕ),
      answers.connect = ⟨some socket, some pipe, none⟩ ∧
      answers.bind = ⟨some socket', some pipe', none⟩ ∧
      outcome.objects =
        ⟨some ⟨answers.new.senderObject.address,
            (newSender answers.new.senderObject.object answers.new.senderBuffer).connected
              socket (pipe.1, pipe.2) answers.bufferSize⟩,
          some ⟨answers.new.receiverObject.address,
            (newReceiver answers.new.receiverObject.object answers.new.receiverBuffer).bound
              socket' (pipe'.1, pipe'.2) answers.recvTimeoutSec⟩⟩ := by
  cases addr with
  | none =>
      simp only [initWifiNetwork, if_true, reduceCtorEq, if_false] at returned
      obtain ⟨_, _, rfl⟩ := Option.map_eq_some_iff.mp returned
      cases ok
  | some addr =>
      simp only [initWifiNetwork, reduceCtorEq, if_false] at returned
      split at returned
      · cases returned
        obtain ⟨connected, bound, final⟩ := Outcome.andThen_ok ok
        obtain ⟨made, opened, middle⟩ := Outcome.andThen_ok connected
        rw [new_ok made] at opened middle
        rw [middle] at bound final
        obtain ⟨socket, pipe, given⟩ := OpenAnswers.ok opened
        obtain ⟨socket', pipe', given'⟩ := OpenAnswers.ok bound
        refine ⟨socket, socket', pipe, pipe', given, given', ?_⟩
        rw [final, given, given']
        rfl
      · rename_i failed
        obtain ⟨_, _, rfl⟩ := Option.map_eq_some_iff.mp returned
        exact absurd ok failed

/-! ## The objects of a manager -/

/-- A manager whose objects are these. -/
structure Objects.Of (objects : Objects w) (manager : Manager) : Prop where
  sender : manager.senderObject = objects.senderObject.map fun _ => .wifi
  receiver : manager.receiverObject = objects.receiverObject.map fun _ => .wifi

/-- The answers without addresses and descriptors. -/
def InitAnswers.outline (answers : InitAnswers w) : WifiAnswers where
  senderObject := decide (answers.new.senderObject.address ≠ 0)
  senderBuffer := decide (answers.new.senderBuffer ≠ 0)
  receiverObject := decide (answers.new.receiverObject.address ≠ 0)
  receiverBuffer := decide (answers.new.receiverBuffer ≠ 0)
  connect := answers.connect.outline
  bind := answers.bind.outline

section

variable {objects : Objects w} {manager : Manager} (answers : InitAnswers w)

theorem new_of (shown : objects.Of manager) :
    (new answers.new objects).error = (manager.wifiNetworkNew answers.outline).1 ∧
      (new answers.new objects).objects.Of (manager.wifiNetworkNew answers.outline).2 := by
  simp only [new, Manager.wifiNetworkNew, InitAnswers.outline, decide_eq_false_iff_not, not_not]
  split
  · exact ⟨rfl, rfl, shown.receiver⟩
  · split
    · exact ⟨rfl, rfl, shown.receiver⟩
    · split
      · exact ⟨rfl, rfl, rfl⟩
      · split
        · exact ⟨rfl, rfl, rfl⟩
        · exact ⟨rfl, rfl, rfl⟩

theorem connect_of (shown : objects.Of manager) (answers : OpenAnswers) (bufferSize : ℤ) :
    (connect answers bufferSize objects).error = manager.wifiNetworkConnect answers.outline ∧
      (connect answers bufferSize objects).objects.Of manager := by
  obtain ⟨senderObject, receiverObject⟩ := objects
  rw [Manager.wifiNetworkConnect, shown.sender]
  cases senderObject with
  | none => exact ⟨rfl, shown⟩
  | some sender => exact ⟨rfl, shown.sender, shown.receiver⟩

theorem bind_of (shown : objects.Of manager) (answers : OpenAnswers) (timeoutSec : UInt32) :
    (bind answers timeoutSec objects).error = manager.wifiNetworkBind answers.outline ∧
      (bind answers timeoutSec objects).objects.Of manager := by
  obtain ⟨senderObject, receiverObject⟩ := objects
  rw [Manager.wifiNetworkBind, shown.receiver]
  cases receiverObject with
  | none => exact ⟨rfl, shown⟩
  | some receiver => exact ⟨rfl, shown.sender, shown.receiver⟩

theorem delete_of {deleted : Outcome w} (returned : delete objects = some deleted) :
    deleted.objects.Of manager.wifiNetworkDelete := by
  simp only [delete, Option.bind_eq_some_iff, Option.map_eq_some_iff] at returned
  obtain ⟨_, _, _, _, rfl⟩ := returned
  exact ⟨rfl, rfl⟩

/-- The code of a function decides whether the next one is called. -/
theorem Outcome.andThen_of {outcome : Outcome w} {next : Objects w → Outcome w}
    {further : ErrorCode} (shown : outcome.objects.Of manager)
    (rest : (next outcome.objects).error = further ∧ (next outcome.objects).objects.Of manager) :
    (outcome.andThen next).error = (if outcome.error = .ok then further else outcome.error) ∧
      (outcome.andThen next).objects.Of manager := by
  rw [Outcome.andThen]
  split
  · exact rest
  · exact ⟨rfl, shown⟩

/-- **An `Init` that returns has the code and the objects that the manager has.** -/
theorem initWifiNetwork_of (shown : objects.Of manager) {addr : Option String}
    {outcome : Outcome w} (returned : initWifiNetwork addr answers objects = some outcome) :
    outcome.error = (manager.initWifiNetwork addr answers.outline).1 ∧
      outcome.objects.Of (manager.initWifiNetwork addr answers.outline).2 := by
  cases addr with
  | none =>
      simp only [initWifiNetwork, if_true, reduceCtorEq, if_false] at returned
      obtain ⟨deleted, gone, rfl⟩ := Option.map_eq_some_iff.mp returned
      exact ⟨rfl, show deleted.objects.Of _ from delete_of gone⟩
  | some addr =>
      simp only [initWifiNetwork, Manager.initWifiNetwork, reduceCtorEq, if_false] at returned ⊢
      obtain ⟨made, created⟩ := new_of answers shown
      obtain ⟨connected, opened⟩ :=
        Outcome.andThen_of created (connect_of created answers.connect answers.bufferSize)
      obtain ⟨bound, ready⟩ :=
        Outcome.andThen_of opened (bind_of opened answers.bind answers.recvTimeoutSec)
      rw [connected, made] at bound
      rw [show answers.outline.connect = answers.connect.outline from rfl,
        show answers.outline.bind = answers.bind.outline from rfl, ← bound]
      split at returned
      · rename_i ok
        cases returned
        rw [if_pos ok]
        exact ⟨ok, ready.sender, ready.receiver⟩
      · rename_i failed
        obtain ⟨deleted, gone, rfl⟩ := Option.map_eq_some_iff.mp returned
        rw [if_neg failed]
        exact ⟨rfl, show deleted.objects.Of _ from delete_of gone⟩

end

/-- `InitWifiNetwork` does to a manager what it does to a new one, whatever operation pointers
are left in it. -/
structure InitsAsNew (manager : Manager) : Prop where
  error : ∀ addr answers, (manager.initWifiNetwork addr answers).1 =
    (Manager.new.initWifiNetwork addr answers).1
  senderObject : ∀ addr answers, (manager.initWifiNetwork addr answers).2.senderObject =
    (Manager.new.initWifiNetwork addr answers).2.senderObject
  receiverObject : ∀ addr answers, (manager.initWifiNetwork addr answers).2.receiverObject =
    (Manager.new.initWifiNetwork addr answers).2.receiverObject
  /-- An `Init` that succeeds leaves nothing of what was there. -/
  installed : ∀ addr answers, (manager.initWifiNetwork addr answers).1 = .ok →
    (manager.initWifiNetwork addr answers).2 = (Manager.new.initWifiNetwork addr answers).2

theorem initsAsNew (manager : Manager) : InitsAsNew manager := by
  have succeeds : ∀ addr answers, (manager.initWifiNetwork addr answers).1 = .ok →
      (manager.initWifiNetwork addr answers).2 =
        (Manager.new.initWifiNetwork addr answers).2 := by
    intro addr answers ok
    obtain ⟨given, succeed⟩ := Manager.succeed_of_initWifiNetwork ok
    rw [Manager.initWifiNetwork_ok given succeed, Manager.initWifiNetwork_ok given succeed]
    exact Manager.install_wifi manager .new
  have objects : ∀ addr answers,
      (manager.initWifiNetwork addr answers).2 = (Manager.new.initWifiNetwork addr answers).2 ∨
        (manager.initWifiNetwork addr answers).2 = manager.withoutObjects ∧
          (Manager.new.initWifiNetwork addr answers).2 = Manager.new.withoutObjects := by
    intro addr answers
    by_cases ok : (manager.initWifiNetwork addr answers).1 = .ok
    · exact .inl (succeeds addr answers ok)
    · have fails : ¬ (addr ≠ none ∧ answers.Succeed) := by
        rintro ⟨given, succeed⟩
        rw [Manager.initWifiNetwork_ok given succeed] at ok
        exact ok rfl
      exact .inr ⟨Manager.initWifiNetwork_failed fails manager,
        Manager.initWifiNetwork_failed fails .new⟩
  refine ⟨?_, ?_, ?_, succeeds⟩
  · intro addr answers
    exact Manager.initWifiNetwork_error addr answers manager .new
  · intro addr answers
    rcases objects addr answers with same | ⟨gone, gone'⟩
    · rw [same]
    · rw [gone, gone']
      rfl
  · intro addr answers
    rcases objects addr answers with same | ⟨gone, gone'⟩
    · rw [same]
    · rw [gone, gone']
      rfl

/-! ## Runs of Init and Close -/

/-- The calls on a manager. -/
inductive Call (w : ℕ) where
  | initWifiNetwork (addr : Option String) (answers : InitAnswers w)
  | closeWifiNetwork

/-- The objects of a manager, and the ledger of all calls so far. -/
structure State (w : ℕ) where
  objects : Objects w
  entries : List (Entry (Resource w))

/-- A manager after `ARNETWORKAL_Manager_New`. -/
def start : State w := ⟨.empty, []⟩

namespace Call

/-- What a call does, if it returns. -/
def outcome (objects : Objects w) : Call w → Option (Outcome w)
  | initWifiNetwork addr answers => WifiNetwork.initWifiNetwork addr answers objects
  | closeWifiNetwork => delete objects

/-- The state after a call. -/
def next (state : State w) (call : Call w) : Option (State w) :=
  (call.outcome state.objects).map fun outcome =>
    ⟨outcome.objects, state.entries ++ outcome.entries⟩

/-- `Init` is called only while no transport is installed. -/
def Allowed (state : State w) : Call w → Prop
  | initWifiNetwork _ _ => ¬ state.objects.Installed
  | closeWifiNetwork => True

/-- A call that leaves no transport: `Close`, or an `Init` that returns an error. -/
def Leaves (call : Call w) (error : ErrorCode) : Prop :=
  match call with
  | initWifiNetwork _ _ => error ≠ .ok
  | closeWifiNetwork => True

end Call

namespace State

/-- The ledger of the calls accounts for what the objects hold. -/
structure Inv (state : State w) : Prop where
  settled : Ledger.settle 0 state.entries = some (state.objects.owned : Multiset (Resource w))
  idle : state.objects.Idle

/-- Nothing is left of the calls so far: the objects are gone, each release was of something
held at that moment, and what was acquired was released, as often as it was acquired. -/
structure RolledBack (state : State w) : Prop where
  objects : state.objects = .empty
  settled : Ledger.settle 0 state.entries = some 0
  balanced : (Ledger.acquired state.entries).Perm (Ledger.released state.entries)

theorem Inv.rolledBack {state : State w} (inv : state.Inv) (empty : state.objects = .empty) :
    state.RolledBack := by
  have settled := inv.settled
  rw [empty] at settled
  exact ⟨empty, settled, Ledger.settle_balanced settled⟩

end State

theorem Objects.eq_empty {objects : Objects w} (absent : ¬ objects.Installed) :
    objects = .empty := by
  obtain ⟨senderObject, receiverObject⟩ := objects
  obtain ⟨sender, receiver⟩ := not_or.mp absent
  cases not_not.mp sender
  cases not_not.mp receiver
  rfl

/-- What a call keeps extends what the calls before it have kept. -/
theorem Kept.inv {state : State w} {outcome : Outcome w} (kept : Kept state.objects outcome)
    (inv : state.Inv) : State.Inv ⟨outcome.objects, state.entries ++ outcome.entries⟩ :=
  ⟨Ledger.settle_trans inv.settled kept.accounts, kept.idle⟩

/-- An allowed call returns and keeps what it acquires. If it leaves no transport, the objects
are gone. -/
theorem Call.outcome_kept {state : State w} {call : Call w} (inv : state.Inv)
    (allowed : call.Allowed state) :
    ∃ outcome, call.outcome state.objects = some outcome ∧ Kept state.objects outcome ∧
      (call.Leaves outcome.error → outcome.objects = .empty) := by
  cases call with
  | initWifiNetwork addr answers =>
      rw [Objects.eq_empty allowed]
      obtain ⟨outcome, returned, kept, left⟩ := initWifiNetwork_kept answers addr
      refine ⟨outcome, returned, kept, ?_⟩
      intro failed
      rwa [if_neg failed] at left
  | closeWifiNetwork =>
      refine ⟨_, delete_eq inv.idle, ⟨Ledger.settle_releases _, idle_empty⟩, fun _ => rfl⟩

theorem Call.next_inv {state after : State w} {call : Call w} (inv : state.Inv)
    (taken : restrict Call.Allowed (enabled Call.next) state call after) : after.Inv := by
  obtain ⟨allowed, returned⟩ := taken
  obtain ⟨outcome, given, kept, _⟩ := outcome_kept inv allowed
  simp only [enabled, next, given, Option.map_some, Option.some.injEq] at returned
  rw [← returned]
  exact kept.inv inv

theorem start_inv : (start : State w).Inv := ⟨rfl, idle_empty⟩

/-- **Every call returns, and whatever leaves no transport leaves nothing else behind.** -/
theorem next_rolledBack {state : State w} {calls : List (Call w)}
    (run : Run (restrict Call.Allowed (enabled Call.next)) start calls state) {call : Call w}
    (allowed : call.Allowed state) :
    ∃ outcome after, call.outcome state.objects = some outcome ∧
      call.next state = some after ∧
        (call.Leaves outcome.error → after.RolledBack ∧
          (∀ addr answers, initWifiNetwork addr answers after.objects =
            initWifiNetwork addr answers (start : State w).objects) ∧
          ∀ manager, after.objects.Of manager → InitsAsNew manager) := by
  have inv := run.invariant State.Inv (fun _ _ _ => Call.next_inv) start_inv
  obtain ⟨outcome, returned, kept, empty⟩ := Call.outcome_kept inv allowed
  refine ⟨outcome, _, returned, by rw [Call.next, returned, Option.map_some], ?_⟩
  intro leaves
  have gone := empty leaves
  refine ⟨(kept.inv inv).rolledBack gone, ?_, ?_⟩
  · intro addr answers
    exact congrArg _ gone
  · intro manager _
    exact initsAsNew manager

/-- What the system answers when `Bind` gets no socket. The pipe is created all the same. -/
def withoutReceivingSocket : InitAnswers 64 where
  new := ⟨⟨0x1000, .cleared 64⟩, 0x2000, ⟨0x3000, .cleared 64⟩, 0x4000⟩
  connect := ⟨some 3, some (4, 5), none⟩
  bufferSize := 212992
  bind := ⟨none, some (6, 7), none⟩
  recvTimeoutSec := 1

/-- An `Init` that fails there. -/
def failing : Call 64 := .initWifiNetwork (some "192.168.42.1") withoutReceivingSocket

/-- It is called twice. -/
theorem next_rolledBack_twice :
    ∃ middle after : State 64, Call.next start failing = some middle ∧ middle.RolledBack ∧
      Call.next middle failing = some after ∧ after.RolledBack := by
  have absent : ¬ (Objects.empty : Objects 64).Installed :=
    not_or.mpr ⟨not_not.mpr rfl, not_not.mpr rfl⟩
  have error : ∀ outcome, failing.outcome .empty = some outcome → failing.Leaves outcome.error := by
    rintro _ ⟨⟩
    exact nofun
  obtain ⟨outcome, middle, returned, first, rolledBack⟩ :=
    next_rolledBack (.nil start) (show failing.Allowed start from absent)
  have empty := (rolledBack (error outcome returned)).1
  have again : ¬ middle.objects.Installed := by
    rw [empty.objects]
    exact absent
  obtain ⟨outcome', after, returned', second, rolledBack'⟩ :=
    next_rolledBack (.single ⟨show failing.Allowed start from absent, first⟩)
      (show failing.Allowed middle from again)
  rw [empty.objects] at returned'
  exact ⟨middle, after, first, empty, second, (rolledBack' (error outcome' returned')).1⟩

end WifiNetwork

end ARNetworkAL
