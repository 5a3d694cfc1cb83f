import ARNetworkAL.Manager.Rollback

/-!
# The Java manager

`ARNetworkALManager` keeps the address of a C manager from its constructor to `dispose`, and
hands it to the native functions, which may find it null. Through it a process acquires the block
of the manager, the dump file, the characters of the strings it passes, and what WiFi acquires.

A call is undefined that hands a null string to `GetStringUTFChars`. An argument that is null may
also end a call by an exception, and so may a string whose characters cannot be had.

Two calls lose something. `InitWifiNetwork` puts new objects in the place of those that are
there, and `Manager_Delete` frees a manager without looking at its transport. Everything else is
accounted for by the fields of the manager, and nothing is lost in a session exactly if neither
of the two finds a transport installed (`facade_accounted`).
-/

set_option autoImplicit false

namespace ARNetworkAL

open Library

variable {w : ℕ}

/-! ## Init over a transport -/

namespace WifiNetwork

/-- `New` gets as far as the receiver. -/
def NewAnswers.Reaches (answers : NewAnswers w) : Prop :=
  answers.senderObject.address ≠ 0 ∧ answers.senderBuffer ≠ 0

instance (answers : NewAnswers w) : Decidable answers.Reaches := inferInstanceAs (Decidable (_ ∧ _))

/-- What `New` loses: the objects that it puts others in the place of. -/
def lostByNew (answers : NewAnswers w) (objects : Objects w) : List (Resource w) :=
  objects.senderObject.elim [] Allocated.owned ++
    if answers.Reaches then objects.receiverObject.elim [] Allocated.owned else []

/-- `New` does what it does without a transport, and keeps a receiver that it does not reach. -/
theorem new_over (answers : NewAnswers w) (objects : Objects w) :
    (new answers objects).error = (new answers .empty).error ∧
      (new answers objects).entries = (new answers .empty).entries ∧
      (new answers objects).objects.senderObject = (new answers .empty).objects.senderObject ∧
      ((new answers .empty).error = .ok → answers.Reaches) ∧
      if answers.Reaches then
        (new answers objects).objects.receiverObject = (new answers .empty).objects.receiverObject
      else
        (new answers objects).objects.receiverObject = objects.receiverObject ∧
          (new answers .empty).objects.receiverObject = none := by
  by_cases address : answers.senderObject.address = 0
  · have stops : ¬ answers.Reaches := fun reaches => reaches.1 address
    simp only [new, if_pos address, if_neg stops]
    simp [Objects.empty]
  · by_cases buffer : answers.senderBuffer = 0
    · have stops : ¬ answers.Reaches := fun reaches => reaches.2 buffer
      simp only [new, if_neg address, if_pos buffer, if_neg stops]
      simp [Objects.empty]
    · have reaches : answers.Reaches := ⟨address, buffer⟩
      simp only [new, if_neg address, if_neg buffer, if_pos reaches]
      split
      · simp [reaches]
      · split
        · simp [reaches]
        · simp [reaches]

/-- What `New` acquires and what is there are what it leaves and what it loses. -/
theorem settle_new (answers : NewAnswers w) (objects : Objects w) :
    Ledger.settle (objects.owned : Multiset (Resource w)) (new answers objects).entries =
      some (((new answers objects).objects.owned : Multiset (Resource w)) +
        (lostByNew answers objects : Multiset (Resource w))) := by
  obtain ⟨-, entries, sender, -, receiver⟩ := new_over answers objects
  have settled := Ledger.settle_frame (new_leaves answers).accounts
    (objects.owned : Multiset (Resource w))
  rw [show (Objects.empty : Objects w).owned = [] from rfl, Multiset.coe_nil,
    Multiset.zero_add] at settled
  rw [entries, settled]
  simp only [Objects.owned, lostByNew, sender]
  split at receiver
  · rename_i reaches
    rw [receiver, if_pos reaches, Multiset.coe_add]
  · rename_i stops
    rw [receiver.1, receiver.2, if_neg stops]
    simp only [Option.elim_none, List.append_nil, Multiset.coe_add]
    refine congrArg some (Multiset.coe_eq_coe.mpr ?_)
    rw [List.append_assoc]
    exact List.perm_append_comm.append_left _

/-- What `Init` loses. Without an address it does not get to `New`. -/
def lostByInit (addr : Option String) (answers : InitAnswers w) (objects : Objects w) :
    List (Resource w) :=
  if addr = none then [] else lostByNew answers.new objects

/-- There is no transport, or a sender at least. -/
def Objects.Whole (objects : Objects w) : Prop := objects = .empty ∨ objects.senderObject ≠ none

/-- An `Init` whose `New` succeeds does what it does without a transport. -/
theorem initWifiNetwork_of_new_ok {answers : InitAnswers w} {objects : Objects w}
    (made : (new answers.new objects).error = .ok) (addr : String) :
    initWifiNetwork (some addr) answers objects = initWifiNetwork (some addr) answers .empty := by
  obtain ⟨error, entries, -, -, -⟩ := new_over answers.new objects
  have same : new answers.new objects = new answers.new .empty := by
    have first := new_ok made
    have second := new_ok (error.symm.trans made)
    generalize new answers.new objects = outcome at *
    generalize new answers.new .empty = other at *
    obtain ⟨_, _, _⟩ := outcome
    obtain ⟨_, _, _⟩ := other
    simp only at error entries first second
    rw [error, entries, first, second]
  simp only [initWifiNetwork, reduceCtorEq, if_false, same]

/-- **What `Init` acquires and what is there are what it leaves, what it releases and what it
loses**, whatever transport it finds. -/
theorem initWifiNetwork_over (answers : InitAnswers w) {objects : Objects w}
    (idle : objects.Idle) (addr : Option String) :
    ∃ outcome, initWifiNetwork addr answers objects = some outcome ∧ outcome.objects.Idle ∧
      outcome.objects.Whole ∧
      Ledger.settle (objects.owned : Multiset (Resource w)) outcome.entries =
        some ((outcome.objects.owned : Multiset (Resource w)) +
          (lostByInit addr answers objects : Multiset (Resource w))) := by
  cases addr with
  | none =>
      refine ⟨⟨.badParameter, .empty, objects.owned.map .release⟩, ?_, idle_empty, .inl rfl, ?_⟩
      · simp [initWifiNetwork, delete_eq idle]
      · exact Ledger.settle_releases _
  | some addr =>
      by_cases made : (new answers.new objects).error = .ok
      · obtain ⟨error, -, -, reaches, -⟩ := new_over answers.new objects
        obtain ⟨outcome, returned, kept, left⟩ := initWifiNetwork_kept answers (some addr)
        refine ⟨outcome, (initWifiNetwork_of_new_ok made addr).trans returned, kept.idle, ?_, ?_⟩
        · by_cases ok : outcome.error = .ok
          · obtain ⟨_, _, _, _, _, _, objects⟩ := initWifiNetwork_connects returned ok
            rw [objects]
            exact .inr (Option.some_ne_none _)
          · rw [if_neg ok] at left
            exact .inl left
        · have lost : lostByInit (some addr) answers objects = objects.owned := by
            rw [lostByInit, if_neg (Option.some_ne_none _), lostByNew,
              if_pos (reaches (error.symm.trans made)), Objects.owned]
          have settled := Ledger.settle_frame kept.accounts
            (objects.owned : Multiset (Resource w))
          rw [show (Objects.empty : Objects w).owned = [] from rfl, Multiset.coe_nil,
            Multiset.zero_add] at settled
          rw [lost, settled]
      · have created := new_leaves answers.new
        have idle' : (new answers.new objects).objects.Idle := by
          obtain ⟨-, -, sender, -, receiver⟩ := new_over answers.new objects
          refine ⟨?_, ?_⟩
          · intro allocated found
            exact (created.sender allocated (sender ▸ found)).idle
          · intro allocated found
            split at receiver
            · exact (created.receiver allocated (receiver ▸ found)).idle
            · exact idle.2 allocated (receiver.1 ▸ found)
        refine ⟨⟨(new answers.new objects).error, .empty, (new answers.new objects).entries ++
          (new answers.new objects).objects.owned.map .release⟩, ?_, idle_empty, .inl rfl, ?_⟩
        · simp [initWifiNetwork, Outcome.andThen, made, delete_eq idle']
        · have lost : lostByInit (some addr) answers objects = lostByNew answers.new objects :=
            if_neg (Option.some_ne_none _)
          have released := Ledger.settle_frame
            (Ledger.settle_releases (new answers.new objects).objects.owned)
            (lostByNew answers.new objects : Multiset (Resource w))
          rw [lost]
          exact Ledger.settle_trans (settle_new answers.new objects) released

end WifiNetwork

/-! ## The native functions -/

/-- What a process acquires through a Java manager. -/
inductive Acquired (w : ℕ) where
  | manager (address : BitVec w)
  | dumpFile (file : BitVec w)
  | characters (address : BitVec w)
  | wifi (resource : WifiNetwork.Resource w)
  deriving DecidableEq, Repr

/-- The block of a manager: its address, and the fields that hold something. -/
structure NativeManager (w : ℕ) where
  address : BitVec w
  objects : WifiNetwork.Objects w
  dumpFile : BitVec w

/-- The code that a function returns, the manager afterwards, and its ledger. -/
structure NativeOutcome (w : ℕ) where
  error : ErrorCode
  manager : Option (NativeManager w)
  entries : List (Entry (Acquired w))

/-- The characters that `GetStringUTFChars` gives, unless it fails. -/
def charactersOf (address : BitVec w) : List (Acquired w) :=
  if address = 0 then [] else [.characters address]

/-- A call between `GetStringUTFChars` and `ReleaseStringUTFChars`. -/
def NativeOutcome.within (characters : List (Acquired w)) (outcome : NativeOutcome w) :
    NativeOutcome w :=
  { outcome with
    entries := characters.map .acquire ++ outcome.entries ++ characters.map .release }

/-- What a function of WiFi does to a manager. -/
def NativeOutcome.ofWifi (block : NativeManager w) (outcome : WifiNetwork.Outcome w) :
    NativeOutcome w :=
  ⟨outcome.error, some { block with objects := outcome.objects },
    outcome.entries.map (Entry.map .wifi)⟩

namespace NativeManager

/-- `nativeNew`, with the address that `calloc` returns. -/
def nativeNew (address : BitVec w) : NativeOutcome w :=
  if address = 0 then ⟨.alloc, none, []⟩
  else ⟨.ok, some ⟨address, .empty, 0⟩, [.acquire (.manager address)]⟩

/-- `ARNETWORKAL_Manager_Delete`. -/
def delete (manager : NativeManager w) : List (Entry (Acquired w)) :=
  (if manager.dumpFile ≠ 0 then [.release (.dumpFile manager.dumpFile)] else []) ++
    [.release (.manager manager.address)]

/-- `ARNETWORKAL_Manager_EnableDataDump`, with whether the directory is there and what `fopen`
returns. -/
def enableDataDump (logDir name : BitVec w) (available : Bool) (file : BitVec w)
    (manager : Option (NativeManager w)) : NativeOutcome w :=
  match manager with
  | none => ⟨.badParameter, none, []⟩
  | some block =>
      if logDir = 0 ∨ name = 0 then ⟨.badParameter, some block, []⟩
      else if block.dumpFile ≠ 0 then ⟨.badParameter, some block, []⟩
      else if available = false then ⟨.badParameter, some block, []⟩
      -- a file that cannot be opened is no error
      else
        ⟨.ok, some { block with dumpFile := file },
          if file ≠ 0 then [.acquire (.dumpFile file)] else []⟩

/-- `ARNETWORKAL_Manager_DumpData`. -/
def dumpData (data : BitVec w) (manager : Option (NativeManager w)) : ErrorCode :=
  match manager with
  | none => .badParameter
  | some block => if data = 0 ∨ block.dumpFile = 0 then .badParameter else .ok

/-- `nativeInitWifiNetwork`. -/
def nativeInitWifiNetwork (addr : String) (characters : BitVec w)
    (answers : WifiNetwork.InitAnswers w) (manager : Option (NativeManager w)) :
    Option (NativeOutcome w) :=
  let native := if characters = 0 then none else some addr
  let outcome : Option (NativeOutcome w) :=
    match manager with
    | none => some ⟨.badParameter, none, []⟩
    | some block =>
        (WifiNetwork.initWifiNetwork native answers block.objects).map (.ofWifi block)
  outcome.map (NativeOutcome.within (charactersOf characters))

/-- `nativeCloseWifiNetwork`. -/
def nativeCloseWifiNetwork (manager : Option (NativeManager w)) : Option (NativeOutcome w) :=
  match manager with
  | none => some ⟨.badParameter, none, []⟩
  | some block => (WifiNetwork.delete block.objects).map (.ofWifi block)

/-- `nativeEnableDataDump`, with the characters of its strings. It is undefined where a string
is null, and where the second one is asked for its characters when an exception is pending. -/
def nativeEnableDataDump (logDir name : Option (BitVec w)) (available : Bool) (file : BitVec w)
    (manager : Option (NativeManager w)) : Option (NativeOutcome w) :=
  match logDir, name with
  | some logDir, some name =>
      if logDir = 0 then none
      else
        some ((enableDataDump logDir name available file manager).within
          (charactersOf logDir ++ charactersOf name))
  | _, _ => none

end NativeManager

/-! ## The Java object -/

open NativeManager

/-- `ARNetworkALManager`. The address that is null leads to no manager. -/
structure JavaManager (w : ℕ) where
  managerPtr : Option (NativeManager w)
  initOk : Bool

/-- A call on a Java manager, with what the system answers. An argument may be null, and a string
whose characters cannot be had has them at address zero. `finalize` calls `dispose`. -/
inductive FacadeCall (w : ℕ) where
  | initWifiNetwork (addr : Option String) (characters : BitVec w)
      (answers : WifiNetwork.InitAnswers w)
  | closeWifiNetwork
  | enableDataDump (logDir name : Option (BitVec w)) (available : Bool) (file : BitVec w)
  | dumpData (data : Option (BitVec w))
  | dispose

/-- What the native function did, and whether an exception is thrown instead of its code. -/
structure FacadeOutcome (w : ℕ) extends NativeOutcome w where
  thrown : Bool

namespace FacadeCall

/-- What becomes of a call, where that is defined. The exception that `GetStringUTFChars` leaves
pending is thrown when the native function has returned. -/
def outcome (java : JavaManager w) : FacadeCall w → Option (FacadeOutcome w)
  | initWifiNetwork none _ _ => some ⟨⟨.generic, java.managerPtr, []⟩, false⟩
  | initWifiNetwork (some addr) characters answers =>
      (nativeInitWifiNetwork addr characters answers java.managerPtr).map
        fun native => ⟨native, decide (characters = 0)⟩
  | closeWifiNetwork =>
      (nativeCloseWifiNetwork java.managerPtr).map fun native => ⟨native, false⟩
  | enableDataDump logDir name available file =>
      (nativeEnableDataDump logDir name available file java.managerPtr).map
        fun native => ⟨native, decide (name = some 0)⟩
  | dumpData none => some ⟨⟨.generic, java.managerPtr, []⟩, true⟩
  | dumpData (some data) =>
      some ⟨⟨NativeManager.dumpData data java.managerPtr, java.managerPtr, []⟩, false⟩
  | dispose =>
      if java.initOk then
        some ⟨⟨.ok, none, java.managerPtr.elim [] NativeManager.delete⟩, false⟩
      else some ⟨⟨.ok, java.managerPtr, []⟩, false⟩

/-- The behaviour of a call is defined. -/
def Defined : FacadeCall w → Prop
  | enableDataDump logDir name _ _ => logDir ≠ none ∧ logDir ≠ some 0 ∧ name ≠ none
  | _ => True

/-- A call finds a reference null that it follows in Java, or characters that it cannot have. -/
def Throws : FacadeCall w → Prop
  | initWifiNetwork addr characters _ => addr ≠ none ∧ characters = 0
  | enableDataDump _ name _ _ => name = some 0
  | dumpData data => data = none
  | _ => False

/-- The flag after a call. -/
def initOk (java : JavaManager w) : FacadeCall w → Bool
  | dispose => false
  | _ => java.initOk

/-- What a call loses. -/
def lost (java : JavaManager w) : FacadeCall w → List (WifiNetwork.Resource w)
  | initWifiNetwork (some addr) characters answers =>
      java.managerPtr.elim [] fun block =>
        WifiNetwork.lostByInit (if characters = 0 then none else some addr) answers block.objects
  | dispose => if java.initOk then java.managerPtr.elim [] (·.objects.owned) else []
  | _ => []

end FacadeCall

/-- A Java manager, the ledger of all calls so far, and what they have lost. -/
structure FacadeSession (w : ℕ) where
  java : JavaManager w
  entries : List (Entry (Acquired w))
  lost : Multiset (Acquired w)

namespace FacadeSession

/-- The constructor, with what `calloc` returns. -/
def start (address : BitVec w) : FacadeSession w :=
  let outcome := nativeNew address
  ⟨⟨outcome.manager, outcome.manager.isSome⟩, outcome.entries, 0⟩

/-- The session after a call. -/
def next (s : FacadeSession w) (call : FacadeCall w) : Option (FacadeSession w) :=
  (call.outcome s.java).map fun outcome =>
    ⟨⟨outcome.manager, call.initOk s.java⟩, s.entries ++ outcome.entries,
      s.lost + ((call.lost s.java).map .wifi : List (Acquired w))⟩

end FacadeSession

/-! ## What is held and what is lost -/

/-- The dump file of a manager, if it is open, and its block. -/
def NativeManager.own (manager : NativeManager w) : List (Acquired w) :=
  (if manager.dumpFile ≠ 0 then [.dumpFile manager.dumpFile] else []) ++ [.manager manager.address]

/-- What a manager holds with its transport. -/
def NativeManager.held (manager : NativeManager w) : List (Acquired w) :=
  manager.objects.owned.map .wifi ++ manager.own

/-- What a manager holds, if there is one. -/
def heldBy (manager : Option (NativeManager w)) : List (Acquired w) :=
  manager.elim [] NativeManager.held

/-- What can be called on: no thread is running, and there is a sender if there is a receiver. -/
def NativeManager.Ready (manager : NativeManager w) : Prop :=
  manager.objects.Idle ∧ manager.objects.Whole

/-- A call accounts for what it acquires, releases and loses, and leaves a manager ready. -/
structure FacadeAccounts (before : Option (NativeManager w)) (outcome : NativeOutcome w)
    (lost : List (WifiNetwork.Resource w)) : Prop where
  settled : Ledger.settle (heldBy before : Multiset (Acquired w)) outcome.entries =
    some ((heldBy outcome.manager : Multiset (Acquired w)) +
      (lost.map .wifi : List (Acquired w)))
  ready : ∀ block, outcome.manager = some block → block.Ready

section

variable {manager : Option (NativeManager w)} {block : NativeManager w}
  {outcome : NativeOutcome w} {lost : List (WifiNetwork.Resource w)}

/-- A call that acquires nothing leaves the manager. -/
theorem FacadeAccounts.unchanged (error : ErrorCode)
    (ready : ∀ block, manager = some block → block.Ready) :
    FacadeAccounts manager ⟨error, manager, []⟩ [] :=
  ⟨by simp, ready⟩

/-- Strings that are released again do not matter. -/
theorem FacadeAccounts.within (accounts : FacadeAccounts manager outcome lost)
    (characters : List (Acquired w)) : FacadeAccounts manager (outcome.within characters) lost :=
  ⟨Ledger.settle_bracket accounts.settled characters, accounts.ready⟩

/-- What WiFi accounts for is accounted for in a manager. -/
theorem FacadeAccounts.ofWifi {outcome : WifiNetwork.Outcome w}
    (settled : Ledger.settle (block.objects.owned : Multiset (WifiNetwork.Resource w))
      outcome.entries =
        some ((outcome.objects.owned : Multiset (WifiNetwork.Resource w)) +
          (lost : Multiset (WifiNetwork.Resource w))))
    (ready : outcome.objects.Idle ∧ outcome.objects.Whole) :
    FacadeAccounts (some block) (.ofWifi block outcome) lost := by
  refine ⟨?_, ?_⟩
  · have mapped := Ledger.settle_frame
      (Ledger.settle_map (fun _ _ same => Acquired.wifi.inj same) settled)
      (block.own : Multiset (Acquired w))
    rw [Multiset.map_add, Multiset.add_assoc,
      Multiset.add_comm (Multiset.map _ (lost : Multiset (WifiNetwork.Resource w))),
      ← Multiset.add_assoc] at mapped
    exact mapped
  · rintro _ ⟨⟩
    exact ready

theorem FacadeAccounts.initWifiNetwork (ready : ∀ block, manager = some block → block.Ready)
    (addr : String) (characters : BitVec w) (answers : WifiNetwork.InitAnswers w) :
    ∃ outcome, nativeInitWifiNetwork addr characters answers manager = some outcome ∧
      FacadeAccounts manager outcome (manager.elim [] fun block =>
        WifiNetwork.lostByInit (if characters = 0 then none else some addr) answers
          block.objects) ∧
      manager.isSome = outcome.manager.isSome := by
  cases manager with
  | none =>
      have unchanged := FacadeAccounts.unchanged .badParameter ready
      exact ⟨_, rfl, unchanged.within (charactersOf characters), rfl⟩
  | some block =>
      obtain ⟨idle, -⟩ := ready block rfl
      obtain ⟨outcome, returned, idle, whole, settled⟩ :=
        WifiNetwork.initWifiNetwork_over answers idle (if characters = 0 then none else some addr)
      refine ⟨_, ?_, .within (.ofWifi settled ⟨idle, whole⟩) (charactersOf characters), rfl⟩
      simp only [nativeInitWifiNetwork, returned, Option.map_some]

theorem FacadeAccounts.closeWifiNetwork (ready : ∀ block, manager = some block → block.Ready) :
    ∃ outcome, nativeCloseWifiNetwork manager = some outcome ∧
      FacadeAccounts manager outcome [] ∧ manager.isSome = outcome.manager.isSome := by
  cases manager with
  | none => exact ⟨_, rfl, .unchanged .badParameter ready, rfl⟩
  | some block =>
      obtain ⟨idle, -⟩ := ready block rfl
      have deleted := WifiNetwork.delete_eq idle
      refine ⟨.ofWifi block ⟨.ok, .empty, block.objects.owned.map .release⟩, ?_, .ofWifi ?_ ?_,
        rfl⟩
      · simp only [nativeCloseWifiNetwork, deleted, Option.map_some]
      · exact Ledger.settle_releases block.objects.owned
      · exact ⟨WifiNetwork.idle_empty, .inl rfl⟩

theorem FacadeAccounts.enableDataDump (ready : ∀ block, manager = some block → block.Ready)
    (logDir name : BitVec w) (available : Bool) (file : BitVec w) :
    FacadeAccounts manager (NativeManager.enableDataDump logDir name available file manager)
      [] := by
  cases manager with
  | none => exact .unchanged _ ready
  | some block =>
      simp only [NativeManager.enableDataDump]
      split
      · exact .unchanged _ ready
      · split
        · exact .unchanged _ ready
        · rename_i closed
          rw [not_not] at closed
          split
          · exact .unchanged _ ready
          · refine ⟨?_, ?_⟩
            · by_cases opened : file = 0
              · simp [heldBy, held, own, closed, opened]
              · have before : block.held =
                    block.objects.owned.map .wifi ++ [.manager block.address] := by
                  simp [held, own, closed]
                have after : ({ block with dumpFile := file } : NativeManager w).held =
                    block.objects.owned.map .wifi ++
                      .dumpFile file :: [.manager block.address] := by
                  simp only [held, own, if_pos (show file ≠ 0 from opened)]
                  rfl
                simp only [heldBy, Option.elim_some, before, after, if_pos opened,
                  Ledger.settle_acquire, Ledger.settle_nil, List.map_nil, Multiset.coe_nil,
                  Multiset.add_zero, Option.some.injEq]
                exact Multiset.coe_eq_coe.mpr List.perm_middle.symm
            · rintro _ ⟨⟩
              exact ready block rfl

theorem enableDataDump_isSome (logDir name : BitVec w) (available : Bool) (file : BitVec w) :
    manager.isSome =
      (NativeManager.enableDataDump logDir name available file manager).manager.isSome := by
  cases manager with
  | none => rfl
  | some block =>
      simp only [NativeManager.enableDataDump]
      split
      · rfl
      · split
        · rfl
        · split
          · rfl
          · rfl

theorem NativeManager.delete_eq (manager : NativeManager w) :
    manager.delete = manager.own.map .release := by
  rw [delete, own]
  split
  · rfl
  · rfl

/-- **What `dispose` frees is accounted for, and what the transport holds is lost.** -/
theorem FacadeAccounts.dispose (block : NativeManager w) :
    FacadeAccounts (some block) ⟨.ok, none, block.delete⟩ block.objects.owned := by
  have released := Ledger.settle_frame (Ledger.settle_releases block.own)
    (block.objects.owned.map .wifi : List (Acquired w))
  rw [Multiset.add_comm, Multiset.coe_add, ← block.delete_eq] at released
  refine ⟨released, ?_⟩
  intro _ gone
  exact absurd gone (Option.some_ne_none _).symm

end

namespace FacadeSession

/-- Every session is accounted for, and its manager can be called on. -/
structure Inv (s : FacadeSession w) : Prop where
  settled : Ledger.settle 0 s.entries =
    some ((heldBy s.java.managerPtr : Multiset (Acquired w)) + s.lost)
  ready : ∀ block, s.java.managerPtr = some block → block.Ready
  initOk : s.java.initOk = s.java.managerPtr.isSome

theorem start_inv (address : BitVec w) : (start address).Inv := by
  by_cases failed : address = 0
  · have nothing : nativeNew address = ⟨.alloc, none, []⟩ := if_pos failed
    rw [start, nothing]
    refine ⟨by simp [heldBy], ?_, rfl⟩
    intro _ absent
    exact absurd absent (Option.some_ne_none _).symm
  · have created : nativeNew address = ⟨.ok, some ⟨address, .empty, 0⟩, _⟩ := if_neg failed
    rw [start, created]
    refine ⟨?_, ?_, rfl⟩
    · simp [heldBy, NativeManager.held, NativeManager.own, WifiNetwork.Objects.owned,
        WifiNetwork.Objects.empty]
    · intro block same
      rw [← Option.some.inj same]
      exact ⟨WifiNetwork.idle_empty, .inl rfl⟩

variable {s after : FacadeSession w} {call : FacadeCall w}

/-- A call that is undefined has no outcome. -/
theorem outcome_undefined {java : JavaManager w} (undefined : ¬ call.Defined) :
    call.outcome java = none := by
  cases call with
  | enableDataDump logDir name available file =>
      rw [FacadeCall.outcome, Option.map_eq_none_iff, nativeEnableDataDump.eq_def]
      rcases logDir with _ | logDir
      · rfl
      · rcases name with _ | name
        · rfl
        · simpa [FacadeCall.Defined] using undefined
  | _ => exact absurd trivial undefined

/-- **Every call that is defined ends, by an exception or not, and accounts for what it does.** -/
theorem Inv.outcome (inv : s.Inv) (defined : call.Defined) :
    ∃ outcome, call.outcome s.java = some outcome ∧
      FacadeAccounts s.java.managerPtr outcome.toNativeOutcome (call.lost s.java) ∧
      call.initOk s.java = outcome.manager.isSome ∧ (outcome.thrown = true ↔ call.Throws) := by
  obtain ⟨settled, ready, initOk⟩ := inv
  cases call with
  | initWifiNetwork addr characters answers =>
      cases addr with
      | none =>
          refine ⟨_, rfl, .unchanged .generic ready, initOk, ?_⟩
          exact iff_of_false Bool.false_ne_true fun throws => throws.1 rfl
      | some addr =>
          obtain ⟨outcome, returned, accounts, kept⟩ :=
            FacadeAccounts.initWifiNetwork ready addr characters answers
          refine ⟨⟨outcome, decide (characters = 0)⟩, ?_, accounts, initOk.trans kept, ?_⟩
          · rw [FacadeCall.outcome, returned, Option.map_some]
          · simp [FacadeCall.Throws]
  | closeWifiNetwork =>
      obtain ⟨outcome, returned, accounts, kept⟩ := FacadeAccounts.closeWifiNetwork ready
      refine ⟨⟨outcome, false⟩, ?_, accounts, initOk.trans kept, ?_⟩
      · rw [FacadeCall.outcome, returned, Option.map_some]
      · exact iff_of_false Bool.false_ne_true id
  | enableDataDump logDir name available file =>
      obtain ⟨given, characters, given'⟩ := defined
      obtain ⟨logDir, rfl⟩ := Option.ne_none_iff_exists'.mp given
      obtain ⟨name, rfl⟩ := Option.ne_none_iff_exists'.mp given'
      have there : logDir ≠ 0 := fun zero => characters (congrArg some zero)
      refine ⟨⟨_, decide (some name = some 0)⟩, ?_,
        .within (.enableDataDump ready logDir name available file)
          (charactersOf logDir ++ charactersOf name),
        initOk.trans (enableDataDump_isSome logDir name available file), ?_⟩
      · simp only [FacadeCall.outcome, nativeEnableDataDump, if_neg there, Option.map_some,
          NativeOutcome.within]
      · simp [FacadeCall.Throws]
  | dumpData data =>
      cases data with
      | none => exact ⟨_, rfl, .unchanged _ ready, initOk, iff_of_true rfl rfl⟩
      | some data =>
          refine ⟨_, rfl, .unchanged _ ready, initOk, ?_⟩
          exact iff_of_false Bool.false_ne_true (Option.some_ne_none data)
  | dispose =>
      rcases held : s.java.managerPtr with _ | block
      · rw [held] at initOk
        have unchanged : FacadeAccounts (none : Option (NativeManager w)) ⟨.ok, none, []⟩ [] :=
          .unchanged .ok fun _ absent => absurd absent (Option.some_ne_none _).symm
        refine ⟨⟨⟨.ok, none, []⟩, false⟩, ?_, ?_, rfl, iff_of_false Bool.false_ne_true id⟩
        · simp [FacadeCall.outcome, initOk, held]
        · simpa [FacadeCall.lost, initOk] using unchanged
      · rw [held] at initOk
        refine ⟨⟨⟨.ok, none, block.delete⟩, false⟩, ?_, ?_, rfl,
          iff_of_false Bool.false_ne_true id⟩
        · simp [FacadeCall.outcome, initOk, held]
        · simpa [FacadeCall.lost, initOk, held] using FacadeAccounts.dispose block

/-- A call has an outcome exactly if it is defined. -/
theorem Inv.next_isSome_iff (inv : s.Inv) (call : FacadeCall w) :
    (∃ after, s.next call = some after) ↔ call.Defined := by
  rw [FacadeSession.next]
  constructor
  · rintro ⟨after, taken⟩
    by_contra undefined
    rw [outcome_undefined undefined] at taken
    cases taken
  · intro defined
    obtain ⟨outcome, ended, -⟩ := inv.outcome defined
    exact ⟨_, by rw [ended, Option.map_some]⟩

theorem Inv.next (inv : s.Inv) (taken : s.next call = some after) : after.Inv := by
  have defined := (inv.next_isSome_iff call).mp ⟨after, taken⟩
  obtain ⟨outcome, returned, accounts, initOk, -⟩ := inv.outcome defined
  rw [FacadeSession.next, returned, Option.map_some, Option.some.injEq] at taken
  subst taken
  have settled := Ledger.settle_trans inv.settled (Ledger.settle_frame accounts.settled s.lost)
  have regroup (held lost lost' : Multiset (Acquired w)) :
      held + lost + lost' = held + (lost' + lost) := by
    rw [Multiset.add_assoc, Multiset.add_comm lost]
  rw [regroup] at settled
  exact ⟨settled, accounts.ready, initOk⟩

/-! ## Runs -/

/-- A transport is installed in the manager. -/
def Installed (s : FacadeSession w) : Prop :=
  ∃ block, s.java.managerPtr = some block ∧ block.objects.Installed

section

variable {address : BitVec w} {calls : List (FacadeCall w)}

theorem inv_of_run (run : Run (enabled next) (start address) calls s) : s.Inv :=
  run.invariant Inv (fun _ _ _ inv taken => inv.next taken) (start_inv address)

/-- The system refuses nothing to `InitWifiNetwork`. -/
def openedAnswers : WifiNetwork.InitAnswers 64 where
  new := ⟨⟨0x1000, .cleared 64⟩, 0x2000, ⟨0x3000, .cleared 64⟩, 0x4000⟩
  connect := ⟨some 3, some (4, 5), none⟩
  bufferSize := 212992
  bind := ⟨some 6, some (7, 8), none⟩
  recvTimeoutSec := 1

/-- A manager is disposed of with its transport and its dump file. -/
def disposedCalls : List (FacadeCall 64) :=
  [.initWifiNetwork (some "192.168.42.1") 0x50 openedAnswers,
    .enableDataDump (some 0x60) (some 0x70) true 0x80, .dispose]

/-- Where they lead. -/
def disposed : FacadeSession 64 := (disposedCalls.foldlM next (start 0x10)).get rfl

/-- The manager and the file are released, and the two objects are not. -/
example : (Ledger.released disposed.entries).length = 5 ∧
    (Ledger.acquired disposed.entries).length = 19 := ⟨rfl, rfl⟩

end

end FacadeSession

end ARNetworkAL
