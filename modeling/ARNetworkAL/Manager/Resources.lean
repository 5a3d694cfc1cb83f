import ARNetworkAL.Library.Ledger
import ARNetworkAL.Manager

/-!
# What WiFi acquires and releases

`New` allocates two objects and two buffers, and creates two semaphores in each object.
`Connect` and `Bind` open a socket and a pipe each, and connect or bind the socket. Any of
these can fail, and then `Delete` releases what there is: it looks at the fields of the
objects, where minus one is a descriptor that was never opened. A socket that fails does not
keep the pipe from being opened.

Each function leaves a ledger of what it acquires and releases. It settles from what the
objects hold before to what they hold afterwards (`new_leaves`, `accounts_connect`,
`accounts_bind`, `delete_eq`).
-/

set_option autoImplicit false

namespace ARNetworkAL

open Library

namespace WifiNetwork

/-- The semaphores of an object. -/
inductive SemaphoreName where
  | bwSem
  | bwThreadRunning
  deriving DecidableEq, Repr

/-- What the transport acquires. -/
inductive Resource (w : ℕ) where
  | descriptor (fd : ℤ)
  | block (address : BitVec w)
  | semaphore (object : BitVec w) (name : SemaphoreName)
  deriving DecidableEq, Repr

/-- An object and the block that it lies in. `malloc` returns address zero where it fails. -/
structure Allocated (w : ℕ) where
  address : BitVec w
  object : WifiNetworkObject w

/-- The objects of a manager. -/
structure Objects (w : ℕ) where
  senderObject : Option (Allocated w)
  receiverObject : Option (Allocated w)

variable {w : ℕ}

namespace Objects

/-- No transport is installed. -/
def empty : Objects w := ⟨none, none⟩

/-- Some transport is. -/
def Installed (objects : Objects w) : Prop :=
  objects.senderObject ≠ none ∨ objects.receiverObject ≠ none

end Objects

/-- The code that a function returns, the objects afterwards, and its ledger. -/
structure Outcome (w : ℕ) where
  error : ErrorCode
  objects : Objects w
  entries : List (Entry (Resource w))

/-! ## New -/

/-- What `malloc` returns to `New`: two blocks for the objects, with what they happen to
hold, and two for the buffers. -/
structure NewAnswers (w : ℕ) where
  senderObject : Allocated w
  senderBuffer : BitVec w
  receiverObject : Allocated w
  receiverBuffer : BitVec w

/-- A block for an object, and the semaphores created in it. -/
def objectEntries (address : BitVec w) : List (Entry (Resource w)) :=
  [.acquire (.block address), .acquire (.semaphore address .bwSem),
    .acquire (.semaphore address .bwThreadRunning)]

/-- `ARNETWORKAL_WifiNetwork_New`. -/
def new (answers : NewAnswers w) (objects : Objects w) : Outcome w :=
  let sender := answers.senderObject
  let receiver := answers.receiverObject
  if sender.address = 0 then ⟨.alloc, { objects with senderObject := none }, []⟩
  else
    let entries := objectEntries sender.address
    if answers.senderBuffer = 0 then
      let object := { initObject sender.object with buffer := 0 }
      ⟨.alloc, { objects with senderObject := some ⟨sender.address, object⟩ }, entries⟩
    else
      let object := newSender sender.object answers.senderBuffer
      let objects := { objects with senderObject := some ⟨sender.address, object⟩ }
      let entries := entries ++ [.acquire (.block answers.senderBuffer)]
      if receiver.address = 0 then ⟨.alloc, { objects with receiverObject := none }, entries⟩
      else
        let entries := entries ++ objectEntries receiver.address
        if answers.receiverBuffer = 0 then
          let object := { initObject receiver.object with buffer := 0 }
          ⟨.alloc, { objects with receiverObject := some ⟨receiver.address, object⟩ }, entries⟩
        else
          let object := newReceiver receiver.object answers.receiverBuffer
          ⟨.ok, { objects with receiverObject := some ⟨receiver.address, object⟩ },
            entries ++ [.acquire (.block answers.receiverBuffer)]⟩

/-! ## Connect and Bind -/

/-- What the system answers to `Connect` or `Bind`: the descriptors of the socket and of the
pipe, if they are created, and the error of `connect` or `bind`, if any. -/
structure OpenAnswers where
  socket : Option ℕ
  pipe : Option (ℕ × ℕ)
  failure : Option Errno
  deriving DecidableEq, Repr

namespace OpenAnswers

/-- The answers without the descriptors. -/
def outline (answers : OpenAnswers) : SocketAnswers :=
  ⟨answers.socket.isSome, answers.pipe.isSome, answers.failure⟩

/-- What is opened. -/
def entries (answers : OpenAnswers) : List (Entry (Resource w)) :=
  (answers.socket.toList.map fun fd => .acquire (.descriptor fd)) ++
    answers.pipe.toList.flatMap fun fds =>
      [.acquire (.descriptor fds.1), .acquire (.descriptor fds.2)]

/-- An object with the descriptors. A socket that fails is minus one, and a pipe that fails
leaves the pair. -/
def opened (answers : OpenAnswers) (object : WifiNetworkObject w) : WifiNetworkObject w :=
  { object with
    socket := answers.socket.elim (-1) fun fd => fd
    fifo := answers.pipe.elim object.fifo fun fds => (fds.1, fds.2) }

end OpenAnswers

/-- `ARNETWORKAL_WifiNetwork_Connect`, with the buffer size that `getsockopt` gives. -/
def connect (answers : OpenAnswers) (bufferSize : ℤ) (objects : Objects w) : Outcome w :=
  match objects.senderObject with
  | none => ⟨.badParameter, objects, []⟩
  | some sender =>
      let object := answers.opened sender.object
      let object :=
        if answers.socket.isSome ∧ answers.pipe.isSome then
          { object with socketBufferSize := bufferSize }
        else object
      ⟨answers.outline.error, { objects with senderObject := some ⟨sender.address, object⟩ },
        answers.entries⟩

/-- `ARNETWORKAL_WifiNetwork_Bind`. -/
def bind (answers : OpenAnswers) (timeoutSec : UInt32) (objects : Objects w) : Outcome w :=
  match objects.receiverObject with
  | none => ⟨.badParameter, objects, []⟩
  | some receiver =>
      let object := { answers.opened receiver.object with timeoutSec := timeoutSec }
      ⟨answers.outline.error,
        { objects with receiverObject := some ⟨receiver.address, object⟩ }, answers.entries⟩

/-! ## Delete -/

/-- `close`. Minus one is not a descriptor, and the call fails. -/
def close (fd : ℤ) : List (Entry (Resource w)) :=
  if fd = -1 then [] else [.release (.descriptor fd)]

/-- What `Delete` does with one object. It waits until no bandwidth thread is running. -/
def deleteObject (allocated : Allocated w) : Option (List (Entry (Resource w))) :=
  let object := allocated.object
  let socket := if object.socket ≠ -1 then [.release (.descriptor object.socket)] else []
  let fifo := close object.fifo.1 ++ close object.fifo.2
  let buffer := if object.buffer ≠ 0 then [.release (.block object.buffer)] else []
  if object.bwThreadRunning = 0 then none
  else
    some (socket ++ fifo ++ buffer ++
      [.release (.semaphore allocated.address .bwSem),
        .release (.semaphore allocated.address .bwThreadRunning),
        .release (.block allocated.address)])

/-- `ARNETWORKAL_WifiNetwork_Delete`, if it does not wait for ever. -/
def delete (objects : Objects w) : Option (Outcome w) :=
  (objects.senderObject.elim (some []) deleteObject).bind fun sender =>
    (objects.receiverObject.elim (some []) deleteObject).map fun receiver =>
      ⟨.ok, .empty, sender ++ receiver⟩

/-! ## What the objects hold -/

/-- The descriptor of a field. -/
def descriptorOf (fd : ℤ) : List (Resource w) := if fd = -1 then [] else [.descriptor fd]

/-- The block of a pointer. -/
def blockOf (address : BitVec w) : List (Resource w) :=
  if address ≠ 0 then [.block address] else []

@[simp] theorem blockOf_zero : blockOf 0#w = [] := if_neg (not_not.mpr rfl)

namespace Allocated

/-- The descriptors that an object holds. -/
def descriptors (allocated : Allocated w) : List (Resource w) :=
  descriptorOf allocated.object.socket ++
    (descriptorOf allocated.object.fifo.1 ++ descriptorOf allocated.object.fifo.2)

/-- The memory and the semaphores. -/
def memory (allocated : Allocated w) : List (Resource w) :=
  blockOf allocated.object.buffer ++
    [.semaphore allocated.address .bwSem, .semaphore allocated.address .bwThreadRunning,
      .block allocated.address]

/-- All that it holds. -/
def owned (allocated : Allocated w) : List (Resource w) :=
  allocated.descriptors ++ allocated.memory

/-- No bandwidth thread is running. -/
def Idle (allocated : Allocated w) : Prop := allocated.object.bwThreadRunning ≠ 0

/-- Nothing was opened yet. -/
structure Unopened (allocated : Allocated w) : Prop where
  idle : allocated.Idle
  socket : allocated.object.socket = -1
  fifo : allocated.object.fifo = (-1, -1)

theorem Unopened.descriptors {allocated : Allocated w} (unopened : allocated.Unopened) :
    allocated.descriptors = [] := by
  simp [Allocated.descriptors, descriptorOf, unopened.socket, unopened.fifo]

end Allocated

/-- The resources that the objects hold. -/
def Objects.owned (objects : Objects w) : List (Resource w) :=
  objects.senderObject.elim [] Allocated.owned ++ objects.receiverObject.elim [] Allocated.owned

/-- Neither object has a bandwidth thread. -/
def Objects.Idle (objects : Objects w) : Prop :=
  (∀ sender, objects.senderObject = some sender → sender.Idle) ∧
    ∀ receiver, objects.receiverObject = some receiver → receiver.Idle

/-- An object that is not there meets everything. -/
theorem forall_none {P : Allocated w → Prop} : ∀ allocated, none = some allocated → P allocated :=
  fun _ found => absurd found (Option.some_ne_none _).symm

theorem idle_empty : (Objects.empty : Objects w).Idle := ⟨forall_none, forall_none⟩

/-- The ledger of a function settles from what the objects hold before to what they hold
afterwards. -/
def Accounts (before : Objects w) (outcome : Outcome w) : Prop :=
  Ledger.settle (before.owned : Multiset (Resource w)) outcome.entries =
    some (outcome.objects.owned : Multiset (Resource w))

/-! ## What each function does -/

theorem close_eq (fd : ℤ) :
    (close fd : List (Entry (Resource w))) = (descriptorOf fd).map .release := by
  rw [close, descriptorOf]
  split
  · rfl
  · rfl

/-- An object is deleted by releasing what it holds. -/
theorem deleteObject_eq {allocated : Allocated w} (idle : allocated.Idle) :
    deleteObject allocated = some (allocated.owned.map .release) := by
  have socket : (if allocated.object.socket ≠ -1 then
      [Entry.release (Resource.descriptor (w := w) allocated.object.socket)] else []) =
        (descriptorOf allocated.object.socket).map .release := by
    rw [← close_eq, close, ite_not]
  have buffer : (if allocated.object.buffer ≠ 0 then
      [Entry.release (Resource.block allocated.object.buffer)] else []) =
        (blockOf allocated.object.buffer).map .release := by
    rw [blockOf]
    split
    · rfl
    · rfl
  rw [Allocated.owned, Allocated.descriptors, Allocated.memory]
  simp only [deleteObject, if_neg idle, socket, buffer, close_eq, List.map_append,
    List.append_assoc]
  rfl

/-- **`Delete` releases what the objects hold.** -/
theorem delete_eq {objects : Objects w} (idle : objects.Idle) :
    delete objects = some ⟨.ok, .empty, objects.owned.map .release⟩ := by
  obtain ⟨senderObject, receiverObject⟩ := objects
  obtain ⟨sender, receiver⟩ := idle
  cases senderObject with
  | none =>
      cases receiverObject with
      | none => rfl
      | some allocated => simp [delete, Objects.owned, deleteObject_eq (receiver _ rfl)]
  | some allocated =>
      cases receiverObject with
      | none => simp [delete, Objects.owned, deleteObject_eq (sender _ rfl)]
      | some other =>
          simp [delete, Objects.owned, deleteObject_eq (sender _ rfl),
            deleteObject_eq (receiver _ rfl)]

/-- What an object and its semaphores take, in the order of `New`. -/
def objectResources (address : BitVec w) : List (Resource w) :=
  [.block address, .semaphore address .bwSem, .semaphore address .bwThreadRunning]

theorem objectEntries_eq (address : BitVec w) :
    objectEntries address = (objectResources address).map .acquire := rfl

/-- An object that was not opened holds itself and its buffer. -/
theorem Allocated.Unopened.owned {allocated : Allocated w} (unopened : allocated.Unopened) :
    (objectResources allocated.address ++ blockOf allocated.object.buffer).Perm
      allocated.owned := by
  have rotated : ([.block allocated.address] ++ [.semaphore allocated.address .bwSem,
      .semaphore allocated.address .bwThreadRunning] : List (Resource w)).Perm
        ([.semaphore allocated.address .bwSem, .semaphore allocated.address .bwThreadRunning] ++
          [.block allocated.address]) := List.perm_append_comm
  rw [Allocated.owned, unopened.descriptors, List.nil_append, Allocated.memory]
  exact (rotated.append_right _).trans List.perm_append_comm

/-- A ledger of acquisitions settles to what was acquired. -/
theorem accounts_acquires {error : ErrorCode} {objects : Objects w} {resources : List (Resource w)}
    (owned : resources.Perm objects.owned) :
    Accounts .empty ⟨error, objects, resources.map .acquire⟩ := by
  have settled := Ledger.settle_acquires 0 resources
  rw [Multiset.zero_add, Multiset.coe_eq_coe.mpr owned] at settled
  exact settled

theorem unopened_initObject (address buffer : BitVec w) (raw : WifiNetworkObject w) :
    (⟨address, { initObject raw with buffer := buffer }⟩ : Allocated w).Unopened :=
  ⟨Nat.one_ne_zero, rfl, rfl⟩

theorem unopened_newSender (address buffer : BitVec w) (raw : WifiNetworkObject w) :
    (⟨address, newSender raw buffer⟩ : Allocated w).Unopened :=
  ⟨Nat.one_ne_zero, rfl, rfl⟩

theorem unopened_newReceiver (address buffer : BitVec w) (raw : WifiNetworkObject w) :
    (⟨address, newReceiver raw buffer⟩ : Allocated w).Unopened :=
  ⟨Nat.one_ne_zero, rfl, rfl⟩

/-- `New` leaves objects that were not opened, both of them if it succeeds. -/
structure NewLeaves (outcome : Outcome w) : Prop where
  sender : ∀ sender, outcome.objects.senderObject = some sender → sender.Unopened
  receiver : ∀ receiver, outcome.objects.receiverObject = some receiver → receiver.Unopened
  accounts : Accounts .empty outcome
  ok : outcome.error = .ok →
    outcome.objects.senderObject ≠ none ∧ outcome.objects.receiverObject ≠ none

/-- A sender alone is the end of a call that fails. -/
theorem NewLeaves.ofSender {error : ErrorCode} {sender : Allocated w}
    {entries : List (Entry (Resource w))} (failed : error ≠ .ok) (unopened : sender.Unopened)
    (acquired : entries =
      (objectResources sender.address ++ blockOf sender.object.buffer).map .acquire) :
    NewLeaves ⟨error, ⟨some sender, none⟩, entries⟩ := by
  refine ⟨?_, forall_none, ?_, fun ok => absurd ok failed⟩
  · intro _ same
    cases same
    exact unopened
  · rw [acquired]
    refine accounts_acquires ?_
    rw [Objects.owned]
    simpa using unopened.owned

theorem NewLeaves.ofBoth {error : ErrorCode} {sender receiver : Allocated w}
    {entries : List (Entry (Resource w))} (unopened : sender.Unopened)
    (unopened' : receiver.Unopened)
    (acquired : entries =
      (objectResources sender.address ++ blockOf sender.object.buffer ++
        (objectResources receiver.address ++ blockOf receiver.object.buffer)).map .acquire) :
    NewLeaves ⟨error, ⟨some sender, some receiver⟩, entries⟩ := by
  refine ⟨?_, ?_, ?_, fun _ => ⟨nofun, nofun⟩⟩
  · intro _ same
    cases same
    exact unopened
  · intro _ same
    cases same
    exact unopened'
  · rw [acquired]
    exact accounts_acquires (unopened.owned.append unopened'.owned)

theorem new_leaves (answers : NewAnswers w) : NewLeaves (new answers .empty) := by
  simp only [new]
  split
  · exact ⟨forall_none, forall_none, rfl, nofun⟩
  · split
    · exact .ofSender nofun (unopened_initObject _ _ _) (by simp [objectEntries_eq])
    · rename_i senderBuffer
      have held : blockOf answers.senderBuffer = [.block answers.senderBuffer] :=
        if_pos senderBuffer
      split
      · refine .ofSender nofun (unopened_newSender _ _ _) ?_
        simp [newSender, held, objectEntries_eq]
      · split
        · refine .ofBoth (unopened_newSender _ _ _) (unopened_initObject _ _ _) ?_
          simp [newSender, held, objectEntries_eq]
        · rename_i receiverBuffer
          have held' : blockOf answers.receiverBuffer = [.block answers.receiverBuffer] :=
            if_pos receiverBuffer
          refine .ofBoth (unopened_newSender _ _ _) (unopened_newReceiver _ _ _) ?_
          simp [newSender, newReceiver, held, held', objectEntries_eq]

/-! ## Opening -/

/-- An object with the descriptors that the answers give it. -/
def Allocated.opened (allocated : Allocated w) (answers : OpenAnswers) : Allocated w :=
  { allocated with object := answers.opened allocated.object }

theorem descriptorOf_natCast (fd : ℕ) :
    (descriptorOf fd : List (Resource w)) = [.descriptor fd] :=
  if_neg (by omega)

/-- What is opened is what the object then holds. -/
theorem OpenAnswers.entries_eq (answers : OpenAnswers) {allocated : Allocated w}
    (unopened : allocated.Unopened) :
    answers.entries = (allocated.opened answers).descriptors.map .acquire := by
  obtain ⟨socket, pipe, failure⟩ := answers
  have fifo := unopened.fifo
  simp only [OpenAnswers.entries, Allocated.opened, Allocated.descriptors, OpenAnswers.opened, fifo]
  cases socket with
  | none =>
      cases pipe with
      | none => simp [descriptorOf]
      | some fds => simp [descriptorOf]
  | some fd =>
      cases pipe with
      | none => simp [descriptorOf]
      | some fds => simp [descriptorOf_natCast]

/-- **Opening an object accounts for its descriptors.** -/
theorem settle_opened (answers : OpenAnswers) {allocated : Allocated w}
    (unopened : allocated.Unopened) :
    Ledger.settle (allocated.owned : Multiset (Resource w)) answers.entries =
      some ((allocated.opened answers).owned : Multiset (Resource w)) := by
  have kept : (allocated.opened answers).memory = allocated.memory := rfl
  rw [answers.entries_eq unopened, Ledger.settle_acquires, Multiset.coe_add, Allocated.owned,
    Allocated.owned, unopened.descriptors, List.nil_append, kept]
  exact congrArg some (Multiset.coe_eq_coe.mpr List.perm_append_comm)

section

variable {objects : Objects w}

/-- **`Connect` accounts for what it opens.** -/
theorem accounts_connect (answers : OpenAnswers) (bufferSize : ℤ)
    (unopened : ∀ sender, objects.senderObject = some sender → sender.Unopened) :
    Accounts objects (connect answers bufferSize objects) := by
  obtain ⟨senderObject, receiverObject⟩ := objects
  cases senderObject with
  | none => rfl
  | some sender =>
      have settled := Ledger.settle_frame (settle_opened answers (unopened sender rfl))
        (receiverObject.elim [] Allocated.owned : List (Resource w))
      rw [Multiset.coe_add, Multiset.coe_add] at settled
      simp only [connect]
      split
      · exact settled
      · exact settled

/-- **So does `Bind`.** -/
theorem accounts_bind (answers : OpenAnswers) (timeoutSec : UInt32)
    (unopened : ∀ receiver, objects.receiverObject = some receiver → receiver.Unopened) :
    Accounts objects (bind answers timeoutSec objects) := by
  obtain ⟨senderObject, receiverObject⟩ := objects
  cases receiverObject with
  | none => rfl
  | some receiver =>
      have settled := Ledger.settle_frame (settle_opened answers (unopened receiver rfl))
        (senderObject.elim [] Allocated.owned : List (Resource w))
      rw [Multiset.add_comm, Multiset.coe_add, Multiset.add_comm, Multiset.coe_add] at settled
      exact settled

/-- `Connect` leaves the receiver as it is. -/
theorem connect_receiver (answers : OpenAnswers) (bufferSize : ℤ) :
    (connect answers bufferSize objects).objects.receiverObject = objects.receiverObject := by
  rw [connect]
  split
  · rfl
  · rfl

/-- What it opens does not start a bandwidth thread. -/
theorem connect_idle (answers : OpenAnswers) (bufferSize : ℤ) (idle : objects.Idle) :
    (connect answers bufferSize objects).objects.Idle := by
  refine ⟨?_, ?_⟩
  · obtain ⟨senderObject, receiverObject⟩ := objects
    cases senderObject with
    | none => exact forall_none
    | some sender =>
        have running := idle.1 sender rfl
        intro _ same
        cases same
        simp only [Allocated.Idle]
        split
        · exact running
        · exact running
  · rw [connect_receiver]
    exact idle.2

theorem connect_present (answers : OpenAnswers) (bufferSize : ℤ)
    (present : objects.senderObject ≠ none) :
    (connect answers bufferSize objects).objects.senderObject ≠ none := by
  obtain ⟨sender, found⟩ := Option.ne_none_iff_exists'.mp present
  rw [connect, found]
  exact nofun

theorem bind_idle (answers : OpenAnswers) (timeoutSec : UInt32) (idle : objects.Idle) :
    (bind answers timeoutSec objects).objects.Idle := by
  obtain ⟨senderObject, receiverObject⟩ := objects
  cases receiverObject with
  | none => exact idle
  | some receiver =>
      refine ⟨idle.1, ?_⟩
      intro _ same
      cases same
      exact idle.2 receiver rfl

theorem bind_present (answers : OpenAnswers) (timeoutSec : UInt32)
    (present : objects.senderObject ≠ none) :
    (bind answers timeoutSec objects).objects.senderObject ≠ none := by
  rw [bind]
  split
  · exact present
  · exact present

end

end WifiNetwork

end ARNetworkAL
