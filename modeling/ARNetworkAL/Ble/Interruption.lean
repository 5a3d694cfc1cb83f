import ARNetworkAL.Ble.Android
import ARNetworkAL.Library.Run

/-!
# A disconnection in the middle of a call

A sender thread calls `pushFrame` on the Java object and a receiver thread calls `receive` and
`popFrame`. `cleanup` runs in others: in the thread of the Bluetooth stack, where
`onBLEDisconnect` is called, and in the one that calls `disconnect`. It makes `sendService` null,
which `pushFrame` reads up to three times, and clears `recvArray`, which `popFrame` turns to three
times, and no lock keeps it from doing so in the middle of a call.

`Interleaved.next` takes one access to these fields at a time. A call that `cleanup` does not
interrupt does what it does alone, and one that it interrupts ends by an exception
(`calls_of_run`). No notification gets lost or is returned twice: each one that was received was
returned, in order, or was cleared, or is still there (`received_of_run`).
-/

set_option autoImplicit false

namespace ARNetworkAL

open Library

namespace BleNetwork

namespace Java

variable {κ γ : Type}

/-! ## Calls -/

/-- What `pushFrame` is called with, and what it meets. -/
structure Push where
  answers : PushAnswers
  type : ℤ
  id : ℤ
  seq : ℤ
  byteData : List UInt8

/-- A call that is under way: its arguments, the object as it began, and whether what it works on
was taken away since. -/
structure Attempt (κ ι : Type) where
  call : ι
  before : Network κ
  interrupted : Bool

/-- A call that ended, by a result or by an exception. -/
structure Ended (κ ι ο : Type) extends Attempt κ ι where
  outcome : Option ο

/-- Where the sender is. -/
inductive SenderPoint (κ : Type) where
  | betweenCalls
  | beforeSize (attempt : Attempt κ Push)
  | beforeWrite (attempt : Attempt κ Push)

/-- Where the receiver is. A notification was read before it is removed. -/
inductive ReceiverPoint (κ : Type) where
  | betweenCalls
  | beforeGet (attempt : Attempt κ Unit)
  | beforeRemove (attempt : Attempt κ Unit) (dataPop : DataPop)

/-- How a notification left the queue. -/
inductive Fate where
  | returned
  | cleared
  deriving DecidableEq, Repr

/-- The object, where the threads are, the calls that ended, the notifications that were
received, and those that left the queue. A thread of `γ` is cleaning once it has made
`sendService` null, until it has cleared `recvArray`. -/
structure Interleaved (κ γ : Type) where
  network : Network κ
  sender : SenderPoint κ
  receiver : ReceiverPoint κ
  cleaning : γ → Bool
  pushes : List (Ended κ Push (ManagerReturn × List Write))
  pops : List (Ended κ Unit DataPop)
  received : List Notification
  removed : List (Notification × Fate)

/-- One step of a thread. -/
inductive Action (γ : Type) where
  | push (call : Push)
  | pushGoesOn
  | receive (read : Option (List Notification))
  | pop
  | popGoesOn
  | dropService (thread : γ)
  | clearQueue (thread : γ)

/-! ## One access at a time -/

/-- `cleanup` makes `sendService` null. -/
def SenderPoint.interrupt : SenderPoint κ → SenderPoint κ
  | betweenCalls => betweenCalls
  | beforeSize attempt => beforeSize { attempt with interrupted := true }
  | beforeWrite attempt => beforeWrite { attempt with interrupted := true }

/-- `cleanup` clears `recvArray`. -/
def ReceiverPoint.interrupt : ReceiverPoint κ → ReceiverPoint κ
  | betweenCalls => betweenCalls
  | beforeGet attempt => beforeGet { attempt with interrupted := true }
  | beforeRemove attempt dataPop => beforeRemove { attempt with interrupted := true } dataPop

/-- What `popFrame` does between `get` and `remove`, unless `parseInt` throws. -/
def readNotification (notification : Notification) (network : Network κ) :
    Option (DataPop × Network κ) :=
  let currentFrame := notification.value
  if currentFrame.length = 0 then some ({ DataPop.new with result := .badFrame }, network)
  else
    (parseHex notification.shortUuid).map fun frameId =>
      ({ DataPop.new with id := frameId, data := some currentFrame },
        { network with
          bwCurrentDown := network.bwCurrentDown + UInt32.ofNat currentFrame.length })

namespace Interleaved

/-- No call is under way. -/
def start (network : Network κ) : Interleaved κ γ where
  network := network
  sender := .betweenCalls
  receiver := .betweenCalls
  cleaning := fun _ => false
  pushes := []
  pops := []
  received := network.recvArray
  removed := []

/-- A call of `pushFrame` ends. -/
def endPush (attempt : Attempt κ Push) (outcome : Option (ManagerReturn × List Write))
    (s : Interleaved κ γ) : Interleaved κ γ :=
  { s with sender := .betweenCalls, pushes := s.pushes ++ [⟨attempt, outcome⟩] }

/-- A call of `popFrame` ends. -/
def endPop (attempt : Attempt κ Unit) (outcome : Option DataPop) (s : Interleaved κ γ) :
    Interleaved κ γ :=
  { s with receiver := .betweenCalls, pops := s.pops ++ [⟨attempt, outcome⟩] }

/-- `pushFrame` up to the test of `sendService`. -/
def beginPush (call : Push) (s : Interleaved κ γ) : Interleaved κ γ :=
  let attempt : Attempt κ Push := ⟨call, s.network, false⟩
  match s.network.sendService with
  | none => s.endPush attempt (some (.networkError, []))
  | some _ => { s with sender := .beforeSize attempt }

/-- The rest of `pushFrame`, one access to `sendService` at a time. Each finds a service, or
throws. -/
def continuePush (s : Interleaved κ γ) : Option (Interleaved κ γ) :=
  match s.sender with
  | .betweenCalls => none
  | .beforeSize attempt =>
      if 0 ≤ attempt.call.id then
        match s.network.sendService with
        | none => some (s.endPush attempt none)
        | some characteristics =>
            if attempt.call.id < characteristics.length then
              some { s with sender := .beforeWrite attempt }
            else some (s.endPush attempt (some (.badParameters, [])))
      else some (s.endPush attempt (some (.badParameters, [])))
  | .beforeWrite attempt =>
      let call := attempt.call
      let data := UInt8.ofInt call.type :: UInt8.ofInt call.seq :: call.byteData
      match s.network.sendService with
      | none => some (s.endPush attempt none)
      | some characteristics =>
          -- `get` throws past the last one
          if call.id < characteristics.length then
            if call.answers.writeData then
              some ({ s with
                network :=
                  { s.network with
                    bwCurrentUp := s.network.bwCurrentUp + UInt32.ofNat data.length } }.endPush
                attempt (some (.default, [⟨some call.id.toNat, data⟩])))
            else some (s.endPush attempt (some (.badFrame, [⟨some call.id.toNat, data⟩])))
          else some (s.endPush attempt none)

/-- `popFrame` up to its test of the size. -/
def beginPop (s : Interleaved κ γ) : Interleaved κ γ :=
  let attempt : Attempt κ Unit := ⟨(), s.network, false⟩
  match s.network.recvArray with
  | [] => s.endPop attempt (some { DataPop.new with result := .bufferEmpty })
  | _ :: _ => { s with receiver := .beforeGet attempt }

/-- The rest of `popFrame`, one access to `recvArray` at a time. Each finds a notification, or
throws. -/
def continuePop (s : Interleaved κ γ) : Option (Interleaved κ γ) :=
  match s.receiver with
  | .betweenCalls => none
  | .beforeGet attempt =>
      match s.network.recvArray with
      | [] => some (s.endPop attempt none)
      | notification :: _ =>
          match readNotification notification s.network with
          | none => some (s.endPop attempt none)
          | some (dataPop, network) =>
              some { s with network := network, receiver := .beforeRemove attempt dataPop }
  | .beforeRemove attempt dataPop =>
      match s.network.recvArray with
      | [] => some (s.endPop attempt none)
      | notification :: rest =>
          some ({ s with
            network := { s.network with recvArray := rest }
            removed := s.removed ++ [(notification, Fate.returned)] }.endPop attempt (some dataPop))

/-- The state after a step. -/
def next [DecidableEq γ] (s : Interleaved κ γ) : Action γ → Option (Interleaved κ γ)
  | .push call =>
      match s.sender with
      | .betweenCalls => some (s.beginPush call)
      | _ => none
  | .pushGoesOn => s.continuePush
  | .receive read =>
      match s.receiver with
      | .betweenCalls =>
          some { s with
            network := (Java.receive read s.network).2
            received := s.received ++ read.getD [] }
      | _ => none
  | .pop =>
      match s.receiver with
      | .betweenCalls => some s.beginPop
      | _ => none
  | .popGoesOn => s.continuePop
  | .dropService thread =>
      if s.cleaning thread then none
      else
        some { s with
          network := { s.network with sendService := none }
          sender := s.sender.interrupt
          cleaning := Function.update s.cleaning thread true }
  | .clearQueue thread =>
      if s.cleaning thread then
        some { s with
          network := { s.network with recvArray := [] }
          receiver := s.receiver.interrupt
          cleaning := Function.update s.cleaning thread false
          removed := s.removed ++ s.network.recvArray.map fun notification =>
            (notification, Fate.cleared) }
      else none

end Interleaved

/-! ## A call that is left alone -/

/-- What `pushFrame` returns and writes where nothing interrupts it. -/
def Push.alone (call : Push) (network : Network κ) : ManagerReturn × List Write :=
  let (result, _, writes) :=
    pushFrame call.answers network call.type call.id call.seq call.byteData
  (result, writes)

/-- What `popFrame` makes of a notification, unless `parseInt` throws. -/
def dataPopOf (notification : Notification) : Option DataPop :=
  if notification.value.length = 0 then some { DataPop.new with result := .badFrame }
  else
    (parseHex notification.shortUuid).map fun frameId =>
      { DataPop.new with id := frameId, data := some notification.value }

theorem readNotification_fst (notification : Notification) (network : Network κ) :
    (readNotification notification network).map Prod.fst = dataPopOf notification := by
  simp only [readNotification, dataPopOf]
  split
  · rfl
  · rw [Option.map_map]
    rfl

/-- What is read of a notification leaves the service and the queue. -/
theorem readNotification_snd {notification : Notification} {network after : Network κ}
    {dataPop : DataPop} (read : readNotification notification network = some (dataPop, after)) :
    after.sendService = network.sendService ∧ after.recvArray = network.recvArray := by
  simp only [readNotification] at read
  split at read
  · cases read
    exact ⟨rfl, rfl⟩
  · obtain ⟨frameId, -, read⟩ := Option.map_eq_some_iff.mp read
    cases read
    exact ⟨rfl, rfl⟩

/-- It is not the answer on an empty queue. -/
theorem dataPopOf_result {notification : Notification} {dataPop : DataPop}
    (read : dataPopOf notification = some dataPop) : dataPop.result ≠ .bufferEmpty := by
  rw [dataPopOf] at read
  split at read
  · cases read
    decide
  · obtain ⟨frameId, -, read⟩ := Option.map_eq_some_iff.mp read
    cases read
    intro same
    cases same

theorem popFrame_of_nil {network : Network κ} (empty : network.recvArray = []) :
    (popFrame network).1 = some { DataPop.new with result := .bufferEmpty } := by
  simp only [popFrame, empty]

theorem popFrame_of_cons {network : Network κ} {notification : Notification}
    {rest : List Notification} (queue : network.recvArray = notification :: rest) :
    (popFrame network).1 = dataPopOf notification := by
  simp only [popFrame, queue, dataPopOf]
  split
  · rfl
  · cases parsed : parseHex notification.shortUuid <;> rfl

/-! ## What holds in every state -/

/-- A call finds what it began with, or what is left once that was taken away. -/
def Attempt.Finds {ι α : Type} (attempt : Attempt κ ι) (began left found : α) : Prop :=
  found = if attempt.interrupted then left else began

/-- A push began with these characteristics, and finds no service once it is interrupted. -/
def Attempt.Serves (attempt : Attempt κ Push) (network : Network κ) (characteristics : List κ) :
    Prop :=
  attempt.before.sendService = some characteristics ∧
    attempt.Finds (some characteristics) none network.sendService

/-- A pop began with this queue, and finds it empty once it is interrupted. -/
def Attempt.Queues (attempt : Attempt κ Unit) (network : Network κ) (notification : Notification)
    (rest : List Notification) : Prop :=
  attempt.before.recvArray = notification :: rest ∧
    attempt.Finds (notification :: rest) [] network.recvArray

/-- What the sender relies on. -/
def SenderPoint.Sound (network : Network κ) : SenderPoint κ → Prop
  | betweenCalls => True
  | beforeSize attempt => ∃ characteristics, attempt.Serves network characteristics
  | beforeWrite attempt =>
      ∃ characteristics, attempt.Serves network characteristics ∧ 0 ≤ attempt.call.id ∧
        attempt.call.id < characteristics.length

/-- What the receiver relies on. -/
def ReceiverPoint.Sound (network : Network κ) : ReceiverPoint κ → Prop
  | betweenCalls => True
  | beforeGet attempt => ∃ notification rest, attempt.Queues network notification rest
  | beforeRemove attempt dataPop =>
      ∃ notification rest, attempt.Queues network notification rest ∧
        dataPopOf notification = some dataPop

/-- The sender relies on the service only. -/
theorem SenderPoint.Sound.congr {network other : Network κ} {point : SenderPoint κ}
    (sound : point.Sound network) (same : network.sendService = other.sendService) :
    point.Sound other := by
  cases point with
  | betweenCalls => trivial
  | beforeSize attempt =>
      obtain ⟨characteristics, began, now⟩ := sound
      exact ⟨characteristics, began, same.symm.trans now⟩
  | beforeWrite attempt =>
      obtain ⟨characteristics, ⟨began, now⟩, inside⟩ := sound
      exact ⟨characteristics, ⟨began, same.symm.trans now⟩, inside⟩

/-- The receiver relies on the queue only. -/
theorem ReceiverPoint.Sound.congr {network other : Network κ} {point : ReceiverPoint κ}
    (sound : point.Sound network) (same : network.recvArray = other.recvArray) :
    point.Sound other := by
  cases point with
  | betweenCalls => trivial
  | beforeGet attempt =>
      obtain ⟨notification, rest, began, now⟩ := sound
      exact ⟨notification, rest, began, same.symm.trans now⟩
  | beforeRemove attempt dataPop =>
      obtain ⟨notification, rest, ⟨began, now⟩, read⟩ := sound
      exact ⟨notification, rest, ⟨began, same.symm.trans now⟩, read⟩

/-- It finds the service gone once it is interrupted. -/
theorem SenderPoint.Sound.interrupt {network : Network κ} {point : SenderPoint κ}
    (sound : point.Sound network) :
    point.interrupt.Sound { network with sendService := none } := by
  cases point with
  | betweenCalls => trivial
  | beforeSize attempt =>
      obtain ⟨characteristics, began, now⟩ := sound
      exact ⟨characteristics, began, rfl⟩
  | beforeWrite attempt =>
      obtain ⟨characteristics, ⟨began, now⟩, inside⟩ := sound
      exact ⟨characteristics, ⟨began, rfl⟩, inside⟩

/-- It finds the queue empty once it is interrupted. -/
theorem ReceiverPoint.Sound.interrupt {network : Network κ} {point : ReceiverPoint κ}
    (sound : point.Sound network) :
    point.interrupt.Sound { network with recvArray := [] } := by
  cases point with
  | betweenCalls => trivial
  | beforeGet attempt =>
      obtain ⟨notification, rest, began, now⟩ := sound
      exact ⟨notification, rest, began, rfl⟩
  | beforeRemove attempt dataPop =>
      obtain ⟨notification, rest, ⟨began, now⟩, read⟩ := sound
      exact ⟨notification, rest, ⟨began, rfl⟩, read⟩

/-- A push that was interrupted ended by an exception, unless its identifier is negative, and
any other one as it does alone. -/
def PushExact (ended : Ended κ Push (ManagerReturn × List Write)) : Prop :=
  ended.outcome =
    if ended.interrupted ∧ 0 ≤ ended.call.id then none else some (ended.call.alone ended.before)

/-- A pop that was interrupted ended by an exception, and any other one as it does alone. -/
def PopExact (ended : Ended κ Unit DataPop) : Prop :=
  ended.outcome = if ended.interrupted then none else (popFrame ended.before).1

/-- The notification that a pop returned. -/
def Ended.returned (ended : Ended κ Unit DataPop) : Option DataPop :=
  ended.outcome.filter fun dataPop => dataPop.result ≠ .bufferEmpty

/-! ## Every step keeps it -/

section

variable {call : Push} {network : Network κ} {characteristics : List κ}

/-- An identifier without a characteristic is refused. -/
theorem Push.alone_outside (service : network.sendService = some characteristics)
    (outside : ¬ (0 ≤ call.id ∧ call.id < characteristics.length)) :
    call.alone network = (.badParameters, []) := by
  simp only [Push.alone, pushFrame, service, if_neg outside]

/-- A value is handed to the characteristic that has its place. -/
theorem Push.alone_inside (service : network.sendService = some characteristics)
    (inside : 0 ≤ call.id ∧ call.id < characteristics.length) :
    call.alone network =
      (if call.answers.writeData then .default else .badFrame,
        [⟨some call.id.toNat,
          UInt8.ofInt call.type :: UInt8.ofInt call.seq :: call.byteData⟩]) := by
  simp only [Push.alone, pushFrame, service, if_pos inside]
  split <;> rfl

/-- What was taken away is found by a call that was interrupted only. -/
theorem Attempt.Finds.interrupted {ι α : Type} {attempt : Attempt κ ι} {began left : α}
    (finds : attempt.Finds began left left) (other : began ≠ left) :
    attempt.interrupted = true := by
  by_contra kept
  rw [Attempt.Finds, if_neg kept] at finds
  exact other finds.symm

/-- Anything else is what the call began with, and it was not interrupted. -/
theorem Attempt.Finds.calm {ι α : Type} {attempt : Attempt κ ι} {began left found : α}
    (finds : attempt.Finds began left found) (there : found ≠ left) :
    attempt.interrupted = false ∧ found = began := by
  rw [Attempt.Finds] at finds
  split at finds
  · exact absurd finds there
  · rename_i kept
    exact ⟨Bool.eq_false_of_not_eq_true kept, finds⟩

theorem Attempt.Serves.interrupted {attempt : Attempt κ Push}
    (serves : attempt.Serves network characteristics) (gone : network.sendService = none) :
    attempt.interrupted = true :=
  Attempt.Finds.interrupted (gone ▸ serves.2) (Option.some_ne_none _)

theorem Attempt.Serves.found {attempt : Attempt κ Push}
    (serves : attempt.Serves network characteristics) {others : List κ}
    (there : network.sendService = some others) :
    attempt.interrupted = false ∧ others = characteristics := by
  obtain ⟨calm, same⟩ := serves.2.calm (by rw [there]; exact Option.some_ne_none _)
  exact ⟨calm, Option.some.inj (there.symm.trans same)⟩

theorem Attempt.Queues.interrupted {attempt : Attempt κ Unit} {notification : Notification}
    {rest : List Notification} (queues : attempt.Queues network notification rest)
    (empty : network.recvArray = []) : attempt.interrupted = true :=
  Attempt.Finds.interrupted (empty ▸ queues.2) (List.cons_ne_nil _ _)

theorem Attempt.Queues.found {attempt : Attempt κ Unit} {notification other : Notification}
    {rest others : List Notification} (queues : attempt.Queues network notification rest)
    (queue : network.recvArray = other :: others) :
    attempt.interrupted = false ∧ other = notification ∧ others = rest := by
  obtain ⟨calm, same⟩ := queues.2.calm (by rw [queue]; exact List.cons_ne_nil _ _)
  exact ⟨calm, List.cons.inj (queue.symm.trans same)⟩

/-- An exception is exact where the push was interrupted. -/
theorem PushExact.thrown {attempt : Attempt κ Push} (interrupted : attempt.interrupted = true)
    (positive : 0 ≤ attempt.call.id) : PushExact ⟨attempt, none⟩ :=
  (if_pos ⟨interrupted, positive⟩).symm

/-- A result is exact where it was not. -/
theorem PushExact.of_alone {attempt : Attempt κ Push}
    (calm : ¬ (attempt.interrupted = true ∧ 0 ≤ attempt.call.id))
    {outcome : ManagerReturn × List Write} (alone : attempt.call.alone attempt.before = outcome) :
    PushExact ⟨attempt, some outcome⟩ := by
  rw [PushExact, if_neg calm, alone]

theorem PopExact.thrown {attempt : Attempt κ Unit} (interrupted : attempt.interrupted = true) :
    PopExact ⟨attempt, none⟩ :=
  (if_pos interrupted).symm

theorem PopExact.of_alone {attempt : Attempt κ Unit} (calm : attempt.interrupted = false)
    {outcome : Option DataPop} (alone : (popFrame attempt.before).1 = outcome) :
    PopExact ⟨attempt, outcome⟩ := by
  rw [PopExact, calm, if_neg Bool.false_ne_true, alone]

end

namespace Interleaved

variable {s after : Interleaved κ γ}

/-- A step of a push goes on to write, or ends the call as it should. -/
theorem continuePush_cases (sound : s.sender.Sound s.network)
    (taken : s.continuePush = some after) :
    (∃ attempt, SenderPoint.Sound s.network (.beforeWrite attempt) ∧
      after = { s with sender := .beforeWrite attempt }) ∨
    ∃ attempt outcome network,
      after = { s with network := network }.endPush attempt outcome ∧
        network.recvArray = s.network.recvArray ∧ PushExact ⟨attempt, outcome⟩ := by
  rcases here : s.sender with _ | attempt | attempt
  · rw [continuePush, here] at taken
    cases taken
  · rw [here] at sound
    obtain ⟨characteristics, serves⟩ := sound
    simp only [continuePush, here] at taken
    split at taken
    · rename_i positive
      split at taken
      · rename_i gone
        cases taken
        exact .inr ⟨attempt, none, s.network, rfl, rfl, .thrown (serves.interrupted gone) positive⟩
      · rename_i others there
        obtain ⟨calm, rfl⟩ := serves.found there
        split at taken
        · rename_i within
          cases taken
          exact .inl ⟨attempt, ⟨others, serves, positive, within⟩, rfl⟩
        · rename_i past
          cases taken
          refine .inr ⟨attempt, _, s.network, rfl, rfl, .of_alone ?_ ?_⟩
          · rw [calm]
            simp
          · exact Push.alone_outside serves.1 fun inside => past inside.2
    · rename_i negative
      cases taken
      refine .inr ⟨attempt, _, s.network, rfl, rfl, .of_alone ?_ ?_⟩
      · exact fun both => negative both.2
      · exact Push.alone_outside serves.1 fun inside => negative inside.1
  · rw [here] at sound
    obtain ⟨characteristics, serves, positive, within⟩ := sound
    simp only [continuePush, here] at taken
    split at taken
    · rename_i gone
      cases taken
      exact .inr ⟨attempt, none, s.network, rfl, rfl, .thrown (serves.interrupted gone) positive⟩
    · rename_i others there
      obtain ⟨calm, rfl⟩ := serves.found there
      have undisturbed : ¬ (attempt.interrupted = true ∧ 0 ≤ attempt.call.id) := by
        rw [calm]
        simp
      have alone := Push.alone_inside serves.1 ⟨positive, within⟩
      rw [if_pos within] at taken
      split at taken
      · rename_i written
        cases taken
        rw [if_pos written] at alone
        exact .inr ⟨attempt, _, _, rfl, rfl, .of_alone undisturbed alone⟩
      · rename_i refused
        cases taken
        rw [if_neg refused] at alone
        exact .inr ⟨attempt, _, s.network, rfl, rfl, .of_alone undisturbed alone⟩

/-- A step of a pop goes on to remove what it read, ends by an exception as it should, or
removes what it read and returns it. -/
theorem continuePop_cases (sound : s.receiver.Sound s.network)
    (taken : s.continuePop = some after) :
    (∃ attempt dataPop network,
      after = { s with network := network, receiver := .beforeRemove attempt dataPop } ∧
        network.sendService = s.network.sendService ∧
        network.recvArray = s.network.recvArray ∧
        ReceiverPoint.Sound s.network (.beforeRemove attempt dataPop)) ∨
    (∃ attempt, after = s.endPop attempt none ∧ PopExact ⟨attempt, none⟩) ∨
    ∃ attempt notification rest dataPop,
      after = { s with
        network := { s.network with recvArray := rest }
        removed := s.removed ++ [(notification, Fate.returned)] }.endPop attempt (some dataPop) ∧
      s.network.recvArray = notification :: rest ∧ dataPopOf notification = some dataPop ∧
      PopExact ⟨attempt, some dataPop⟩ := by
  rcases here : s.receiver with _ | attempt | ⟨attempt, dataPop⟩
  · rw [continuePop, here] at taken
    cases taken
  · rw [here] at sound
    obtain ⟨first, others, queues⟩ := sound
    simp only [continuePop, here] at taken
    split at taken
    · rename_i empty
      cases taken
      exact .inr (.inl ⟨attempt, rfl, .thrown (queues.interrupted empty)⟩)
    · rename_i notification rest queue
      obtain ⟨calm, rfl, rfl⟩ := queues.found queue
      have pure := readNotification_fst notification s.network
      split at taken
      · rename_i refused
        cases taken
        rw [refused] at pure
        have alone := (popFrame_of_cons queues.1).trans pure.symm
        exact .inr (.inl ⟨attempt, rfl, .of_alone calm alone⟩)
      · rename_i dataPop network read
        cases taken
        rw [read] at pure
        obtain ⟨service, array⟩ := readNotification_snd read
        exact .inl ⟨attempt, dataPop, network, rfl, service, array, notification, rest, queues,
          pure.symm⟩
  · rw [here] at sound
    obtain ⟨first, others, queues, read⟩ := sound
    simp only [continuePop, here] at taken
    split at taken
    · rename_i empty
      cases taken
      exact .inr (.inl ⟨attempt, rfl, .thrown (queues.interrupted empty)⟩)
    · rename_i notification rest queue
      obtain ⟨calm, rfl, rfl⟩ := queues.found queue
      cases taken
      exact .inr (.inr ⟨attempt, notification, rest, dataPop, rfl, queue, read,
        .of_alone calm ((popFrame_of_cons queues.1).trans read)⟩)

/-- What holds in every state that is reached: the threads find what they rely on, the calls
ended as they should, and every notification is accounted for. -/
structure Sound (s : Interleaved κ γ) : Prop where
  sender : s.sender.Sound s.network
  receiver : s.receiver.Sound s.network
  pushes : ∀ ended ∈ s.pushes, PushExact ended
  pops : ∀ ended ∈ s.pops, PopExact ended
  received : s.received = s.removed.map Prod.fst ++ s.network.recvArray
  returned : (s.pops.filterMap Ended.returned).map some =
    (s.removed.filter fun entry => entry.2 = .returned).map fun entry => dataPopOf entry.1

theorem Sound.start (network : Network κ) : (start network : Interleaved κ γ).Sound where
  sender := trivial
  receiver := trivial
  pushes := fun _ none => absurd none List.not_mem_nil
  pops := fun _ none => absurd none List.not_mem_nil
  received := rfl
  returned := rfl

namespace Sound

/-- A push that ends as it should leaves the rest. -/
theorem endPush (sound : s.Sound) {attempt : Attempt κ Push}
    {outcome : Option (ManagerReturn × List Write)} (exact : PushExact ⟨attempt, outcome⟩)
    {network : Network κ} (array : network.recvArray = s.network.recvArray) :
    ({ s with network := network }.endPush attempt outcome).Sound where
  sender := trivial
  receiver := sound.receiver.congr array.symm
  pushes := by
    intro ended found
    rcases List.mem_append.mp found with earlier | last
    · exact sound.pushes ended earlier
    · rw [List.mem_singleton.mp last]
      exact exact
  pops := sound.pops
  received := sound.received.trans (by rw [← array]; rfl)
  returned := sound.returned

/-- So does a pop that returns no notification. -/
theorem endPop (sound : s.Sound) {attempt : Attempt κ Unit} {outcome : Option DataPop}
    (exact : PopExact ⟨attempt, outcome⟩)
    (nothing : (⟨attempt, outcome⟩ : Ended κ Unit DataPop).returned = none) :
    (s.endPop attempt outcome).Sound where
  sender := sound.sender
  receiver := trivial
  pushes := sound.pushes
  pops := by
    intro ended found
    rcases List.mem_append.mp found with earlier | last
    · exact sound.pops ended earlier
    · rw [List.mem_singleton.mp last]
      exact exact
  received := sound.received
  returned := by
    simp only [Interleaved.endPop, List.filterMap_append, List.filterMap_cons, nothing,
      List.filterMap_nil, List.append_nil]
    exact sound.returned

/-- A pop that returns the first notification removes it. -/
theorem removes (sound : s.Sound) {attempt : Attempt κ Unit} {notification : Notification}
    {rest : List Notification} {dataPop : DataPop}
    (queue : s.network.recvArray = notification :: rest)
    (read : dataPopOf notification = some dataPop) (exact : PopExact ⟨attempt, some dataPop⟩) :
    ({ s with
      network := { s.network with recvArray := rest }
      removed := s.removed ++ [(notification, Fate.returned)] }.endPop attempt
        (some dataPop)).Sound where
  sender := sound.sender.congr rfl
  receiver := trivial
  pushes := sound.pushes
  pops := by
    intro ended found
    rcases List.mem_append.mp found with earlier | last
    · exact sound.pops ended earlier
    · rw [List.mem_singleton.mp last]
      exact exact
  received := by
    have all := sound.received
    rw [queue] at all
    simp [Interleaved.endPop, all]
  returned := by
    have taken : (⟨attempt, some dataPop⟩ : Ended κ Unit DataPop).returned = some dataPop := by
      simp [Ended.returned, dataPopOf_result read]
    have before := sound.returned
    simp only [Interleaved.endPop, List.filterMap_append, List.filterMap_cons, taken,
      List.filterMap_nil, List.map_append, before, List.filter_append]
    simp [read]

/-- A push that finds no service ends, and another one goes on. -/
theorem beginPush (sound : s.Sound) (call : Push) : (s.beginPush call).Sound := by
  simp only [Interleaved.beginPush]
  split
  · rename_i gone
    refine sound.endPush (.of_alone (by simp) ?_) rfl
    simp only [Push.alone, pushFrame, gone]
  · rename_i characteristics there
    exact { sound with sender := ⟨characteristics, there, there⟩ }

/-- A pop that finds the queue empty ends, and another one goes on. -/
theorem beginPop (sound : s.Sound) : s.beginPop.Sound := by
  simp only [Interleaved.beginPop]
  split
  · rename_i empty
    exact sound.endPop (.of_alone rfl (popFrame_of_nil empty)) rfl
  · rename_i notification rest queue
    exact { sound with receiver := ⟨notification, rest, queue, queue⟩ }

/-- What is received goes to the end of the queue. -/
theorem receive (sound : s.Sound) (between : s.receiver = .betweenCalls)
    (read : Option (List Notification)) :
    { s with
      network := (Java.receive read s.network).2
      received := s.received ++ read.getD [] }.Sound := by
  have all := sound.received
  cases read with
  | none => exact { sound with received := by simpa [Java.receive] using all }
  | some notifications =>
      refine { sound with sender := sound.sender.congr rfl, receiver := ?_, received := ?_ }
      · rw [between]
        trivial
      · simp [Java.receive, all]

/-- The queue is cleared, and what was in it is accounted for. -/
theorem clearQueue (sound : s.Sound) (cleaning : γ → Bool) :
    { s with
      network := { s.network with recvArray := [] }
      receiver := s.receiver.interrupt
      cleaning := cleaning
      removed := s.removed ++ s.network.recvArray.map fun notification =>
        (notification, Fate.cleared) }.Sound where
  sender := sound.sender.congr rfl
  receiver := sound.receiver.interrupt
  pushes := sound.pushes
  pops := sound.pops
  received := by simp [sound.received, Function.comp_def]
  returned := by
    refine sound.returned.trans ?_
    simp [List.filter_append, List.filter_map, Function.comp_def]

/-- **Every step keeps it.** -/
theorem step [DecidableEq γ] (sound : s.Sound) {action : Action γ}
    (taken : s.next action = some after) : after.Sound := by
  cases action with
  | push call =>
      simp only [next] at taken
      split at taken
      · cases taken
        exact sound.beginPush call
      · cases taken
  | pushGoesOn =>
      rcases continuePush_cases sound.sender taken with
        ⟨attempt, ready, rfl⟩ | ⟨attempt, outcome, network, rfl, array, exact⟩
      · exact { sound with sender := ready }
      · exact sound.endPush exact array
  | receive read =>
      simp only [next] at taken
      split at taken
      · rename_i between
        cases taken
        exact sound.receive between read
      · cases taken
  | pop =>
      simp only [next] at taken
      split at taken
      · cases taken
        exact sound.beginPop
      · cases taken
  | popGoesOn =>
      rcases continuePop_cases sound.receiver taken with
        ⟨attempt, dataPop, network, rfl, service, array, ready⟩ | ⟨attempt, rfl, exact⟩ |
          ⟨attempt, notification, rest, dataPop, rfl, queue, read, exact⟩
      · exact { sound with
          sender := sound.sender.congr service.symm
          receiver := ready.congr array.symm
          received := sound.received.trans (by rw [← array]) }
      · exact sound.endPop exact rfl
      · exact sound.removes queue read exact
  | dropService thread =>
      simp only [next] at taken
      split at taken
      · cases taken
      · cases taken
        exact { sound with
          sender := sound.sender.interrupt
          receiver := sound.receiver.congr rfl }
  | clearQueue thread =>
      simp only [next] at taken
      split at taken
      · cases taken
        exact sound.clearQueue _
      · cases taken

end Sound

/-! ## A thread that is left alone -/

section

variable [DecidableEq γ]

/-- A sender that is left alone does what `pushFrame` does. -/
theorem push_alone (between : s.sender = .betweenCalls) (call : Push) :
    ∃ actions, (∀ action ∈ actions, action = .pushGoesOn) ∧
      Run (enabled next) s (.push call :: actions) { s with
        network :=
          (pushFrame call.answers s.network call.type call.id call.seq call.byteData).2.1
        pushes := s.pushes ++ [⟨⟨call, s.network, false⟩, some (call.alone s.network)⟩] } := by
  have begins : s.next (.push call) = some (s.beginPush call) := by simp only [next, between]
  cases service : s.network.sendService with
  | none =>
      refine ⟨[], by simp, .single (begins.trans ?_)⟩
      simp [beginPush, endPush, service, Push.alone, pushFrame, between]
  | some characteristics =>
      have begun : s.beginPush call =
          { s with sender := .beforeSize ⟨call, s.network, false⟩ } := by
        simp only [beginPush, service]
      rw [begun] at begins
      by_cases inside : 0 ≤ call.id ∧ call.id < characteristics.length
      · refine ⟨[.pushGoesOn, .pushGoesOn], by simp, .cons begins (.cons (t := { s with
          sender := .beforeWrite ⟨call, s.network, false⟩ }) ?_ (.single ?_))⟩
        · simp [enabled, next, continuePush, service, inside]
        · cases written : call.answers.writeData <;>
            simp [enabled, next, continuePush, endPush, service, inside, written, Push.alone,
              pushFrame, between]
      · refine ⟨[.pushGoesOn], by simp, .cons begins (.single ?_)⟩
        have refused := Push.alone_outside service inside
        have kept : (pushFrame call.answers s.network call.type call.id call.seq
            call.byteData).2.1 = s.network := by
          simp only [pushFrame, service, if_neg inside]
        rw [refused, kept]
        by_cases positive : 0 ≤ call.id
        · have past : ¬ call.id < characteristics.length := fun within => inside ⟨positive, within⟩
          simp [enabled, next, continuePush, endPush, service, positive, past, between]
        · simp [enabled, next, continuePush, endPush, positive, between]

/-- A receiver that is left alone does what `popFrame` does. -/
theorem pop_alone (between : s.receiver = .betweenCalls) :
    ∃ actions removed, (∀ action ∈ actions, action = .popGoesOn) ∧
      Run (enabled next) s (.pop :: actions) { s with
        network := (popFrame s.network).2
        pops := s.pops ++ [⟨⟨(), s.network, false⟩, (popFrame s.network).1⟩]
        removed := removed } := by
  have begins : s.next .pop = some s.beginPop := by simp only [next, between]
  cases queue : s.network.recvArray with
  | nil =>
      refine ⟨[], s.removed, by simp, .single (begins.trans ?_)⟩
      simp [beginPop, endPop, queue, popFrame, between]
  | cons notification rest =>
      have begun : s.beginPop = { s with receiver := .beforeGet ⟨(), s.network, false⟩ } := by
        simp only [beginPop, queue]
      rw [begun] at begins
      cases read : readNotification notification s.network with
      | none =>
          refine ⟨[.popGoesOn], s.removed, by simp, .cons begins (.single ?_)⟩
          have alone : popFrame s.network = (none, s.network) := by
            simp only [readNotification] at read
            split at read
            · cases read
            · rename_i filled
              rw [Option.map_eq_none_iff] at read
              simp only [popFrame, queue, if_neg filled, read]
          simp [enabled, next, continuePop, endPop, queue, read, alone, between]
      | some result =>
          obtain ⟨dataPop, network⟩ := result
          refine ⟨[.popGoesOn, .popGoesOn], s.removed ++ [(notification, .returned)], by simp,
            .cons begins (.cons (t := { s with
              network := network
              receiver := .beforeRemove ⟨(), s.network, false⟩ dataPop }) ?_ (.single ?_))⟩
          · simp [enabled, next, continuePop, queue, read]
          · obtain ⟨-, array⟩ := readNotification_snd read
            have alone : popFrame s.network =
                (some dataPop, { network with recvArray := rest }) := by
              simp only [readNotification] at read
              split at read
              · rename_i empty
                cases read
                simp only [popFrame, queue, if_pos empty]
              · rename_i filled
                obtain ⟨frameId, parsed, read⟩ := Option.map_eq_some_iff.mp read
                cases read
                simp only [popFrame, queue, if_neg filled, parsed]
            simp [enabled, next, continuePop, endPop, array, queue, alone, between]

/-- A thread that is left alone does what `cleanup` does. -/
theorem cleanup_alone {thread : γ} (idle : s.cleaning thread = false) :
    Run (enabled next) s [.dropService thread, .clearQueue thread] { s with
      network := cleanup s.network
      sender := s.sender.interrupt
      receiver := s.receiver.interrupt
      removed := s.removed ++ s.network.recvArray.map fun notification =>
        (notification, Fate.cleared) } := by
  refine .cons (t := { s with
    network := { s.network with sendService := none }
    sender := s.sender.interrupt
    cleaning := Function.update s.cleaning thread true }) ?_ (.single ?_)
  · simp [enabled, next, idle]
  · have back : Function.update s.cleaning thread false = s.cleaning := by
      rw [← idle, Function.update_eq_self]
    simp [enabled, next, cleanup, back]

end

/-! ## Runs -/

section

variable [DecidableEq γ] {network : Network κ} {actions : List (Action γ)}

theorem sound_of_run (run : Run (enabled next) (start network) actions s) : s.Sound :=
  run.invariant Sound (fun _ _ _ sound taken => sound.step taken) (.start network)

/-- **A call that is interrupted ends by an exception, and any other one does what it does
alone.** The test of a negative identifier comes first. -/
theorem calls_of_run (run : Run (enabled next) (start network) actions s) :
    (∀ ended ∈ s.pushes, ended.outcome =
      if ended.interrupted ∧ 0 ≤ ended.call.id then none
      else some (ended.call.alone ended.before)) ∧
    ∀ ended ∈ s.pops, ended.outcome =
      if ended.interrupted then none else (popFrame ended.before).1 :=
  ⟨(sound_of_run run).pushes, (sound_of_run run).pops⟩

/-- One characteristic to write to, and one notification. -/
def linked : Network ℕ := ⟨some [0], [⟨"fb01".toList, [2, 1]⟩], 0, 0⟩

/-- A push and a pop, both with the `cleanup` of one thread after their first step. -/
def cutActions : List (Action Unit) :=
  [.push ⟨⟨true, true, true⟩, 2, 0, 1, [7]⟩, .pop, .dropService (), .pushGoesOn, .clearQueue (),
    .popGoesOn]

/-- Where they lead. -/
def cut : Interleaved ℕ Unit := (cutActions.foldlM next (start linked)).get rfl

theorem cut_run : Run (enabled next) (start linked) cutActions cut :=
  Run.enabled_iff.mpr (Option.some_get _).symm

/-- Both end by an exception. -/
example : cut.pushes.map Ended.outcome = [none] ∧ cut.pops.map Ended.outcome = [none] := ⟨rfl, rfl⟩

theorem calls_of_run_cut :
    (∀ ended ∈ cut.pushes, ended.outcome =
      if ended.interrupted ∧ 0 ≤ ended.call.id then none
      else some (ended.call.alone ended.before)) ∧
    ∀ ended ∈ cut.pops, ended.outcome =
      if ended.interrupted then none else (popFrame ended.before).1 :=
  calls_of_run cut_run

/-- **Every notification that was received was returned, was cleared, or is in the queue**, in
the order in which it came, and what was returned is what `popFrame` makes of it. -/
theorem received_of_run (run : Run (enabled next) (start network) actions s) :
    s.received = s.removed.map Prod.fst ++ s.network.recvArray ∧
      (s.pops.filterMap Ended.returned).map some =
        (s.removed.filter fun entry => entry.2 = .returned).map fun entry =>
          dataPopOf entry.1 :=
  ⟨(sound_of_run run).received, (sound_of_run run).returned⟩

theorem received_of_run_cut :
    cut.received = cut.removed.map Prod.fst ++ cut.network.recvArray ∧
      (cut.pops.filterMap Ended.returned).map some =
        (cut.removed.filter fun entry => entry.2 = .returned).map fun entry =>
          dataPopOf entry.1 :=
  received_of_run cut_run

end

end Interleaved

end Java

end BleNetwork

end ARNetworkAL
