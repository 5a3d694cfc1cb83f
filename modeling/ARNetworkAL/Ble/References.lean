import ARNetworkAL.Ble.Android
import ARNetworkAL.Library.Account
import ARNetworkAL.Library.Run
import Mathlib.Algebra.Order.Group.Multiset
import Mathlib.Tactic.Abel

/-!
# What the Android implementation holds of the Java machine

The C object keeps a global reference to the Java object, and one to the array of the last
value that was popped together with a pointer to its elements, into which the frame that was
filled points. The functions make local references besides, and attach a thread that has no
environment yet for the time of one call.

Every call of a session is a program that acquires and releases such references
(`SessionCall.program`). Between the calls exactly the references in the fields are held, and
those of an object that `New` wrote another one over: after `Delete` everything was released,
once, unless an object was lost so (`session_accounted`). The payload of a frame that was
delivered stays in place until the next value is popped (`delivered_held`).
-/

set_option autoImplicit false

namespace ARNetworkAL

open Library

namespace BleNetwork

namespace JniReferences

open Jni

variable {w : ℕ} {κ : Type}

/-- What is acquired of the C library and of the Java machine: the memory of the object, global
and local references, the elements of an array, and the attachment of a thread. -/
inductive Reference where
  | memory
  | globalRef
  | localRef
  | elements
  | thread
  deriving DecidableEq, Repr

open Accounting

/-! ## The environment of a thread -/

/-- What a function finds that asks for its environment: the thread has one, or it is attached
for the call, or there is none. -/
inductive EnvAnswer where
  | present
  | attached
  | absent
  deriving DecidableEq, Repr

/-- The beginning and the end of every function: the body is told whether there is an
environment. -/
def withEnv {α : Type} (answer : EnvAnswer) (body : Bool → Accounting Reference α) :
    Accounting Reference α :=
  match answer with
  | .present => body true
  | .absent => body false
  | .attached => do
      let thread ← acquire .thread
      let result ← body true
      release thread
      pure result

/-! ## The C object -/

/-- `currentFrameByteArray` and `currentFrame`, which is `NULL` where the elements could not be
had. -/
structure StoredFrame where
  byteArray : Reference × ℕ
  elements : Option (Reference × ℕ)
  deriving DecidableEq, Repr

/-- The fields of `ARNETWORKAL_JNIBLENETWORK_Object_t` that hold something. The reference to the
Java object is null where `NewGlobalRef` could not make one. -/
structure References where
  memory : Reference × ℕ
  jBLENetwork : Option (Reference × ℕ)
  currentFrame : Option StoredFrame
  deriving DecidableEq, Repr

/-- `ARNETWORKAL_JNIBLENetwork_ObjectDeleteCurrentFrame`. -/
def objectDeleteCurrentFrame (references : References) : Accounting Reference References :=
  match references.currentFrame with
  | none => pure references
  | some stored => do
      match stored.elements with
      | none => pure ()
      | some elements => release elements
      release stored.byteArray
      pure { references with currentFrame := none }

/-- `ARNETWORKAL_JNIBLENetwork_ObjectStoreCurrentFrame`. -/
def objectStoreCurrentFrame (pinned : Bool) (references : References) :
    Accounting Reference References := do
  let references ← objectDeleteCurrentFrame references
  let byteArray ← acquire .globalRef
  if pinned then
    let elements ← acquire .elements
    pure { references with currentFrame := some ⟨byteArray, some elements⟩ }
  else pure { references with currentFrame := some ⟨byteArray, none⟩ }

/-- `NewGlobalRef`, which answers null where the memory does not suffice. -/
def newGlobalRef (referenced : Bool) : Accounting Reference (Option (Reference × ℕ)) :=
  if referenced then do
    let globalRef ← acquire .globalRef
    pure (some globalRef)
  else pure none

/-- A call of a Java method, which is defined for an object only. -/
def callMethod (references : References) : Accounting Reference Unit :=
  match references.jBLENetwork with
  | none => crash
  | some _ => pure ()

/-- `ARNETWORKAL_JNIBLENetwork_ObjectNew`, by whether `malloc` succeeds, whether the Java class
is found and gives an object, and whether there is a global reference to that. -/
def objectNew (allocated created referenced : Bool) :
    Accounting Reference (Option References) :=
  if allocated then do
    let memory ← acquire .memory
    let jBLENetworkCls ← acquire .localRef
    if created then
      let jBLENetwork ← acquire .localRef
      release jBLENetworkCls
      let globalRef ← newGlobalRef referenced
      release jBLENetwork
      pure (some ⟨memory, globalRef, none⟩)
    -- `GetMethodID` is given null, or `ObjectDelete` reads fields that were never set
    else crash
  else pure none

/-- `ARNETWORKAL_JNIBLENetwork_ObjectDelete`. -/
def objectDelete (references : References) : Accounting Reference Unit := do
  callMethod references
  match references.jBLENetwork with
  | none => pure ()
  | some jBLENetwork => release jBLENetwork
  let references ← objectDeleteCurrentFrame references
  release references.memory

/-! ## The calls -/

/-- The fields of a manager that refer to an object, and the references of the objects that it
no longer refers to: `New` does not look whether there is one. -/
structure Holder (κ : Type) where
  sender : Option (JniObject κ × References)
  lost : List References

/-- A call, with what it meets: `New` (the allocation, the Java object, the reference to it, and
its fields), `PushFrame`, `PopFrame` (and whether the elements of the array can be had),
`Receive`, a function that calls one method which leaves these fields (`Connect`, `Unlock`),
`Cancel`, which reads the object only where there is an environment, and `Delete`. -/
inductive SessionCall (w : ℕ) (κ : Type) where
  | new (env : EnvAnswer) (allocated created referenced : Bool) (network : Network κ)
  | push (env : EnvAnswer) (caller : Mem UInt8) (newByteArray writeData : Bool) (frame : Frame w)
  | pop (env : EnvAnswer) (placement : Placement w) (pinned : Bool) (frame : Frame w)
  | receive (env : EnvAnswer) (read : Option (List Notification))
  | method (env : EnvAnswer) (network : Network κ)
  | cancel (env : EnvAnswer) (network : Network κ)
  | delete (env : EnvAnswer)

/-- The call of the Java object, to which a frame that is too large does not get. -/
def pushMethod (frame : Frame w) (references : References) : Accounting Reference Unit :=
  if mediaMtu < (valueLength frame).toNat then pure () else callMethod references

/-- `ARNETWORKAL_JNIBLENetwork_PushFrame`: the Java array for the payload. -/
def pushReferences (caller : Mem UInt8) (answers : PushAnswers) (frame : Frame w)
    (object : JniObject κ) (references : References) :
    Accounting Reference (JniObject κ × References) :=
  let outcome := pushFrame caller answers object frame
  match outcome.result with
  | none => crash
  | some _ => do
      let dataByteArray ← acquire .localRef
      pushMethod frame references
      release dataByteArray
      pure (outcome.object, references)

/-- `ARNETWORKAL_JNIBLENetwork_PopFrame`: the `DataPop`, its array, and what is stored. -/
def popReferences (placement : Placement w) (pinned : Bool) (frame : Frame w)
    (object : JniObject κ) (references : References) :
    Accounting Reference (JniObject κ × References) := do
  callMethod references
  let outcome := popFrame true placement object frame
  match (Java.popFrame object.jBLENetwork).1 with
  | none => pure (outcome.object, references)
  | some dataPop => do
      let jDataPop ← acquire .localRef
      match dataPop.data with
      | none => do
          release jDataPop
          pure (outcome.object, references)
      | some _ => do
          let currentFrameByteArray ← acquire .localRef
          release jDataPop
          let references ← objectStoreCurrentFrame pinned references
          -- the header is copied from `NULL`
          if pinned = false ∧ dataPop.result = .default then crash
          else do
            release currentFrameByteArray
            pure (outcome.object, references)

/-- A function that does nothing but call one Java method, if there is an environment. -/
def withMethod (answer : EnvAnswer) (references : References) (left : Bool → JniObject κ) :
    Accounting Reference (JniObject κ × References) :=
  withEnv answer fun env =>
    if env then do
      callMethod references
      pure (left true, references)
    else pure (left false, references)

/-- What a call does with an object. -/
def SessionCall.onObject (call : SessionCall w κ) (object : JniObject κ)
    (references : References) : Accounting Reference (JniObject κ × References) :=
  match call with
  | .push env caller newByteArray writeData frame =>
      withEnv env fun env =>
        pushReferences caller ⟨env, newByteArray, writeData⟩ frame object references
  | .pop env placement pinned frame =>
      withEnv env fun env =>
        if env then popReferences placement pinned frame object references
        -- `DeleteLocalRef` is called without an environment too
        else crash
  | .receive env read =>
      withMethod env references fun env => (Jni.receive env read object).2
  | .method env network | .cancel env network =>
      withMethod env references fun env =>
        if env then { object with jBLENetwork := network } else object
  | .new _ _ _ _ _ | .delete _ => pure (object, references)

/-- A call that reads the fields of the object at once. -/
def SessionCall.onSender (call : SessionCall w κ) (holder : Holder κ) :
    Accounting Reference (Holder κ) :=
  match holder.sender with
  | none => crash
  | some (object, references) => do
      let fields ← call.onObject object references
      pure { holder with sender := some fields }

/-- What a call does, and the manager afterwards. -/
def SessionCall.program (call : SessionCall w κ) (holder : Holder κ) :
    Accounting Reference (Holder κ) :=
  match call with
  | .new env allocated created referenced network =>
      withEnv env fun env =>
        if env then do
          match ← objectNew allocated created referenced with
          | none => pure holder
          | some references =>
              pure ⟨some (⟨network, none⟩, references),
                holder.sender.toList.map Prod.snd ++ holder.lost⟩
        else pure holder
  | .delete env =>
      withEnv env fun env =>
        match env, holder.sender with
        | true, some (_, references) => do
            objectDelete references
            pure { holder with sender := none }
        | _, _ => pure holder
  | .cancel env _ => if env = .absent then pure holder else call.onSender holder
  | call => call.onSender holder

/-- A manager with the account of what its calls did. -/
structure Session (κ : Type) where
  holder : Holder κ
  account : Account Reference

/-- A manager without a network. -/
def Session.fresh (κ : Type) : Session κ := ⟨⟨none, []⟩, .opened⟩

/-- The session after a call that does not crash. -/
def Session.next (session : Session κ) (call : SessionCall w κ) : Option (Session κ) :=
  (call.program session.holder session.account).map fun after => ⟨after.1, after.2⟩

/-! ## What is held between the calls -/

/-- What is held of a frame. -/
def StoredFrame.owned (stored : StoredFrame) : Multiset (Reference × ℕ) :=
  {stored.byteArray} + stored.elements.elim 0 fun elements => {elements}

/-- What is held of the current frame. -/
def References.frameOwned (references : References) : Multiset (Reference × ℕ) :=
  references.currentFrame.elim 0 StoredFrame.owned

/-- What is held of the Java object. -/
def References.objectOwned (references : References) : Multiset (Reference × ℕ) :=
  references.jBLENetwork.elim 0 fun jBLENetwork => {jBLENetwork}

/-- What the fields hold. -/
def References.owned (references : References) : Multiset (Reference × ℕ) :=
  {references.memory} + references.objectOwned + references.frameOwned

/-- What is held for a manager, the objects included that it lost. -/
def Holder.owned (holder : Holder κ) : Multiset (Reference × ℕ) :=
  (holder.sender.elim 0 fun fields => fields.2.owned) +
    (holder.lost.map References.owned).sum

section

variable {α : Type} {held : Multiset (Reference × ℕ)}

/-- The attachment of a thread ends with the call. -/
theorem withEnv_triple (answer : EnvAnswer) {body : Bool → Accounting Reference α}
    {left : α → Multiset (Reference × ℕ)} (triple : ∀ env, Triple held (body env) left) :
    Triple held (withEnv answer body) left := by
  cases answer with
  | present => exact triple true
  | absent => exact triple false
  | attached =>
      refine .acquire_bind fun thread => ?_
      refine (((triple true).frame {thread}).congr (add_comm _ _) fun _ => rfl).bind ?_
      intro result
      exact .release_bind (add_comm _ _) (.pure rfl)

/-- What the body ensures is ensured; it has an environment unless there is none. -/
theorem withEnv_ensures {answer : EnvAnswer} {body : Bool → Accounting Reference α}
    {post : α → Prop} (without : answer = .absent → Ensures (body false) post)
    (within : answer ≠ .absent → Ensures (body true) post) :
    Ensures (withEnv answer body) post := by
  cases answer with
  | present => exact within (by decide)
  | absent => exact without rfl
  | attached =>
      refine (Ensures.any _).bind fun thread _ => ?_
      refine (within (by decide)).bind fun result holds => ?_
      refine (Ensures.any _).bind fun _ _ => ?_
      exact .pure holds

end

/-- A method is called of an object that is there, and what is held stays held. -/
theorem callMethod_triple (references : References) {held : Multiset (Reference × ℕ)} :
    Triple held (callMethod references) fun _ => held := by
  rw [callMethod]
  cases references.jBLENetwork with
  | none => exact .crash
  | some jBLENetwork => exact .pure rfl

/-- What was held of the current frame is released. -/
theorem objectDeleteCurrentFrame_triple (references : References) :
    Triple references.frameOwned (objectDeleteCurrentFrame references) fun _ => 0 := by
  obtain ⟨memory, jBLENetwork, currentFrame⟩ := references
  cases currentFrame with
  | none => exact .pure rfl
  | some stored =>
      obtain ⟨byteArray, elements⟩ := stored
      cases elements with
      | none => exact .release_bind rfl (.pure rfl)
      | some elements =>
          refine .release_bind (add_comm _ _) ?_
          exact .release_bind (add_zero _).symm (.pure rfl)

theorem objectDeleteCurrentFrame_ensures (references : References) :
    Ensures (objectDeleteCurrentFrame references) fun after =>
      after = { references with currentFrame := none } := by
  obtain ⟨memory, jBLENetwork, currentFrame⟩ := references
  cases currentFrame with
  | none => exact .pure rfl
  | some stored =>
      obtain ⟨byteArray, elements⟩ := stored
      cases elements with
      | none => exact (Ensures.any _).bind fun _ _ => .pure rfl
      | some elements =>
          exact (Ensures.any _).bind fun _ _ => (Ensures.any _).bind fun _ _ => .pure rfl

/-- The new frame is held in its place. -/
theorem objectStoreCurrentFrame_triple (pinned : Bool) (references : References) :
    Triple references.owned (objectStoreCurrentFrame pinned references) References.owned := by
  have emptied := ((objectDeleteCurrentFrame_triple references).frame
    ({references.memory} + references.objectOwned)).congr (add_comm _ _) fun _ => rfl
  refine emptied.bind_of (objectDeleteCurrentFrame_ensures references) ?_
  rintro after rfl
  refine .acquire_bind fun byteArray => ?_
  cases pinned with
  | true =>
      refine .acquire_bind fun elements => .pure ?_
      simp only [References.owned, References.objectOwned, References.frameOwned,
        StoredFrame.owned, Option.elim]
      abel
  | false =>
      refine .pure ?_
      simp only [References.owned, References.objectOwned, References.frameOwned,
        StoredFrame.owned, Option.elim]
      abel

/-- The elements are stored if they could be had. -/
theorem objectStoreCurrentFrame_ensures (references : References) :
    Ensures (objectStoreCurrentFrame true references) fun after =>
      ∃ byteArray elements, after.currentFrame = some ⟨byteArray, some elements⟩ := by
  refine (Ensures.any _).bind fun emptied _ => ?_
  refine (Ensures.any _).bind fun byteArray _ => ?_
  refine (Ensures.any _).bind fun elements _ => ?_
  exact .pure ⟨byteArray, elements, rfl⟩

theorem newGlobalRef_triple (referenced : Bool) :
    Triple 0 (newGlobalRef referenced) fun globalRef =>
      globalRef.elim 0 fun reference => {reference} := by
  cases referenced with
  | false => exact .pure rfl
  | true => exact .acquire_bind fun globalRef => .pure (add_zero _)

/-- A new object holds itself and the Java object. -/
theorem objectNew_triple (allocated created referenced : Bool) :
    Triple 0 (objectNew allocated created referenced) fun references =>
      references.elim 0 References.owned := by
  cases allocated with
  | false => exact .pure rfl
  | true =>
      refine .acquire_bind fun memory => .acquire_bind fun jBLENetworkCls => ?_
      cases created with
      | false => exact .crash
      | true =>
          refine .acquire_bind fun jBLENetwork => ?_
          refine .release_bind (add_left_comm _ _ _) ?_
          have referred := ((newGlobalRef_triple referenced).frame
            ({jBLENetwork} + ({memory} + 0))).congr (zero_add _).symm fun _ => rfl
          refine referred.bind fun globalRef => ?_
          refine .release_bind (add_left_comm _ _ _) (.pure ?_)
          simp only [References.owned, References.objectOwned, References.frameOwned, Option.elim]
          abel

/-- There is an object if its memory was allocated. -/
theorem objectNew_ensures (allocated created referenced : Bool) :
    Ensures (objectNew allocated created referenced) fun references =>
      references.isSome = allocated := by
  cases allocated with
  | false => exact .pure rfl
  | true =>
      refine (Ensures.any _).bind fun memory _ => (Ensures.any _).bind fun jBLENetworkCls _ => ?_
      cases created with
      | false => exact .crash
      | true =>
          refine (Ensures.any _).bind fun jBLENetwork _ => ?_
          refine (Ensures.any _).bind fun _ _ => ?_
          refine (Ensures.any _).bind fun globalRef _ => ?_
          exact (Ensures.any _).bind fun _ _ => .pure rfl

/-- Deleting an object leaves nothing. -/
theorem objectDelete_triple (references : References) :
    Triple references.owned (objectDelete references) fun _ => 0 := by
  refine (callMethod_triple references).bind fun _ => ?_
  have deleted : Triple ({references.memory} + references.frameOwned) (do
      let references ← objectDeleteCurrentFrame references
      release references.memory) fun _ => 0 := by
    have emptied := ((objectDeleteCurrentFrame_triple references).frame
      {references.memory}).congr (add_comm _ _) fun _ => zero_add _
    refine emptied.bind_of (objectDeleteCurrentFrame_ensures references) ?_
    rintro after rfl
    exact .release _
  rw [References.owned, References.objectOwned]
  cases references.jBLENetwork with
  | none => exact deleted.congr (by rw [Option.elim, add_zero]) fun _ => rfl
  | some jBLENetwork =>
      exact .release_bind (by rw [Option.elim]; abel) deleted

/-! ## One call -/

variable {object : JniObject κ} {references : References}

theorem pushMethod_triple (frame : Frame w) {held : Multiset (Reference × ℕ)} :
    Triple held (pushMethod frame references) fun _ => held := by
  rw [pushMethod]
  split
  · exact .pure rfl
  · exact callMethod_triple references

theorem pushReferences_triple (caller : Mem UInt8) (answers : PushAnswers) (frame : Frame w) :
    Triple references.owned (pushReferences caller answers frame object references)
      fun fields => fields.2.owned := by
  rw [pushReferences]
  cases (pushFrame caller answers object frame).result with
  | none => exact .crash
  | some result =>
      refine .acquire_bind fun dataByteArray => ?_
      exact (pushMethod_triple frame).bind fun _ => .release_bind rfl (.pure rfl)

/-- A pop stores what it takes out of the `DataPop`, and its local references end. -/
theorem popReferences_triple (placement : Placement w) (pinned : Bool) (frame : Frame w) :
    Triple references.owned (popReferences placement pinned frame object references)
      fun fields => fields.2.owned := by
  refine (callMethod_triple references).bind fun _ => ?_
  cases (Java.popFrame object.jBLENetwork).1 with
  | none => exact .pure rfl
  | some dataPop =>
      obtain ⟨id, data, result⟩ := dataPop
      refine .acquire_bind fun jDataPop => ?_
      cases data with
      | none => exact .release_bind rfl (.pure rfl)
      | some value =>
          refine .acquire_bind fun currentFrameByteArray => ?_
          refine .release_bind (add_left_comm _ _ _) ?_
          have stored := ((objectStoreCurrentFrame_triple pinned references).frame
            {currentFrameByteArray}).congr (add_comm _ _) fun _ => rfl
          refine stored.bind fun after => ?_
          by_cases unreadable : pinned = false ∧ result = .default
          · rw [if_pos unreadable]
            exact .crash
          · rw [if_neg unreadable]
            exact .release_bind (add_comm _ _) (.pure rfl)

theorem withMethod_triple (env : EnvAnswer) (left : Bool → JniObject κ) :
    Triple references.owned (withMethod env references left) fun fields => fields.2.owned := by
  refine withEnv_triple env fun env => ?_
  cases env with
  | false => exact .pure rfl
  | true => exact (callMethod_triple references).bind fun _ => .pure rfl

theorem onObject_triple (call : SessionCall w κ) (object : JniObject κ)
    (references : References) :
    Triple references.owned (call.onObject object references) fun fields => fields.2.owned := by
  rw [SessionCall.onObject.eq_def]
  cases call with
  | new env allocated created referenced network => exact .pure rfl
  | delete env => exact .pure rfl
  | push env caller newByteArray writeData frame =>
      exact withEnv_triple env fun env => pushReferences_triple caller _ frame
  | pop env placement pinned frame =>
      refine withEnv_triple env fun env => ?_
      cases env with
      | false => exact .crash
      | true => exact popReferences_triple placement pinned frame
  | receive env read => exact withMethod_triple env _
  | method env network => exact withMethod_triple env _
  | cancel env network => exact withMethod_triple env _

/-- A new object is held besides what was held before. -/
theorem owned_new (object : JniObject κ) (references : References) (holder : Holder κ) :
    Holder.owned ⟨some (object, references), holder.sender.toList.map Prod.snd ++ holder.lost⟩ =
      references.owned + holder.owned := by
  obtain ⟨sender, lost⟩ := holder
  cases sender with
  | none => simp [Holder.owned]
  | some fields => simp [Holder.owned]

theorem onSender_triple (call : SessionCall w κ) (holder : Holder κ) :
    Triple holder.owned (call.onSender holder) Holder.owned := by
  obtain ⟨sender, lost⟩ := holder
  cases sender with
  | none => exact .crash
  | some fields =>
      have used := (onObject_triple call fields.1 fields.2).frame
        (lost.map References.owned).sum
      exact used.bind fun _ => .pure rfl

/-- **Every call leaves held what the manager has afterwards.** -/
theorem program_triple (call : SessionCall w κ) (holder : Holder κ) :
    Triple holder.owned (call.program holder) Holder.owned := by
  obtain ⟨sender, lost⟩ := holder
  rw [SessionCall.program.eq_def]
  cases call with
  | new env allocated created referenced network =>
      refine withEnv_triple env fun env => ?_
      cases env with
      | false => exact .pure rfl
      | true =>
          have made := ((objectNew_triple allocated created referenced).frame
            (Holder.owned ⟨sender, lost⟩)).congr (zero_add _).symm fun _ => rfl
          refine made.bind fun references => ?_
          cases references with
          | none => exact .pure (zero_add _)
          | some references =>
              exact .pure (owned_new _ references ⟨sender, lost⟩).symm
  | delete env =>
      refine withEnv_triple env fun env => ?_
      cases env with
      | false => exact .pure rfl
      | true =>
          cases sender with
          | none => exact .pure rfl
          | some fields =>
              have deleted := (objectDelete_triple fields.2).frame
                (lost.map References.owned).sum
              exact deleted.bind fun _ => .pure rfl
  | cancel env network =>
      change Triple _ (if env = .absent then pure _ else _) _
      split
      · exact .pure rfl
      · exact onSender_triple _ _
  | _ => exact onSender_triple _ _

/-! ## What a call loses, and what it keeps -/

/-- The references of the object that `New` writes another one over. -/
def SessionCall.loses (call : SessionCall w κ) (holder : Holder κ) : List References :=
  match call with
  | .new env allocated _ _ _ =>
      if env ≠ .absent ∧ allocated = true then holder.sender.toList.map Prod.snd else []
  | _ => []

theorem loses_new (env : EnvAnswer) (allocated created referenced : Bool) (network : Network κ)
    (holder : Holder κ) :
    (SessionCall.new (w := w) env allocated created referenced network).loses holder =
      if env ≠ .absent ∧ allocated = true then holder.sender.toList.map Prod.snd else [] :=
  rfl

/-- The call neither deletes the object nor stores a value that it popped. -/
def SessionCall.Keeps (call : SessionCall w κ) (holder : Holder κ) : Prop :=
  match call with
  | .pop _ _ _ _ =>
      ∀ fields ∈ holder.sender,
        (Java.popFrame fields.1.jBLENetwork).1.bind Java.DataPop.data = none
  | .delete env => env = .absent
  | _ => True

theorem onSender_lost (call : SessionCall w κ) (holder : Holder κ) :
    Ensures (call.onSender holder) fun after => after.lost = holder.lost := by
  obtain ⟨sender, lost⟩ := holder
  cases sender with
  | none => exact .crash
  | some fields => exact (Ensures.any _).bind fun _ _ => .pure rfl

/-- **Only `New` loses an object**, the one that was there. -/
theorem program_lost (call : SessionCall w κ) (holder : Holder κ) :
    Ensures (call.program holder) fun after => after.lost = call.loses holder ++ holder.lost := by
  obtain ⟨sender, lost⟩ := holder
  rw [SessionCall.program.eq_def]
  cases call with
  | new env allocated created referenced network =>
      refine withEnv_ensures (fun absent => .pure ?_) fun present => ?_
      · rw [loses_new, if_neg fun made => made.1 absent]
        rfl
      · refine (objectNew_ensures allocated created referenced).bind fun references made => ?_
        cases references with
        | none =>
            refine .pure ?_
            rw [loses_new, if_neg fun both => Bool.false_ne_true (made.trans both.2)]
            rfl
        | some references =>
            refine .pure ?_
            rw [loses_new, if_pos ⟨present, made.symm⟩]
  | delete env =>
      refine withEnv_ensures (fun _ => .pure rfl) fun _ => ?_
      cases sender with
      | none => exact .pure rfl
      | some fields => exact (Ensures.any _).bind fun _ _ => .pure rfl
  | cancel env network =>
      change Ensures (if env = .absent then pure _ else _) _
      split
      · exact .pure rfl
      · exact onSender_lost _ _
  | _ => exact onSender_lost _ _

theorem pushReferences_ensures (caller : Mem UInt8) (answers : PushAnswers) (frame : Frame w) :
    Ensures (pushReferences caller answers frame object references) fun fields =>
      fields.2 = references := by
  rw [pushReferences]
  cases (pushFrame caller answers object frame).result with
  | none => exact .crash
  | some result =>
      refine (Ensures.any _).bind fun _ _ => (Ensures.any _).bind fun _ _ => ?_
      exact (Ensures.any _).bind fun _ _ => .pure rfl

/-- A pop that takes no value leaves what is stored. -/
theorem popReferences_ensures (placement : Placement w) (pinned : Bool) (frame : Frame w)
    (nothing : (Java.popFrame object.jBLENetwork).1.bind Java.DataPop.data = none) :
    Ensures (popReferences placement pinned frame object references) fun fields =>
      fields.2 = references := by
  refine (Ensures.any _).bind fun _ _ => ?_
  cases popped : (Java.popFrame object.jBLENetwork).1 with
  | none => exact .pure rfl
  | some dataPop =>
      have absent : dataPop.data = none := by simpa [popped] using nothing
      refine (Ensures.any _).bind fun jDataPop _ => ?_
      rw [absent]
      exact (Ensures.any _).bind fun _ _ => .pure rfl

theorem withMethod_ensures {env : EnvAnswer} (left : Bool → JniObject κ) :
    Ensures (withMethod env references left) fun fields => fields.2 = references :=
  withEnv_ensures (fun _ => .pure rfl) fun _ => (Ensures.any _).bind fun _ _ => .pure rfl

/-- A call that keeps what is stored keeps the references of the object. -/
theorem onSender_keeps {call : SessionCall w κ} {holder : Holder κ} (keeps : call.Keeps holder) :
    Ensures (call.onSender holder) fun after => after.owned = holder.owned := by
  obtain ⟨sender, lost⟩ := holder
  cases sender with
  | none => exact .crash
  | some fields =>
      obtain ⟨object, references⟩ := fields
      have kept : Ensures (call.onObject object references) fun after => after.2 = references := by
        rw [SessionCall.onObject.eq_def]
        cases call with
        | new env allocated created referenced network => exact .pure rfl
        | delete env => exact .pure rfl
        | push env caller newByteArray writeData frame =>
            exact withEnv_ensures (fun _ => pushReferences_ensures caller _ frame)
              fun _ => pushReferences_ensures caller _ frame
        | pop env placement pinned frame =>
            refine withEnv_ensures (fun _ => .crash) fun _ => ?_
            exact popReferences_ensures placement pinned frame (keeps _ rfl)
        | receive env read => exact withMethod_ensures _
        | method env network => exact withMethod_ensures _
        | cancel env network => exact withMethod_ensures _
      refine kept.bind fun after same => .pure ?_
      obtain ⟨object, references⟩ := after
      cases same
      rfl

/-- **What is held stays held** while nothing is deleted and no value popped. -/
theorem program_keeps {call : SessionCall w κ} {holder : Holder κ} (keeps : call.Keeps holder) :
    Ensures (call.program holder) fun after => holder.owned ≤ after.owned := by
  rw [SessionCall.program.eq_def]
  cases call with
  | new env allocated created referenced network =>
      refine withEnv_ensures (fun _ => .pure le_rfl) fun _ => ?_
      refine (Ensures.any _).bind fun references _ => ?_
      cases references with
      | none => exact .pure le_rfl
      | some references =>
          refine .pure ?_
          rw [owned_new _ references holder]
          exact Multiset.le_add_left _ _
  | delete env =>
      refine withEnv_ensures (fun _ => .pure le_rfl) fun present => ?_
      exact absurd keeps present
  | cancel env network =>
      change Ensures (if env = .absent then pure _ else _) _
      split
      · exact .pure le_rfl
      · intro account after reached ran
        exact le_of_eq (onSender_keeps keeps account after reached ran).symm
  | _ =>
      intro account after reached ran
      exact le_of_eq (onSender_keeps keeps account after reached ran).symm

/-- The elements that the frame which was popped last points into. -/
def Holder.elements (holder : Holder κ) : Option (Reference × ℕ) :=
  holder.sender.bind fun fields => fields.2.currentFrame.bind StoredFrame.elements

theorem Holder.mem_owned {holder : Holder κ} {elements : Reference × ℕ}
    (stored : holder.elements = some elements) : elements ∈ holder.owned := by
  obtain ⟨sender, lost⟩ := holder
  obtain ⟨⟨object, references⟩, rfl, current⟩ := Option.bind_eq_some_iff.mp stored
  obtain ⟨frame, there, same⟩ := Option.bind_eq_some_iff.mp current
  have held : elements ∈ References.frameOwned references := by
    rw [References.frameOwned, there, Option.elim, StoredFrame.owned, same]
    exact Multiset.mem_add.mpr (.inr (Multiset.mem_singleton_self _))
  exact Multiset.mem_add.mpr (.inl (Multiset.mem_add.mpr (.inr held)))

/-- **A frame that was delivered points into elements that are held.** -/
theorem program_pop_elements {env : EnvAnswer} {placement : Placement w} {pinned : Bool}
    {frame : Frame w} {lost : List References}
    (delivered : (popFrame true placement object frame).result = some .default) :
    Ensures ((SessionCall.pop env placement pinned frame).program
        ⟨some (object, references), lost⟩)
      fun after => ∃ elements, after.elements = some elements := by
  have stored : Ensures (popReferences placement pinned frame object references) fun fields =>
      ∃ elements, fields.2.currentFrame.bind StoredFrame.elements = some elements := by
    refine (Ensures.any _).bind fun _ _ => ?_
    cases popped : (Java.popFrame object.jBLENetwork).1 with
    | none => simp [popFrame, popped] at delivered
    | some dataPop =>
        obtain ⟨id, data, result⟩ := dataPop
        refine (Ensures.any _).bind fun jDataPop _ => ?_
        cases data with
        | none => simp [popFrame, popped] at delivered
        | some value =>
            have same : result = .default := by
              by_contra other
              simp [popFrame, popped, other] at delivered
            refine (Ensures.any _).bind fun _ _ => (Ensures.any _).bind fun _ _ => ?_
            cases pinned with
            | false =>
                refine (Ensures.any _).bind fun _ _ => ?_
                rw [if_pos ⟨rfl, same⟩]
                exact .crash
            | true =>
                refine (objectStoreCurrentFrame_ensures references).bind fun after current => ?_
                obtain ⟨byteArray, elements, stored⟩ := current
                rw [if_neg fun unreadable => Bool.noConfusion unreadable.1]
                refine (Ensures.any _).bind fun _ _ => .pure ⟨elements, ?_⟩
                rw [stored]
                rfl
  rw [SessionCall.program.eq_def]
  have used : Ensures ((SessionCall.pop env placement pinned frame).onObject object references)
      fun fields =>
        ∃ elements, fields.2.currentFrame.bind StoredFrame.elements = some elements := by
    rw [SessionCall.onObject.eq_def]
    exact withEnv_ensures (fun _ => .crash) fun _ => stored
  exact used.bind fun fields current => .pure current

/-! ## A session -/

/-- The account holds what the manager has. -/
def Session.Sound (session : Session κ) : Prop :=
  session.account.Holds session.holder.owned

theorem fresh_sound : (Session.fresh κ).Sound := Account.Holds.opened

/-- What a call ensures holds of the session afterwards. -/
theorem next_ensures {session after : Session κ} {call : SessionCall w κ}
    {post : Holder κ → Prop} (ensures : Ensures (call.program session.holder) post)
    (taken : session.next call = some after) : post after.holder := by
  obtain ⟨⟨holder, account⟩, ran, rfl⟩ := Option.map_eq_some_iff.mp taken
  exact ensures session.account holder account ran

theorem next_sound {session after : Session κ} {call : SessionCall w κ} (sound : session.Sound)
    (taken : session.next call = some after) : after.Sound := by
  obtain ⟨⟨holder, account⟩, ran, rfl⟩ := Option.map_eq_some_iff.mp taken
  have left := program_triple call session.holder session.account 0
    (by rwa [add_zero]) holder account ran
  rwa [add_zero] at left

/-- The next call writes a new object over another one. -/
def Session.Overwrites (session : Session κ) (call : SessionCall w κ) : Prop :=
  call.loses session.holder ≠ []

theorem next_lost {session after : Session κ} {call : SessionCall w κ}
    (taken : session.next call = some after) :
    after.holder.lost ≠ [] ↔ session.holder.lost ≠ [] ∨ session.Overwrites call := by
  rw [next_ensures (program_lost call session.holder) taken, Session.Overwrites, ne_eq,
    List.append_eq_nil_iff]
  tauto

theorem References.memory_mem (references : References) :
    references.memory ∈ references.owned := by
  simp [References.owned]

/-- Nothing is held exactly without an object, if none was lost. -/
theorem owned_eq_zero_iff (holder : Holder κ) :
    holder.owned = 0 ↔ holder.sender = none ∧ holder.lost = [] := by
  obtain ⟨sender, lost⟩ := holder
  have something : ∀ {resource}, resource ∈ Holder.owned ⟨sender, lost⟩ →
      ¬ Holder.owned ⟨sender, lost⟩ = 0 := by
    intro resource held nothing
    rw [nothing] at held
    exact Multiset.notMem_zero resource held
  cases sender with
  | some fields =>
      refine iff_of_false (something (Multiset.mem_add.mpr (.inl fields.2.memory_mem))) ?_
      exact fun both => Option.some_ne_none fields both.1
  | none =>
      cases lost with
      | nil => exact iff_of_true rfl ⟨rfl, rfl⟩
      | cons references rest =>
          have held : references.memory ∈
              (⟨none, references :: rest⟩ : Holder κ).owned := by
            simp [Holder.owned, references.memory_mem]
          exact iff_of_false (something held) fun both => List.cons_ne_nil _ _ both.2

/-- **The account of a session.** From a manager without a network, after any calls: the ledger
settles on what the fields hold, nothing was released twice, and all was released exactly if
the object was deleted and `New` was never called over another one. -/
theorem session_accounted {calls : List (SessionCall w κ)} {session : Session κ}
    (ran : Run (enabled Session.next) (.fresh κ) calls session) :
    Ledger.settle 0 session.account.entries = some session.holder.owned ∧
      (Ledger.released session.account.entries).Nodup ∧
      (Ledger.Balanced session.account.entries ↔ session.holder.sender = none ∧
        ¬ ∃ before call after middle, calls = before ++ call :: after ∧
          Run (enabled Session.next) (.fresh κ) before middle ∧ middle.Overwrites call ∧
          Run (enabled Session.next) middle (call :: after) session) := by
  have sound : session.Sound :=
    ran.invariant Session.Sound (fun _ _ _ sound taken => next_sound sound taken) fresh_sound
  have lost := ran.holds_iff (P := fun session => session.holder.lost ≠ [])
    (Q := Session.Overwrites) fun _ _ _ taken => next_lost taken
  refine ⟨sound.settled, sound.releasedOnce.1, ?_⟩
  rw [sound.balanced_iff, owned_eq_zero_iff]
  refine and_congr_right fun _ => ?_
  rw [← not_iff_not, not_not, ← ne_eq, lost]
  exact or_iff_right fun fresh => fresh rfl

/-- A manager whose Java object has received one value. -/
def received : SessionCall 64 Unit :=
  .new .present true true true ⟨none, [⟨['f', 'a', '0', '1'], [2, 7, 65]⟩], 0, 0⟩

/-- A pop, with the thread attached for the call. -/
def attachedPop : SessionCall 64 Unit := .pop .attached ⟨16, fun _ => 0⟩ true (.reset 64)

/-- Where calls lead a manager without a network. -/
def reached (calls : List (SessionCall 64 Unit)) : Session Unit :=
  (calls.foldlM Session.next (.fresh Unit)).getD (.fresh Unit)

/-- The value is popped, and the object deleted. -/
theorem session_accounted_deleted :
    let session := reached [received, attachedPop, .delete .present]
    session.holder.sender = none ∧
      Ledger.settle 0 session.account.entries = some session.holder.owned ∧
      (Ledger.released session.account.entries).Nodup := by
  have ran : Run (enabled Session.next) (.fresh Unit) [received, attachedPop, .delete .present]
      (reached [received, attachedPop, .delete .present]) := Run.enabled_iff.mpr rfl
  have accounted := session_accounted ran
  exact ⟨rfl, accounted.1, accounted.2.1⟩

/-- **The payload of a frame stays in place** until a value is popped or the object deleted:
after any calls before the pop that delivered it, and any after it. -/
theorem delivered_held {calls others : List (SessionCall w κ)} {session popped final : Session κ}
    {env : EnvAnswer} {placement : Placement w} {pinned : Bool} {frame : Frame w}
    (ran : Run (enabled Session.next) (.fresh κ) calls session)
    (present : session.holder.sender = some (object, references))
    (taken : session.next (.pop env placement pinned frame) = some popped)
    (delivered : (popFrame true placement object frame).result = some .default)
    (onward : Run (restrict (fun session call => call.Keeps session.holder)
      (enabled Session.next)) popped others final) :
    ∃ elements, popped.holder.elements = some elements ∧ elements ∈ final.holder.owned ∧
      elements ∉ Ledger.released final.account.entries := by
  obtain ⟨⟨sender, lost⟩, account⟩ := session
  cases present
  obtain ⟨elements, stored⟩ := next_ensures (program_pop_elements delivered) taken
  have sound : popped.Sound :=
    (ran.append (.single taken)).invariant Session.Sound
      (fun _ _ _ sound taken => next_sound sound taken) fresh_sound
  have kept := onward.invariant
    (fun session => session.Sound ∧ elements ∈ session.holder.owned) ?_
    ⟨sound, Holder.mem_owned stored⟩
  · exact ⟨elements, stored, kept.2, kept.1.releasedOnce.2 elements kept.2⟩
  · intro session call after held taken
    refine ⟨next_sound held.1 taken.2, ?_⟩
    exact Multiset.mem_of_le (next_ensures (program_keeps taken.1) taken.2) held.2

/-- The value is popped, and the queue, which is empty then, asked again. -/
theorem delivered_held_empty :
    ∃ elements, (reached [received, attachedPop]).holder.elements = some elements ∧
      elements ∈ (reached [received, attachedPop, attachedPop]).holder.owned ∧
      elements ∉
        Ledger.released (reached [received, attachedPop, attachedPop]).account.entries := by
  have ran : Run (enabled Session.next) (.fresh Unit) [received] (reached [received]) :=
    Run.enabled_iff.mpr rfl
  have popped : (reached [received]).next attachedPop =
      some (reached [received, attachedPop]) := rfl
  have onward : Run (restrict (fun session call => call.Keeps session.holder)
      (enabled Session.next)) (reached [received, attachedPop]) [attachedPop]
      (reached [received, attachedPop, attachedPop]) := by
    refine .single ⟨?_, rfl⟩
    intro fields present
    cases present
    rfl
  exact delivered_held ran rfl popped rfl onward

end JniReferences

end BleNetwork

end ARNetworkAL
