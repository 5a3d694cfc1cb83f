import ARNetworkAL.Ble.Bandwidth
import ARNetworkAL.Wifi.Metering

/-!
# The bandwidth on iOS between two statements

On iOS the thread copies both counts of its object before it sets the first of them to zero, so
what `pushFrame` adds while `bw_currentDown` is copied is gone too. Each direction is an object
of the wireless network that is metered, for which some statements of the thread do nothing
(`TurnPoint.statement`), and the same comes of it (`windows_of_run`).
-/

set_option autoImplicit false

namespace ARNetworkAL

open Library Function

namespace BleNetwork

namespace Ios

open WifiNetwork (Metered TurnStatement Averages bwNbElems)
open WifiNetwork.Metering (inexact_call inexact_count)

variable {w : ℕ} {κ : Type}

/-! ## Additions -/

/-- What a `pushFrame` adds to `bw_currentUp`, if it gets there. -/
def pushAdds (outcome : PushOutcome (Network κ)) : Option ℕ :=
  if outcome.result = some .default then some (pushedBytes outcome) else none

/-- What a `popFrame` adds to `bw_currentDown`, if it gets there. -/
def popAdds (outcome : PopOutcome w (Network κ)) : Option ℕ :=
  if outcome.result = some .default then some (poppedBytes outcome) else none

theorem pushAdds_getD (outcome : PushOutcome (Network κ)) :
    (pushAdds outcome).getD 0 = pushedBytes outcome := by
  rw [pushAdds]
  split
  · rfl
  · rename_i failed
    rw [pushedBytes, if_neg failed]
    rfl

theorem popAdds_getD (outcome : PopOutcome w (Network κ)) :
    (popAdds outcome).getD 0 = poppedBytes outcome := by
  rw [popAdds]
  split
  · rfl
  · rename_i failed
    rw [poppedBytes, if_neg failed]
    rfl

/-! ## Steps -/

/-- The two directions. -/
inductive Direction where
  | up
  | down
  deriving DecidableEq, Repr

/-- What the thread does next in the body of its loop. -/
inductive TurnPoint where
  | increment
  | wrap
  | storeUp
  | storeDown
  | clearUp
  | clearDown
  deriving DecidableEq, Repr

namespace TurnPoint

/-- What the statement there does to the object. -/
def apply (measure : Measure κ) : TurnPoint → Measure κ
  | increment => { measure with bwIndex := measure.bwIndex + 1 }
  | wrap => { measure with bwIndex := measure.bwIndex.tmod bwNbElems }
  | storeUp =>
      { measure with
        bwElementsUp :=
          measure.bwElementsUp.set measure.bwIndex.toNat measure.network.bwCurrentUp }
  | storeDown =>
      { measure with
        bwElementsDown :=
          measure.bwElementsDown.set measure.bwIndex.toNat measure.network.bwCurrentDown }
  | clearUp => { measure with network := { measure.network with bwCurrentUp := 0 } }
  | clearDown => { measure with network := { measure.network with bwCurrentDown := 0 } }

/-- Where the thread is after it, or in `ARSAL_Sem_Timedwait`. -/
def after : TurnPoint → Option TurnPoint
  | increment => some wrap
  | wrap => some storeUp
  | storeUp => some storeDown
  | storeDown => some clearUp
  | clearUp => some clearDown
  | clearDown => none

/-- What the statement is for a direction. -/
def statement : TurnPoint → Direction → Option TurnStatement
  | increment, _ => some .increment
  | wrap, _ => some .wrap
  | storeUp, .up => some .store
  | storeUp, .down => none
  | storeDown, .up => none
  | storeDown, .down => some .store
  | clearUp, .up => some .clear
  | clearUp, .down => none
  | clearDown, .up => none
  | clearDown, .down => some .clear

end TurnPoint

/-- The counters of a direction. -/
def Measure.of (measure : Measure κ) : Direction → WifiNetwork.WifiNetworkObject 0
  | .up => measure.up
  | .down => measure.down

/-- The object, for each direction the addition that is under way and the tally, and where the
thread is in a turn of its loop. -/
structure Metering (κ : Type) where
  measure : Measure κ
  loaded : Direction → Option (UInt32 × ℕ)
  tally : Direction → Tally
  turn : Option TurnPoint

/-- A call up to its load, with what it meets, a store, or a step of the thread. -/
inductive MeteringAction (w : ℕ) where
  | pushFrame (caller : Mem UInt8) (answers : PushAnswers) (frame : Frame w)
  | popFrame (placement : Placement w) (frame : Frame w)
  | receive (read : Option (List Notification))
  | store (direction : Direction)
  | bandwidthThread

namespace Metering

/-- The object as `connectWithBTManager` leaves it, and the thread in its loop. -/
def fresh (sendService : List κ) (measure : Measure κ) : Metering κ where
  measure := measure.connect sendService
  loaded := fun _ => none
  tally := fun _ => .fresh
  turn := none

/-- One direction. -/
def side (s : Metering κ) (direction : Direction) : Metered 0 where
  object := s.measure.of direction
  loaded := s.loaded direction
  tally := s.tally direction

/-- The object after a step of one direction on a network. -/
def setSide (s : Metering κ) (network : Network κ) (direction : Direction)
    (metered : Metered 0) : Metering κ where
  measure :=
    { s.measure with
      network :=
        match direction with
        | .up => { network with bwCurrentUp := metered.object.bwCurrent }
        | .down => { network with bwCurrentDown := metered.object.bwCurrent } }
  loaded := update s.loaded direction metered.loaded
  tally := update s.tally direction metered.tally
  turn := s.turn

/-- The state after a step, if it is possible. -/
def next (s : Metering κ) : MeteringAction w → Option (Metering κ)
  | .pushFrame caller answers frame =>
      let outcome := Ios.pushFrame caller answers s.measure.network frame
      ((s.side .up).call { s.measure with network := outcome.object }.up
        (pushAdds outcome)).map (s.setSide outcome.object .up)
  | .popFrame placement frame =>
      let outcome := Ios.popFrame placement s.measure.network frame
      ((s.side .down).call { s.measure with network := outcome.object }.down
        (popAdds outcome)).map (s.setSide outcome.object .down)
  | .receive read =>
      let network := (Ios.receive read s.measure.network).2
      ((s.side .down).call { s.measure with network := network }.down none).map
        (s.setSide network .down)
  | .store direction =>
      (s.side direction).store.map (s.setSide s.measure.network direction)
  | .bandwidthThread =>
      match s.turn with
      -- a second has passed
      | none => some { s with turn := some .increment }
      | some point =>
          some
            { s with
              measure := point.apply s.measure
              tally := fun direction =>
                (point.statement direction).elim (s.tally direction) fun statement =>
                  statement.count (s.tally direction)
              turn := point.after }

end Metering

/-! ## What is counted -/

/-- The next statement of a direction before a point of a turn. -/
def statementFrom : Option TurnPoint → Direction → Option TurnStatement
  | none, _ => none
  | some .increment, _ => some .increment
  | some .wrap, _ => some .wrap
  | some .storeUp, _ => some .store
  | some .storeDown, .up => some .clear
  | some .storeDown, .down => some .store
  | some .clearUp, _ => some .clear
  | some .clearDown, .up => none
  | some .clearDown, .down => some .clear

/-- A statement is the next one of a direction, or leaves it. -/
theorem statementFrom_after (point : TurnPoint) (direction : Direction) :
    (∃ statement, point.statement direction = some statement ∧
      statementFrom (some point) direction = some statement ∧
      statementFrom point.after direction = statement.follower) ∨
    (point.statement direction = none ∧
      statementFrom point.after direction = statementFrom (some point) direction) := by
  cases point with
  | increment => exact .inl ⟨_, rfl, rfl, rfl⟩
  | wrap => exact .inl ⟨_, rfl, rfl, rfl⟩
  | storeUp =>
      cases direction with
      | up => exact .inl ⟨_, rfl, rfl, rfl⟩
      | down => exact .inr ⟨rfl, rfl⟩
  | storeDown =>
      cases direction with
      | up => exact .inr ⟨rfl, rfl⟩
      | down => exact .inl ⟨_, rfl, rfl, rfl⟩
  | clearUp =>
      cases direction with
      | up => exact .inl ⟨_, rfl, rfl, rfl⟩
      | down => exact .inr ⟨rfl, rfl⟩
  | clearDown =>
      cases direction with
      | up => exact .inr ⟨rfl, rfl⟩
      | down => exact .inl ⟨_, rfl, rfl, rfl⟩

/-- What a statement does to a direction. -/
theorem of_apply (measure : Measure κ) (point : TurnPoint) (direction : Direction) :
    (point.apply measure).of direction =
      (point.statement direction).elim (measure.of direction) fun statement =>
        statement.apply (measure.of direction) := by
  cases point <;> cases direction <;> rfl

namespace Metering

variable {s after : Metering κ}

/-- Both directions are counted. -/
def Keeps (s : Metering κ) : Prop :=
  ∀ direction, (s.side direction).Keeps (statementFrom s.turn direction)

section

variable {network : Network κ} {direction other : Direction} {metered : Metered 0}

theorem side_setSide_self
    (same : metered.object =
      { ({ s.measure with network := network } : Measure κ).of direction with
        bwCurrent := metered.object.bwCurrent }) :
    (s.setSide network direction metered).side direction = metered := by
  obtain ⟨object, loaded, tally⟩ := metered
  cases direction with
  | up =>
      simp only [side, setSide, update_self, Metered.mk.injEq, and_true]
      exact same.symm
  | down =>
      simp only [side, setSide, update_self, Metered.mk.injEq, and_true]
      exact same.symm

theorem side_setSide_other (apart : other ≠ direction)
    (same : ({ s.measure with network := network } : Measure κ).of other = s.measure.of other) :
    (s.setSide network direction metered).side other = s.side other := by
  cases direction with
  | up =>
      cases other with
      | up => exact absurd rfl apart
      | down =>
          simp only [side, setSide, update_of_ne apart, Metered.mk.injEq, and_true]
          exact same
  | down =>
      cases other with
      | up =>
          simp only [side, setSide, update_of_ne apart, Metered.mk.injEq, and_true]
          exact same
      | down => exact absurd rfl apart

end

/-- A step of one direction on a network that leaves the other one. -/
structure Steps (s : Metering κ) (network : Network κ) (direction : Direction)
    (stepped : Option (Metered 0)) : Prop where
  here : ∀ metered, stepped = some metered → metered.object =
    { ({ s.measure with network := network } : Measure κ).of direction with
      bwCurrent := metered.object.bwCurrent }
  others : ∀ other, other ≠ direction →
    ({ s.measure with network := network } : Measure κ).of other = s.measure.of other

theorem Steps.of_call {network : Network κ} {direction : Direction} {adds : Option ℕ}
    (others : ∀ other, other ≠ direction →
      ({ s.measure with network := network } : Measure κ).of other = s.measure.of other) :
    s.Steps network direction ((s.side direction).call
      (({ s.measure with network := network } : Measure κ).of direction) adds) where
  here := by
    intro metered taken
    rcases Metered.call_cases taken with ⟨-, -, rfl⟩ | ⟨bytes, -, -, rfl⟩
    · rfl
    · rfl
  others := others

theorem Steps.of_store (direction : Direction) :
    s.Steps s.measure.network direction (s.side direction).store where
  here := by
    intro metered taken
    obtain ⟨_, -, rfl⟩ := Option.map_eq_some_iff.mp taken
    rfl
  others := fun _ _ => rfl

section

variable {network : Network κ} {direction : Direction} {stepped : Option (Metered 0)}

/-- **A step of one direction is one of that direction.** -/
theorem Steps.side (steps : s.Steps network direction stepped)
    (taken : stepped.map (s.setSide network direction) = some after) :
    stepped = some (after.side direction) ∧ after.turn = s.turn ∧
      ∀ other, other ≠ direction → after.side other = s.side other := by
  obtain ⟨metered, there, rfl⟩ := Option.map_eq_some_iff.mp taken
  refine ⟨?_, rfl, ?_⟩
  · rw [there, side_setSide_self (steps.here metered there)]
  · intro other apart
    exact side_setSide_other apart (steps.others other apart)

end

/-- The other direction is not that of a `pushFrame`. -/
theorem steps_pushFrame (caller : Mem UInt8) (answers : PushAnswers) (frame : Frame w) :
    let outcome := Ios.pushFrame caller answers s.measure.network frame
    s.Steps outcome.object .up ((s.side .up).call { s.measure with network := outcome.object }.up
      (pushAdds outcome)) := by
  refine Steps.of_call ?_
  intro other apart
  obtain ⟨down, -⟩ := pushFrame_measure s.measure.network caller answers frame
  cases other with
  | up => exact absurd rfl apart
  | down => simp only [Measure.of, Measure.down, down]

theorem steps_popFrame (placement : Placement w) (frame : Frame w) :
    let outcome := Ios.popFrame placement s.measure.network frame
    s.Steps outcome.object .down
      ((s.side .down).call { s.measure with network := outcome.object }.down
        (popAdds outcome)) := by
  refine Steps.of_call ?_
  intro other apart
  obtain ⟨up, -⟩ := popFrame_measure s.measure.network placement frame
  cases other with
  | up => simp only [Measure.of, Measure.up, up]
  | down => exact absurd rfl apart

theorem steps_receive (read : Option (List Notification)) :
    let network := (Ios.receive read s.measure.network).2
    s.Steps network .down ((s.side .down).call { s.measure with network := network }.down
      none) := by
  refine Steps.of_call ?_
  intro other apart
  obtain ⟨up, -⟩ := receive_measure s.measure.network read
  cases other with
  | up => simp only [Measure.of, Measure.up, up]
  | down => exact absurd rfl apart

/-- A step makes the count of a direction wrong: it stores what was loaded in a window that is
over, or ends a window to which something was stored since it was copied. -/
def Overlaps (direction : Direction) (s : Metering κ) : MeteringAction w → Prop
  | .store there => there = direction ∧ (s.tally there).Revives
  | .bandwidthThread =>
      (∃ point, s.turn = some point ∧ point.statement direction = some .clear) ∧
        (s.tally direction).Drops
  | _ => False

/-- **What a step does.** It is a call of one direction up to its load, which overlaps nothing,
or a store of one direction, or a step of the thread. -/
theorem next_cases {action : MeteringAction w} (taken : s.next action = some after) :
    (∃ direction, after.turn = s.turn ∧
      (∀ other, other ≠ direction → after.side other = s.side other) ∧
      ((∃ object adds, (s.side direction).call object adds = some (after.side direction) ∧
          object.bwIndex = (s.side direction).object.bwIndex ∧
          object.bwElements = (s.side direction).object.bwElements ∧
          object.bwCurrent =
            (s.side direction).object.bwCurrent + UInt32.ofNat (adds.getD 0) ∧
          ∀ there, ¬ s.Overlaps there action) ∨
        (s.side direction).store = some (after.side direction) ∧ action = .store direction)) ∨
    (action = .bandwidthThread ∧
      (s.turn = none ∧ after = { s with turn := some .increment } ∨
        ∃ point, s.turn = some point ∧ after =
          { s with
            measure := point.apply s.measure
            tally := fun direction =>
              (point.statement direction).elim (s.tally direction) fun statement =>
                statement.count (s.tally direction)
            turn := point.after })) := by
  have nothing (current : UInt32) :
      current = current + UInt32.ofNat ((none : Option ℕ).getD 0) := by simp
  cases action with
  | pushFrame caller answers frame =>
      obtain ⟨called, turn, others⟩ := (steps_pushFrame caller answers frame).side taken
      obtain ⟨-, current⟩ := pushFrame_measure s.measure.network caller answers frame
      rw [← pushAdds_getD] at current
      exact .inl ⟨.up, turn, others, .inl ⟨_, _, called, rfl, rfl, current, fun _ => id⟩⟩
  | popFrame placement frame =>
      obtain ⟨called, turn, others⟩ := (steps_popFrame placement frame).side taken
      obtain ⟨-, current⟩ := popFrame_measure s.measure.network placement frame
      rw [← popAdds_getD] at current
      exact .inl ⟨.down, turn, others, .inl ⟨_, _, called, rfl, rfl, current, fun _ => id⟩⟩
  | receive read =>
      obtain ⟨called, turn, others⟩ := (steps_receive read).side taken
      obtain ⟨-, current⟩ := receive_measure s.measure.network read
      exact .inl ⟨.down, turn, others,
        .inl ⟨_, _, called, rfl, rfl, current.trans (nothing _), fun _ => id⟩⟩
  | store direction =>
      obtain ⟨stored, turn, others⟩ := (Steps.of_store direction).side taken
      exact .inl ⟨direction, turn, others, .inr ⟨stored, rfl⟩⟩
  | bandwidthThread =>
      refine .inr ⟨rfl, ?_⟩
      simp only [next] at taken
      split at taken
      · rename_i waiting
        exact .inl ⟨waiting, (Option.some.inj taken).symm⟩
      · rename_i point there
        exact .inr ⟨point, there, (Option.some.inj taken).symm⟩

/-- **Every step keeps the count.** -/
theorem Keeps.next {action : MeteringAction w} (keeps : s.Keeps)
    (taken : s.next action = some after) : after.Keeps := by
  rcases next_cases taken with
    ⟨direction, turn, others, stepped⟩ | ⟨-, ⟨waiting, rfl⟩ | ⟨point, there, rfl⟩⟩
  · intro other
    by_cases same : other = direction
    · subst same
      rw [turn]
      rcases stepped with ⟨object, adds, called, index, elements, current, -⟩ | ⟨stored, -⟩
      · exact (keeps other).call index elements current called
      · exact (keeps other).store stored
    · rw [others other same, turn]
      exact keeps other
  · intro direction
    have kept := keeps direction
    rw [waiting] at kept
    exact Metered.Keeps.begins.mp kept
  · intro direction
    have kept := keeps direction
    rw [there] at kept
    rcases statementFrom_after point direction with
      ⟨statement, here, next, follower⟩ | ⟨idle, same⟩
    · rw [next] at kept
      simp only [side, of_apply, here, Option.elim_some, follower]
      exact kept.turn
    · simp only [side, of_apply, idle, Option.elim_none, same]
      exact kept

/-- **A step makes a direction inexact exactly if it overlaps there.** -/
theorem inexact_next {action : MeteringAction w} (direction : Direction)
    (taken : s.next action = some after) :
    (after.tally direction).Inexact ↔
      (s.tally direction).Inexact ∨ s.Overlaps direction action := by
  rcases next_cases taken with
    ⟨there, -, others, stepped⟩ | ⟨rfl, ⟨waiting, rfl⟩ | ⟨point, here, rfl⟩⟩
  · by_cases same : direction = there
    · subst same
      rcases stepped with ⟨object, adds, called, -, -, -, exact⟩ | ⟨stored, rfl⟩
      · rw [iff_false_intro (exact direction)]
        exact inexact_call called
      · obtain ⟨_, -, stored⟩ := Option.map_eq_some_iff.mp stored
        have tally : after.tally direction = (s.tally direction).store :=
          congrArg Metered.tally stored.symm
        rw [tally, Tally.inexact_store, Overlaps, and_iff_right rfl]
    · have tally : after.tally direction = s.tally direction :=
        congrArg Metered.tally (others direction same)
      have apart : ¬ s.Overlaps direction action := by
        rcases stepped with ⟨_, _, -, -, -, -, exact⟩ | ⟨-, rfl⟩
        · exact exact direction
        · exact fun overlaps => same overlaps.1.symm
      rw [tally, or_iff_left apart]
  · simp [Overlaps, waiting]
  · cases statement : point.statement direction with
    | none => simp [Overlaps, here, statement]
    | some turned => simp [Overlaps, here, statement, inexact_count]

/-- One of the steps from a state on overlaps in a direction. -/
def Overlapped (direction : Direction) (start : Metering κ) (actions : List (MeteringAction w)) :
    Prop :=
  ∃ before action after u, actions = before ++ action :: after ∧
    Run (enabled next) start before u ∧ u.Overlaps direction action

/-- **After a connection, while the thread and the calls come in any order, the slots hold the
windows that were copied**, whose averages are reported, and the two counters hold the open
windows. In each direction the windows that were copied, the open one and what is gone make up what was added and what came back; a window that was copied and
is not over is there twice. Nothing is gone and nothing came back exactly if no step
overlapped. -/
theorem windows_of_run {sendService : List κ} {measure : Measure κ}
    {actions : List (MeteringAction w)} {reached : Metering κ}
    (run : Run (enabled next) (fresh sendService measure) actions reached) :
    (∃ upload download,
      reached.measure.getUploadAndDownloadBandwidth true true =
          (.ok, some upload, some download) ∧
        Averages upload ((reached.tally .up).closed.take bwNbElems) ∧
        Averages download ((reached.tally .down).closed.take bwNbElems)) ∧
      (reached.measure.network.bwCurrentUp = UInt32.ofNat (reached.tally .up).current ∧
        reached.measure.network.bwCurrentDown = UInt32.ofNat (reached.tally .down).current) ∧
      ∀ direction, let tally := reached.tally direction
        tally.closed.sum + tally.current + tally.lost =
            tally.added + tally.again + tally.copied.getD 0 ∧
          (tally.lost = 0 ∧ tally.again = 0 ↔
            ¬ Overlapped direction (fresh sendService measure) actions) := by
  have initial : (fresh sendService measure).Keeps := by
    intro direction
    refine ⟨rfl, by simp [side, fresh, Tally.fresh, statementFrom], Tally.sound_fresh, ?_⟩
    cases direction with
    | up => exact ⟨0, rfl, .of_new rfl rfl rfl⟩
    | down => exact ⟨0, rfl, .of_new rfl rfl rfl⟩
  have keeps := run.invariant Keeps (fun _ _ _ keeps taken => keeps.next taken) initial
  obtain ⟨-, -, -, _, -, up⟩ := keeps .up
  obtain ⟨-, -, -, _, -, down⟩ := keeps .down
  refine ⟨?_, ⟨up.current, down.current⟩, ?_⟩
  · exact ⟨_, _, reached.measure.getUploadAndDownloadBandwidth_eq, up.averages, down.averages⟩
  · intro direction
    have overlapped : (reached.tally direction).Inexact ↔
        Overlapped direction (fresh sendService measure) actions :=
      (run.holds_iff_of_enabled fun _ _ _ taken => inexact_next direction taken).trans
        (or_iff_right (by simp [fresh, Tally.fresh, Tally.Inexact]))
    refine ⟨(keeps direction).sound.balance, ?_⟩
    rw [← overlapped, Tally.Inexact, not_or, not_not, not_not]

/-- A `popFrame` stores the count that it loaded when the window was not over yet. -/
def revivingActions : List (MeteringAction 64) :=
  let pop := MeteringAction.popFrame ⟨16, fun _ => 0⟩ (.reset 64)
  let value : Notification := ⟨['f', 'a', '0', '1'], [2, 7, 65]⟩
  [.receive (some [value, value]), pop, .store .down, pop] ++
    List.replicate 7 .bandwidthThread ++ [.store .down]

/-- Where they lead. -/
def reviving : Metering Unit :=
  (revivingActions.foldlM next (fresh [()] ⟨⟨none, [], 7, 0⟩, 0, [], []⟩)).get rfl

/-- The three bytes of the first value are in the window and in the counter. -/
example : reviving.tally .down = ⟨6, none, none, [3], 6, 0, 3⟩ := rfl

theorem windows_of_run_reviving :
    (∃ upload download,
      reviving.measure.getUploadAndDownloadBandwidth true true =
          (.ok, some upload, some download) ∧
        Averages upload ((reviving.tally .up).closed.take bwNbElems) ∧
        Averages download ((reviving.tally .down).closed.take bwNbElems)) ∧
      (reviving.measure.network.bwCurrentUp = UInt32.ofNat (reviving.tally .up).current ∧
        reviving.measure.network.bwCurrentDown = UInt32.ofNat (reviving.tally .down).current) ∧
      ∀ direction, let tally := reviving.tally direction
        tally.closed.sum + tally.current + tally.lost =
            tally.added + tally.again + tally.copied.getD 0 ∧
          (tally.lost = 0 ∧ tally.again = 0 ↔
            ¬ Overlapped direction (fresh [()] ⟨⟨none, [], 7, 0⟩, 0, [], []⟩) revivingActions) :=
  windows_of_run (Run.enabled_iff.mpr (Option.some_get _).symm)

end Metering

end Ios

end BleNetwork

end ARNetworkAL
