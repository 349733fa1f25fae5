import Indi.Base.Property
import Mathlib.Data.List.Nodup

/-!
# PMC8 pulse guiding

The guide timers of the Explore Scientific PMC8 mount driver. `GuideNorth`,
`GuideSouth`, `GuideEast` and `GuideWest` start a pulse on their axis and arm a timer
whose expiry, `guideTimeout`, ends it; `Abort` stops a pulse in progress. The timers
are the event loop's: `IEAddTimer` hands out a fresh id, `IERmTimer` drops a pending
timer, and a timer that expires leaves the list before its callback runs.
-/

set_option autoImplicit false

namespace Indi

/-!
## The guide state
-/

/-! Only the fields the guide calls read or write: the serial commands, the pulse
lengths and the widget values of `GuideNSNP` and `GuideWENP` are not modelled. -/

/-- `PMC8_DIRECTION`, as the guide calls pass it to their timer callback. -/
inductive GuideDirection where
  | north
  | south
  | east
  | west
  deriving DecidableEq, Repr

/-- The two guide axes: `NS` (declination) and `WE` (right ascension). -/
inductive GuideAxis where
  | ns
  | we
  deriving DecidableEq, Repr

def GuideDirection.axis : GuideDirection → GuideAxis
  | .north | .south => .ns
  | .east | .west => .we

/-- The guide fields of one axis: `isPulsingXX`, `GuideXXTID` and the state of the
`GuideXXNP` vector. -/
structure AxisGuide where
  isPulsing : Bool
  guideTID : Nat
  guideState : IPState
  deriving DecidableEq, Repr

/-- The driver's guide fields, and the guide timers pending in the event loop: each
with its id and the direction its callback ends. `nextTimer` is the id `IEAddTimer`
hands out next. -/
structure PMC8 where
  ns : AxisGuide
  we : AxisGuide
  timers : List (Nat × GuideDirection)
  nextTimer : Nat
  deriving DecidableEq, Repr

/-- A call on the guide state: a pulse request as `GuiderInterface` passes it on, which
stores the call's reply as the state of the axis's vector; the expiry of a pending
timer; or `Abort`. `tracking` is whether `TrackState` is `SCOPE_TRACKING`. -/
inductive GuideEvent where
  | guide (direction : GuideDirection) (tracking : Bool)
  | expire (id : Nat)
  | abort
  deriving DecidableEq, Repr

/-- Whether an event keeps to pulses requested while tracking and to expiries. -/
def GuideEvent.whileTracking : GuideEvent → Bool
  | .guide _ tracking => tracking
  | .expire _ => true
  | .abort => false

namespace PMC8

/-- The connected driver: no pulse, no timer, ids from `1`. -/
def initial : PMC8 where
  ns := ⟨false, 0, .idle⟩
  we := ⟨false, 0, .idle⟩
  timers := []
  nextTimer := 1

def axis (mount : PMC8) : GuideAxis → AxisGuide
  | .ns => mount.ns
  | .we => mount.we

def modifyAxis (mount : PMC8) (axis : GuideAxis) (change : AxisGuide → AxisGuide) : PMC8 :=
  match axis with
  | .ns => { mount with ns := change mount.ns }
  | .we => { mount with we := change mount.we }

/-- `IEAddTimer`: the timer is pending under a fresh id, which is returned. -/
def addTimer (mount : PMC8) (direction : GuideDirection) : PMC8 × Nat :=
  let armed : PMC8 := { mount with
    timers := mount.timers ++ [(mount.nextTimer, direction)]
    nextTimer := mount.nextTimer + 1 }
  (armed, mount.nextTimer)

/-- `IERmTimer`: the timer of that id is no longer pending. -/
def rmTimer (mount : PMC8) (id : Nat) : PMC8 :=
  { mount with timers := mount.timers.filter (·.1 != id) }

/-- The body shared by `GuideNorth`, `GuideSouth`, `GuideEast` and `GuideWest`: while
tracking, drop the axis's timer and start the pulse; tracking or not, arm a timer for
the direction and keep its id. The reply is `IPS_BUSY` while tracking. -/
def guide (mount : PMC8) (direction : GuideDirection) (tracking : Bool) : PMC8 × IPState :=
  let axis := direction.axis
  let started :=
    if tracking then
      let stopped :=
        if (mount.axis axis).guideTID ≠ 0 then
          (mount.rmTimer (mount.axis axis).guideTID).modifyAxis axis ({ · with guideTID := 0 })
        else mount
      stopped.modifyAxis axis ({ · with isPulsing := true })
    else mount
  let armed := started.addTimer direction
  (armed.1.modifyAxis axis ({ · with guideTID := armed.2 }), if tracking then .busy else .idle)

/-- `PMC8::GuideNorth`. -/
def guideNorth (mount : PMC8) (tracking : Bool) : PMC8 × IPState := mount.guide .north tracking

/-- `PMC8::GuideSouth`. -/
def guideSouth (mount : PMC8) (tracking : Bool) : PMC8 × IPState := mount.guide .south tracking

/-- `PMC8::GuideEast`. -/
def guideEast (mount : PMC8) (tracking : Bool) : PMC8 × IPState := mount.guide .east tracking

/-- `PMC8::GuideWest`. -/
def guideWest (mount : PMC8) (tracking : Bool) : PMC8 × IPState := mount.guide .west tracking

def guideCall (mount : PMC8) : GuideDirection → Bool → PMC8 × IPState
  | .north => mount.guideNorth
  | .south => mount.guideSouth
  | .east => mount.guideEast
  | .west => mount.guideWest

/-- `PMC8::guideTimeout`: the pulse of the direction's axis is over. -/
def guideTimeout (mount : PMC8) (direction : GuideDirection) : PMC8 :=
  mount.modifyAxis direction.axis fun _ => ⟨false, 0, .idle⟩

/-- `PMC8::Abort` while a guide vector is busy: both vectors go idle and the pending
timers are dropped; the branch for the `WE` timer clears `GuideNSTID`. Otherwise the
serial `abort_pmc8`, which no guide field sees. -/
def abort (mount : PMC8) : PMC8 :=
  if mount.ns.guideState = .busy ∨ mount.we.guideState = .busy then
    let idle : PMC8 := { mount with
      ns := { mount.ns with guideState := .idle }
      we := { mount.we with guideState := .idle } }
    let nsDropped : PMC8 :=
      if idle.ns.guideTID ≠ 0 then
        { idle.rmTimer idle.ns.guideTID with ns := { idle.ns with guideTID := 0 } }
      else idle
    if nsDropped.we.guideTID ≠ 0 then
      { nsDropped.rmTimer nsDropped.we.guideTID with ns := { nsDropped.ns with guideTID := 0 } }
    else nsDropped
  else mount

/-- One event. A pulse request stores the call's reply in the axis's vector; an expiry
removes the pending timer and runs its callback; an id that is not pending fires
nothing. -/
def step (mount : PMC8) : GuideEvent → PMC8
  | .guide direction tracking =>
      let called := mount.guideCall direction tracking
      called.1.modifyAxis direction.axis ({ · with guideState := called.2 })
  | .expire id =>
      match mount.timers.find? (·.1 == id) with
      | some (_, direction) => (mount.rmTimer id).guideTimeout direction
      | none => mount
  | .abort => mount.abort

def run (mount : PMC8) : List GuideEvent → PMC8
  | [] => mount
  | event :: events => (mount.step event).run events

/-!
## Field lemmas
-/

/-! What each operation on the record leaves of the timers and the axes. -/

@[simp] theorem axis_modifyAxis_self (mount : PMC8) (axis : GuideAxis)
    (change : AxisGuide → AxisGuide) : (mount.modifyAxis axis change).axis axis = change (mount.axis axis) := by
  cases axis <;> rfl

theorem axis_modifyAxis_of_ne (mount : PMC8) {axis other : GuideAxis} (change : AxisGuide → AxisGuide)
    (differs : other ≠ axis) : (mount.modifyAxis axis change).axis other = mount.axis other := by
  cases axis <;> cases other <;> first | rfl | exact absurd rfl differs

@[simp] theorem timers_modifyAxis (mount : PMC8) (axis : GuideAxis) (change : AxisGuide → AxisGuide) :
    (mount.modifyAxis axis change).timers = mount.timers := by
  cases axis <;> rfl

@[simp] theorem nextTimer_modifyAxis (mount : PMC8) (axis : GuideAxis) (change : AxisGuide → AxisGuide) :
    (mount.modifyAxis axis change).nextTimer = mount.nextTimer := by
  cases axis <;> rfl

@[simp] theorem timers_addTimer (mount : PMC8) (direction : GuideDirection) :
    (mount.addTimer direction).1.timers = mount.timers ++ [(mount.nextTimer, direction)] := rfl

@[simp] theorem nextTimer_addTimer (mount : PMC8) (direction : GuideDirection) :
    (mount.addTimer direction).1.nextTimer = mount.nextTimer + 1 := rfl

@[simp] theorem snd_addTimer (mount : PMC8) (direction : GuideDirection) :
    (mount.addTimer direction).2 = mount.nextTimer := rfl

@[simp] theorem timers_rmTimer (mount : PMC8) (id : Nat) :
    (mount.rmTimer id).timers = mount.timers.filter (·.1 != id) := rfl

@[simp] theorem nextTimer_rmTimer (mount : PMC8) (id : Nat) :
    (mount.rmTimer id).nextTimer = mount.nextTimer := rfl

@[simp] theorem axis_rmTimer (mount : PMC8) (id : Nat) (axis : GuideAxis) :
    (mount.rmTimer id).axis axis = mount.axis axis := by
  cases axis <;> rfl

@[simp] theorem axis_addTimer (mount : PMC8) (direction : GuideDirection) (axis : GuideAxis) :
    (mount.addTimer direction).1.axis axis = mount.axis axis := by
  cases axis <;> rfl

theorem guideCall_eq (mount : PMC8) (direction : GuideDirection) :
    mount.guideCall direction = mount.guide direction := by
  cases direction <;> rfl

theorem step_guide (mount : PMC8) (direction : GuideDirection) (tracking : Bool) :
    mount.step (.guide direction tracking) =
      (mount.guide direction tracking).1.modifyAxis direction.axis
        ({ · with guideState := (mount.guide direction tracking).2 }) := by
  simp only [step, guideCall_eq]

theorem guide_timers (mount : PMC8) (direction : GuideDirection) (tracking : Bool) :
    (mount.guide direction tracking).1.timers =
      (if tracking ∧ (mount.axis direction.axis).guideTID ≠ 0 then
        mount.timers.filter (·.1 != (mount.axis direction.axis).guideTID) else mount.timers) ++
        [(mount.nextTimer, direction)] := by
  unfold guide
  cases tracking
  · simp
  · by_cases held : (mount.axis direction.axis).guideTID = 0 <;> simp [held]

theorem guide_nextTimer (mount : PMC8) (direction : GuideDirection) (tracking : Bool) :
    (mount.guide direction tracking).1.nextTimer = mount.nextTimer + 1 := by
  unfold guide
  cases tracking
  · simp
  · by_cases held : (mount.axis direction.axis).guideTID = 0 <;> simp [held]

theorem guide_axis_self (mount : PMC8) (direction : GuideDirection) (tracking : Bool) :
    (mount.guide direction tracking).1.axis direction.axis =
      { mount.axis direction.axis with
        isPulsing := tracking || (mount.axis direction.axis).isPulsing
        guideTID := mount.nextTimer } := by
  unfold guide
  cases tracking
  · simp
  · by_cases held : (mount.axis direction.axis).guideTID = 0 <;> simp [held]

theorem guide_axis_of_ne (mount : PMC8) {direction : GuideDirection} (tracking : Bool)
    {other : GuideAxis} (differs : other ≠ direction.axis) :
    (mount.guide direction tracking).1.axis other = mount.axis other := by
  unfold guide
  cases tracking
  · simp [axis_modifyAxis_of_ne _ _ differs]
  · by_cases held : (mount.axis direction.axis).guideTID = 0 <;>
      simp [held, axis_modifyAxis_of_ne _ _ differs]

/-!
## Bookkeeping
-/

/-! The law the guide calls are written for: on each axis a pulse in progress has its
timer pending, at most one timer is pending, and `GuideXXTID` is `0` with none pending
or names the pending one. `Abort` and a pulse requested while not tracking break it. -/

/-- The ids of the timers pending for an axis, in the order they were armed. -/
def pendingOn (mount : PMC8) (axis : GuideAxis) : List Nat :=
  (mount.timers.filter (·.2.axis == axis)).map (·.1)

/-- The guide bookkeeping of one axis. -/
structure Bookkept (mount : PMC8) (axis : GuideAxis) : Prop where
  pulsing : (mount.axis axis).isPulsing = true → mount.pendingOn axis ≠ []
  atMostOne : (mount.pendingOn axis).length ≤ 1
  tid : ((mount.axis axis).guideTID = 0 ∧ mount.pendingOn axis = []) ∨
    mount.pendingOn axis = [(mount.axis axis).guideTID]

/-- An `Abort` during an east pulse clears `GuideNSTID` instead of `GuideWETID`, and a
second north pulse arms a timer beside the first, whose expiry clears `GuideNSTID`. -/
theorem guide_bookkeeping_lost :
    ¬ (initial.run [.guide .east true, .abort]).Bookkept .we ∧
    ¬ (initial.run [.guide .north true, .guide .north false]).Bookkept .ns ∧
    ¬ (initial.run [.guide .north true, .guide .north false, .expire 1]).Bookkept .ns :=
  ⟨fun kept => kept.pulsing (by decide) (by decide),
    fun kept => absurd kept.atMostOne (by decide),
    fun kept => absurd kept.tid (by decide)⟩

/-!
## Pulses requested while tracking
-/

/-! Without `Abort`, and with every pulse requested while tracking, a pulse request
drops its axis's one timer before arming the next, and an expiry fires the one timer
of its axis. The ids the event loop hands out are fresh, so removing one timer leaves
the other axis's alone. -/

/-- What pulses requested while tracking and expiries keep: pending ids are positive,
below `nextTimer` and distinct; on each axis exactly the timer `GuideXXTID` names is
pending (none for `0`), and a pulse in progress has one. -/
structure Tracked (mount : PMC8) : Prop where
  started : 0 < mount.nextTimer
  positive : ∀ timer ∈ mount.timers, 0 < timer.1
  below : ∀ timer ∈ mount.timers, timer.1 < mount.nextTimer
  distinct : (mount.timers.map (·.1)).Nodup
  pending : ∀ axis, mount.pendingOn axis =
    if (mount.axis axis).guideTID = 0 then [] else [(mount.axis axis).guideTID]
  pulsing : ∀ axis, (mount.axis axis).isPulsing = true → (mount.axis axis).guideTID ≠ 0

theorem Tracked.bookkept {mount : PMC8} (tracked : mount.Tracked) (axis : GuideAxis) :
    mount.Bookkept axis where
  pulsing pulsing := by
    rw [tracked.pending, if_neg (tracked.pulsing axis pulsing)]
    exact List.cons_ne_nil _ _
  atMostOne := by
    rw [tracked.pending]
    split <;> simp
  tid := by
    rw [tracked.pending]
    split
    · exact .inl ⟨‹_›, rfl⟩
    · exact .inr rfl

theorem initial_tracked : initial.Tracked where
  started := Nat.one_pos
  positive := by simp [initial]
  below := by simp [initial]
  distinct := List.nodup_nil
  pending axis := by cases axis <;> rfl
  pulsing axis := by cases axis <;> simp [initial, axis]

theorem Tracked.axis_eq {mount : PMC8} (tracked : mount.Tracked) {id : Nat} {axis other : GuideAxis}
    (first : id ∈ mount.pendingOn axis) (second : id ∈ mount.pendingOn other) : axis = other := by
  simp only [pendingOn, List.mem_map, List.mem_filter, beq_iff_eq] at first second
  obtain ⟨timer, ⟨member, rfl⟩, rfl⟩ := first
  obtain ⟨timer', ⟨member', rfl⟩, same⟩ := second
  rw [List.inj_on_of_nodup_map tracked.distinct member' member same]

theorem pendingOn_filter (timers : List (Nat × GuideDirection)) (id : Nat) (axis : GuideAxis) :
    ((timers.filter (·.1 != id)).filter (·.2.axis == axis)).map (·.1) =
      ((timers.filter (·.2.axis == axis)).map (·.1)).filter (· != id) := by
  simp only [List.filter_filter, List.filter_map]
  congr 2
  funext timer
  simp [Bool.and_comm]

theorem Tracked.congr {mount changed : PMC8} (tracked : mount.Tracked)
    (timers : changed.timers = mount.timers) (next : changed.nextTimer = mount.nextTimer)
    (axes : ∀ axis, (changed.axis axis).guideTID = (mount.axis axis).guideTID ∧
      (changed.axis axis).isPulsing = (mount.axis axis).isPulsing) : changed.Tracked where
  started := next ▸ tracked.started
  positive := timers ▸ tracked.positive
  below := by rw [timers, next]; exact tracked.below
  distinct := timers ▸ tracked.distinct
  pending axis := by
    rw [show changed.pendingOn axis = mount.pendingOn axis by simp only [pendingOn, timers],
      tracked.pending, (axes axis).1]
  pulsing axis := by rw [(axes axis).1, (axes axis).2]; exact tracked.pulsing axis

theorem Tracked.pos_of_mem_pendingOn {mount : PMC8} (tracked : mount.Tracked) {axis : GuideAxis}
    {id : Nat} (member : id ∈ mount.pendingOn axis) : 0 < id := by
  simp only [pendingOn, List.mem_map, List.mem_filter] at member
  obtain ⟨timer, ⟨timed, -⟩, rfl⟩ := member
  exact tracked.positive timer timed

theorem Tracked.eq_guideTID {mount : PMC8} (tracked : mount.Tracked) {axis : GuideAxis} {id : Nat}
    (member : id ∈ mount.pendingOn axis) : id = (mount.axis axis).guideTID := by
  rw [tracked.pending] at member
  split at member
  · cases member
  · exact List.mem_singleton.mp member

theorem Tracked.filter_pendingOn {mount : PMC8} (tracked : mount.Tracked) (axis other : GuideAxis) :
    (mount.pendingOn other).filter (· != (mount.axis axis).guideTID) =
      if other = axis then [] else mount.pendingOn other := by
  split
  · subst other
    rw [tracked.pending]
    split <;> simp
  · rename_i differs
    refine List.filter_eq_self.mpr fun id member => bne_iff_ne.mpr fun same => ?_
    have held := tracked.pending axis
    rw [if_neg fun zero => (tracked.pos_of_mem_pendingOn member).ne' (same.trans zero)] at held
    exact differs (tracked.axis_eq member (by rw [held, same]; exact List.mem_singleton_self _))

theorem Tracked.timers_guide {mount : PMC8} (tracked : mount.Tracked) (direction : GuideDirection) :
    (mount.guide direction true).1.timers =
      mount.timers.filter (·.1 != (mount.axis direction.axis).guideTID) ++ [(mount.nextTimer, direction)] := by
  rw [guide_timers]
  by_cases held : (mount.axis direction.axis).guideTID = 0
  · simp only [held, ne_eq, not_true_eq_false, and_false, if_false]
    exact congrArg (· ++ _) (List.filter_eq_self.mpr fun timer member =>
      bne_iff_ne.mpr (tracked.positive timer member).ne').symm
  · simp [held]

theorem Tracked.guide {mount : PMC8} (tracked : mount.Tracked) (direction : GuideDirection) :
    (mount.guide direction true).1.Tracked := by
  have sub : (mount.timers.filter (·.1 != (mount.axis direction.axis).guideTID)).Sublist mount.timers :=
    List.filter_sublist _
  have nonzero : mount.nextTimer ≠ 0 := Nat.pos_iff_ne_zero.mp tracked.started
  refine ⟨by rw [guide_nextTimer]; exact Nat.succ_pos _, ?_, ?_, ?_, fun other => ?_, fun other => ?_⟩
  · rw [tracked.timers_guide, List.forall_mem_append, List.forall_mem_singleton]
    exact ⟨fun timer old => tracked.positive timer (sub.subset old), tracked.started⟩
  · rw [tracked.timers_guide, guide_nextTimer, List.forall_mem_append, List.forall_mem_singleton]
    exact ⟨fun timer old => Nat.lt_succ_of_lt (tracked.below timer (sub.subset old)), Nat.lt_succ_self _⟩
  · rw [tracked.timers_guide, List.map_append, List.nodup_append]
    refine ⟨(sub.map _).nodup tracked.distinct, List.nodup_singleton _, fun id old new => ?_⟩
    obtain ⟨timer, member, rfl⟩ := List.mem_map.mp old
    exact absurd (List.mem_singleton.mp new) (tracked.below timer (sub.subset member)).ne
  · have pending : (mount.guide direction true).1.pendingOn other =
        (mount.pendingOn other).filter (· != (mount.axis direction.axis).guideTID) ++
          ([(mount.nextTimer, direction)].filter (·.2.axis == other)).map (·.1) := by
      simp only [pendingOn, tracked.timers_guide, List.filter_append, List.map_append, pendingOn_filter]
    rw [pending, tracked.filter_pendingOn]
    by_cases same : other = direction.axis
    · subst same
      simp [guide_axis_self, nonzero]
    · simp [same, Ne.symm same, guide_axis_of_ne _ _ same, tracked.pending other]
  · by_cases same : other = direction.axis
    · subst same
      exact fun _ => by rw [guide_axis_self]; exact nonzero
    · rw [guide_axis_of_ne _ _ same]
      exact tracked.pulsing other

theorem Tracked.expire {mount : PMC8} (tracked : mount.Tracked) (id : Nat) :
    (mount.step (.expire id)).Tracked := by
  simp only [step]
  split
  · rename_i found direction located
    have named : found = id := by simpa using List.find?_some located
    subst named
    have onAxis : found ∈ mount.pendingOn direction.axis := by
      simp only [pendingOn, List.mem_map, List.mem_filter, beq_iff_eq]
      exact ⟨_, ⟨List.mem_of_find?_eq_some located, rfl⟩, rfl⟩
    have sub : List.Sublist (mount.timers.filter (·.1 != found)) mount.timers := List.filter_sublist _
    refine ⟨by simpa [guideTimeout] using tracked.started, ?_, ?_, ?_, fun other => ?_, fun other => ?_⟩
    · simpa [guideTimeout] using fun timer old => tracked.positive timer (sub.subset old)
    · simpa [guideTimeout] using fun timer old => tracked.below timer (sub.subset old)
    · simpa [guideTimeout] using (sub.map _).nodup tracked.distinct
    · have pending : ((mount.rmTimer found).guideTimeout direction).pendingOn other =
          (mount.pendingOn other).filter (· != (mount.axis direction.axis).guideTID) := by
        simp only [pendingOn, guideTimeout, timers_modifyAxis, timers_rmTimer, pendingOn_filter,
          ← tracked.eq_guideTID onAxis]
      rw [pending, tracked.filter_pendingOn]
      by_cases same : other = direction.axis
      · subst same
        simp [guideTimeout]
      · simp only [same, if_false, guideTimeout, axis_modifyAxis_of_ne _ _ same, axis_rmTimer]
        exact tracked.pending other
    · by_cases same : other = direction.axis
      · subst same
        simp [guideTimeout]
      · simp only [guideTimeout, axis_modifyAxis_of_ne _ _ same, axis_rmTimer]
        exact tracked.pulsing other
  · exact tracked

theorem Tracked.step {mount : PMC8} (tracked : mount.Tracked) {event : GuideEvent}
    (admitted : event.whileTracking = true) : (mount.step event).Tracked := by
  cases event with
  | guide direction tracking =>
      cases admitted
      rw [step_guide]
      exact (tracked.guide direction).congr (by simp) (by simp) fun other => by
        by_cases same : other = direction.axis
        · subst same
          simp
        · simp [axis_modifyAxis_of_ne _ _ same]
  | expire id => exact tracked.expire id
  | abort => cases admitted

/-- Over every run of pulses requested while tracking and of timer expiries, the guide
bookkeeping holds on both axes. -/
theorem tracking_pulses_keep_bookkeeping (events : List GuideEvent)
    (admitted : ∀ event ∈ events, event.whileTracking = true) (axis : GuideAxis) :
    (initial.run events).Bookkept axis := by
  suffices ∀ mount : PMC8, mount.Tracked → (mount.run events).Tracked from
    (this initial initial_tracked).bookkept axis
  induction events with
  | nil => exact fun _ tracked => tracked
  | cons event events ih =>
      exact fun mount tracked => ih (fun other member => admitted other (List.mem_cons_of_mem _ member))
        _ (tracked.step (admitted event (List.mem_cons_self _ _)))

theorem pulses_on_both_axes_keep_bookkeeping :
    (∀ event ∈ [GuideEvent.guide .north true, .guide .east true, .guide .south true, .expire 2],
      event.whileTracking = true) ∧
    (initial.run [.guide .north true, .guide .east true, .guide .south true, .expire 2]).Bookkept .ns :=
  ⟨by decide, tracking_pulses_keep_bookkeeping _ (by decide) .ns⟩

end PMC8

end Indi
