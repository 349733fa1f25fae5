import Indi.Base.Property
import Mathlib.Algebra.Order.Field.Basic
import Mathlib.Algebra.Order.Field.Rat
import Mathlib.Data.Rat.Floor
import Mathlib.Tactic.Linarith
import Mathlib.Tactic.Ring

/-!
# The WandererRotator Lite driver

The motion logic of `WandererRotatorLite`. `MoveRotator` turns the rotator to an angle:
it sends the turn in steps, `1155` to the degree, lengthened by the backlash when the turn
goes against the last one, and `Move` arms a 150 ms timer. The display is then animated
by `TimerHit`, a tick for each whole degree of the turn, and a last `TimerHit` reads
the relative turn the rotator reports and sets the display from it. A tick adds
`reversecoefficient*abs(positionhistory)/positionhistory`, where the unqualified `abs`
is C's `int abs`: the whole degrees of the turn over the turn, one degree only for a
turn of whole degrees.
`HomeRotator` turns back to `0` the same way, `AbortRotator` stops, `ReverseRotator`
flips the sense of the turns. Angles are doubles and are modelled as rationals.
-/

set_option autoImplicit false

namespace Indi

/-!
## The driver state
-/

/-! Only the fields the motion code reads or writes; the serial texts are modelled by the
values they parse to, and the log lines are not modelled. -/

/-- C's `(int)` of a double: the integer part, rounded toward `0`. -/
def cInt (value : Rat) : Int :=
  if 0 ≤ value then ⌊value⌋ else -⌊-value⌋

/-- The fields its motion code reads or writes: `position` is `GotoRotatorN[0].value`,
the states are those of the four vectors, and `timers` counts the `SetTimer` calls whose
`TimerHit` has not run yet. -/
structure WandererRotatorLite where
  position : Rat
  gotoState : IPState
  homeState : IPState
  homeSetState : IPState
  backlashState : IPState
  backlashSetting : Rat
  backlash : Rat
  backlashCompensation : Rat
  positionHistory : Rat
  reverseCoefficient : Int
  reverseState : Bool
  positionCount : Int
  positionTemp : Rat
  haltCommand : Bool
  timers : Nat
  deriving DecidableEq, Repr

/-- A call into the driver; a serial exchange is given by the value its reply parses to,
or `none` when it fails, and `timerHit` is the expiry of one pending timer. -/
inductive RotatorEvent where
  | handshake (position : Option Rat)
  | moveRotator (angle : Rat) (written : Bool)
  | homeRotator (written : Bool)
  | setHome (written : Bool)
  | setBacklash (value : Rat)
  | reverseRotator (enabled : Bool)
  | abortRotator (mechanical : Option Rat)
  | timerHit (connected : Bool) (relative : Option Rat)
  deriving DecidableEq, Repr

namespace WandererRotatorLite

/-- `SetTimer`: one more timer pending. -/
def setTimer (rotator : WandererRotatorLite) : WandererRotatorLite :=
  { rotator with timers := rotator.timers + 1 }

/-- `Handshake`: ask for the identity, the firmware version and the position, in
hundredths of a degree, `100000` added for a negative reading. -/
def handshake (rotator : WandererRotatorLite) (reading : Option Rat) : WandererRotatorLite × Bool :=
  match reading with
  | none => (rotator, false)
  | some reading =>
      ({ rotator with position := if 100000 ≤ reading then (reading - 100000) / 100 else reading / 100 }, true)

/-- `Move`: note where the turn starts and its whole degrees, `abs(atoi(cmd)/1155)`, and
send the steps; once they are written, arm the 150 ms timer. -/
def move (rotator : WandererRotatorLite) (steps : Int) (written : Bool) : WandererRotatorLite × Bool :=
  let started := { rotator with positionTemp := rotator.position, positionCount := |steps.tdiv 1155| }
  if written then (started.setTimer, true) else (started, false)

/-- The turn `MoveRotator` commands toward `target`, and the compensation it records:
a turn against the last one, `positionhistory`, is lengthened by the backlash, and the
compensation takes the backlash back off the position the rotator will report. -/
def backlashAdjusted (rotator : WandererRotatorLite) (target : Rat) : Rat × Rat :=
  let angle := target - rotator.position
  let first : Rat × Rat :=
    if angle * rotator.positionHistory < 0 ∧ 0 < angle then
      (angle + rotator.backlashSetting, -1 * rotator.backlashSetting)
    else (angle, 0)
  if first.1 * rotator.positionHistory < 0 ∧ first.1 < 0 then
    (first.1 - rotator.backlashSetting, rotator.backlashSetting)
  else first

/-- `MoveRotator`. -/
def moveRotator (rotator : WandererRotatorLite) (target : Rat) (written : Bool) :
    WandererRotatorLite × IPState :=
  let commanded := { rotator with
    backlash := rotator.backlashSetting
    backlashCompensation := (rotator.backlashAdjusted target).2
    positionHistory := (rotator.backlashAdjusted target).1 }
  ((commanded.move (cInt (rotator.reverseCoefficient * (rotator.backlashAdjusted target).1 * 1155))
    written).1, .busy)

/-- `HomeRotator`: turn by the opposite of the display, in the rotator's own sense. -/
def homeRotator (rotator : WandererRotatorLite) (written : Bool) : WandererRotatorLite × IPState :=
  let angle := -1 * rotator.reverseCoefficient * rotator.position
  (({ rotator with positionHistory := angle }.move (cInt (angle * 1155)) written).1, .busy)

/-- `SetHomePosition`: send `1500002`; once it is written, the display reads `0`. -/
def setHomePosition (rotator : WandererRotatorLite) (written : Bool) : WandererRotatorLite × Bool :=
  if written then ({ rotator with position := 0 }, true) else (rotator, false)

/-- `ReverseRotator`. -/
def reverseRotator (rotator : WandererRotatorLite) (enabled : Bool) : WandererRotatorLite × Bool :=
  if enabled then ({ rotator with reverseCoefficient := -1, reverseState := true }, true)
  else ({ rotator with reverseCoefficient := 1, reverseState := false }, true)

/-- `AbortRotator`: raise `haltcommand`, drop the degrees left, arm a 10 ms timer and send
`Stop`; with both replies read, lower `haltcommand` and show the mechanical position, in
hundredths of a degree. -/
def abortRotator (rotator : WandererRotatorLite) (mechanical : Option Rat) : WandererRotatorLite × Bool :=
  let halted := { rotator with haltCommand := true, positionCount := 0 }.setTimer
  match mechanical with
  | none => (halted, false)
  | some mechanical => ({ halted with haltCommand := false, position := mechanical / 100 }, true)

/-- What one animation tick adds to the display,
`reversecoefficient*abs(positionhistory)/positionhistory`: `<cmath>` gives only
`std::abs` a `double` overload, so `abs` is C's `int abs` of `(int)positionhistory`. -/
def tickIncrement (rotator : WandererRotatorLite) : Rat :=
  ((rotator.reverseCoefficient * |cInt rotator.positionHistory| : Int) : Rat) / rotator.positionHistory

/-- `TimerHit`: while degrees are left, a tick and a re-armed 150 ms timer; after the
last, the relative turn read and the display set; a halt or a failed read arms nothing. -/
def timerHit (rotator : WandererRotatorLite) (connected : Bool) (relative : Option Rat) :
    WandererRotatorLite :=
  if !connected then rotator.setTimer
  else if rotator.haltCommand then
    { rotator with gotoState := .ok, homeState := .ok, haltCommand := false, positionCount := 0 }
  else if 0 < rotator.positionCount then
    { rotator with
      position := rotator.position + rotator.tickIncrement
      positionCount := rotator.positionCount - 1 }.setTimer
  else if rotator.gotoState = .busy ∨ rotator.homeState = .busy then
    match relative with
    | none => rotator
    | some relative =>
        { rotator with
          position := rotator.positionTemp + rotator.reverseCoefficient * relative + rotator.backlashCompensation
          gotoState := .ok
          homeState := .ok }.setTimer
  else rotator.setTimer

/-- One call into the driver. A timer that expires leaves the event loop before its
`TimerHit` runs; with no timer pending, none expires. -/
def step (rotator : WandererRotatorLite) : RotatorEvent → WandererRotatorLite
  | .handshake reading => (rotator.handshake reading).1
  | .moveRotator angle written =>
      { (rotator.moveRotator angle written).1 with gotoState := (rotator.moveRotator angle written).2 }
  | .homeRotator written =>
      { (rotator.homeRotator written).1 with homeState := (rotator.homeRotator written).2 }
  | .setHome written =>
      { (rotator.setHomePosition written).1 with
        homeSetState := if (rotator.setHomePosition written).2 then .ok else .alert
        position := 0 }
  | .setBacklash value => { rotator with backlashState := .ok, backlashSetting := value }
  | .reverseRotator enabled => (rotator.reverseRotator enabled).1
  | .abortRotator mechanical => (rotator.abortRotator mechanical).1
  | .timerHit connected relative =>
      if rotator.timers = 0 then rotator
      else { rotator with timers := rotator.timers - 1 }.timerHit connected relative

def run (rotator : WandererRotatorLite) (events : List RotatorEvent) : WandererRotatorLite :=
  events.foldl step rotator

/-- `count` animation ticks: expiries while connected, whose replies are not read. -/
def ticks (count : Nat) : List RotatorEvent :=
  List.replicate count (.timerHit true none)

@[simp] theorem run_nil (rotator : WandererRotatorLite) : rotator.run [] = rotator := rfl

@[simp] theorem run_cons (rotator : WandererRotatorLite) (event : RotatorEvent) (events : List RotatorEvent) :
    rotator.run (event :: events) = (rotator.step event).run events := rfl

theorem run_append (rotator : WandererRotatorLite) (first rest : List RotatorEvent) :
    rotator.run (first ++ rest) = (rotator.run first).run rest :=
  List.foldl_append _ _ _ _

/-!
## What each call does
-/

theorem step_moveRotator (rotator : WandererRotatorLite) (target : Rat) (written : Bool) :
    rotator.step (.moveRotator target written) = { rotator with
      gotoState := .busy
      backlash := rotator.backlashSetting
      backlashCompensation := (rotator.backlashAdjusted target).2
      positionHistory := (rotator.backlashAdjusted target).1
      positionTemp := rotator.position
      positionCount := |(cInt (rotator.reverseCoefficient * (rotator.backlashAdjusted target).1 * 1155)).tdiv 1155|
      timers := if written then rotator.timers + 1 else rotator.timers } := by
  cases written <;> rfl

theorem step_homeRotator (rotator : WandererRotatorLite) (written : Bool) :
    rotator.step (.homeRotator written) = { rotator with
      homeState := .busy
      positionHistory := -1 * rotator.reverseCoefficient * rotator.position
      positionTemp := rotator.position
      positionCount := |(cInt (-1 * rotator.reverseCoefficient * rotator.position * 1155)).tdiv 1155|
      timers := if written then rotator.timers + 1 else rotator.timers } := by
  cases written <;> rfl

theorem step_tick (rotator : WandererRotatorLite) (relative : Option Rat) (pending : 0 < rotator.timers)
    (running : rotator.haltCommand = false) (left : 0 < rotator.positionCount) :
    rotator.step (.timerHit true relative) = { rotator with
      position := rotator.position + rotator.tickIncrement
      positionCount := rotator.positionCount - 1 } := by
  simp only [step, pending.ne', if_false, timerHit, Bool.not_true, running, left, if_true, setTimer,
    Nat.sub_add_cancel pending]
  rfl

theorem step_settle (rotator : WandererRotatorLite) (relative : Rat) (pending : 0 < rotator.timers)
    (running : rotator.haltCommand = false) (done : rotator.positionCount = 0)
    (turning : rotator.gotoState = .busy ∨ rotator.homeState = .busy) :
    rotator.step (.timerHit true (some relative)) = { rotator with
      position := rotator.positionTemp + rotator.reverseCoefficient * relative + rotator.backlashCompensation
      gotoState := .ok
      homeState := .ok } := by
  simp only [step, pending.ne', if_false, timerHit, Bool.not_true, running, done, lt_irrefl, turning,
    if_true, setTimer, Nat.sub_add_cancel pending]
  rfl

theorem timerHit_cases (rotator : WandererRotatorLite) (connected : Bool) (relative : Option Rat) :
    rotator.timerHit connected relative = rotator.setTimer ∨
    (rotator.haltCommand = true ∧ rotator.timerHit connected relative =
      { rotator with gotoState := .ok, homeState := .ok, haltCommand := false, positionCount := 0 }) ∨
    (0 < rotator.positionCount ∧ rotator.timerHit connected relative =
      { rotator with
        position := rotator.position + rotator.tickIncrement
        positionCount := rotator.positionCount - 1 }.setTimer) ∨
    (∃ read, relative = some read ∧ rotator.timerHit connected relative =
      { rotator with
        position := rotator.positionTemp + rotator.reverseCoefficient * read + rotator.backlashCompensation
        gotoState := .ok
        homeState := .ok }.setTimer) ∨
    (relative = none ∧ rotator.timerHit connected relative = rotator) := by
  unfold timerHit
  by_cases offline : connected = false
  · simp [offline]
  by_cases halted : rotator.haltCommand = true
  · simp [offline, halted]
  by_cases ticking : 0 < rotator.positionCount
  · simp [offline, halted, ticking]
  by_cases turning : rotator.gotoState = .busy ∨ rotator.homeState = .busy
  · cases relative <;> simp [offline, halted, ticking, turning]
  · simp [offline, halted, ticking, turning]

theorem run_ticks (count : Nat) : ∀ rotator : WandererRotatorLite, 0 < rotator.timers →
    rotator.haltCommand = false → (count : Int) ≤ rotator.positionCount →
    rotator.run (ticks count) = { rotator with
      position := rotator.position + count * rotator.tickIncrement
      positionCount := rotator.positionCount - count } := by
  induction count with
  | zero => intro rotator _ _ _; simp [ticks]
  | succ count ih =>
      intro rotator pending running left
      rw [ticks, List.replicate_succ, run_cons, step_tick rotator none pending running (by omega), ← ticks, ih]
      · simp only [tickIncrement, Nat.cast_succ, WandererRotatorLite.mk.injEq, and_true, true_and]
        exact ⟨by ring, by omega⟩
      · exact pending
      · exact running
      · dsimp only
        omega

/-!
## Ticks of at most a degree
-/

theorem abs_cInt (value : Rat) : |cInt value| = ⌊|value|⌋ := by
  unfold cInt
  split_ifs with nonneg
  · rw [abs_of_nonneg nonneg, abs_of_nonneg (Int.floor_nonneg.mpr nonneg)]
  · have negative := not_le.mp nonneg
    rw [abs_of_neg negative, abs_neg, abs_of_nonneg (Int.floor_nonneg.mpr (by linarith))]

theorem tickIncrement_eq (rotator : WandererRotatorLite) :
    rotator.tickIncrement =
      rotator.reverseCoefficient * ⌊|rotator.positionHistory|⌋ / rotator.positionHistory := by
  rw [tickIncrement, abs_cInt]
  push_cast
  rfl

theorem abs_coefficient {coefficient : Int} (sign : coefficient = 1 ∨ coefficient = -1) :
    |(coefficient : Rat)| = 1 := by
  rcases sign with rfl | rfl <;> norm_num

/-- What every call keeps: the reverse coefficient is `1` or `-1`, the degrees left are
not negative, and while some are left the turn, `positionhistory`, is at least a degree. -/
structure Consistent (rotator : WandererRotatorLite) : Prop where
  coefficient : rotator.reverseCoefficient = 1 ∨ rotator.reverseCoefficient = -1
  countNonneg : 0 ≤ rotator.positionCount
  historyWhole : 0 < rotator.positionCount → 1 ≤ |rotator.positionHistory|

theorem one_le_abs_of_turning {angle : Rat} (turning : 0 < |(cInt (angle * 1155)).tdiv 1155|) :
    1 ≤ |angle| := by
  have steps : 1155 ≤ |cInt (angle * 1155)| := by
    simp only [Int.abs_eq_natAbs, Int.natAbs_tdiv] at turning ⊢
    have : 0 < (cInt (angle * 1155)).natAbs / 1155 := by exact_mod_cast turning
    omega
  rw [abs_cInt] at steps
  have scaled : ((1155 : Int) : Rat) ≤ |angle * 1155| := Int.le_floor.mp steps
  rw [abs_mul] at scaled
  norm_num at scaled
  linarith

theorem step_consistent (rotator : WandererRotatorLite) (event : RotatorEvent) (consistent : rotator.Consistent) :
    (rotator.step event).Consistent := by
  obtain ⟨coefficient, countNonneg, historyWhole⟩ := consistent
  cases event with
  | handshake reading => cases reading <;> exact ⟨coefficient, countNonneg, historyWhole⟩
  | moveRotator target written =>
      rw [step_moveRotator]
      refine ⟨coefficient, abs_nonneg _, fun turning => ?_⟩
      have whole := one_le_abs_of_turning turning
      rwa [abs_mul, abs_coefficient coefficient, one_mul] at whole
  | homeRotator written =>
      rw [step_homeRotator]
      exact ⟨coefficient, abs_nonneg _, fun turning => one_le_abs_of_turning turning⟩
  | setHome written => cases written <;> exact ⟨coefficient, countNonneg, historyWhole⟩
  | setBacklash value => exact ⟨coefficient, countNonneg, historyWhole⟩
  | reverseRotator enabled =>
      cases enabled
      · exact ⟨.inl rfl, countNonneg, historyWhole⟩
      · exact ⟨.inr rfl, countNonneg, historyWhole⟩
  | abortRotator mechanical => cases mechanical <;> exact ⟨coefficient, le_rfl, fun none => absurd none (lt_irrefl 0)⟩
  | timerHit connected relative =>
      simp only [step]
      split
      · exact ⟨coefficient, countNonneg, historyWhole⟩
      rcases timerHit_cases { rotator with timers := rotator.timers - 1 } connected relative with
        same | ⟨-, halted⟩ | ⟨ticking, ticked⟩ | ⟨read, -, settled⟩ | ⟨-, failed⟩
      · rw [same]
        exact ⟨coefficient, countNonneg, historyWhole⟩
      · rw [halted]
        exact ⟨coefficient, le_rfl, fun none => absurd none (lt_irrefl 0)⟩
      · rw [ticked]
        exact ⟨coefficient, Int.sub_nonneg_of_le ticking, fun _ => historyWhole ticking⟩
      · rw [settled]
        exact ⟨coefficient, countNonneg, historyWhole⟩
      · rw [failed]
        exact ⟨coefficient, countNonneg, historyWhole⟩

theorem Consistent.run {rotator : WandererRotatorLite} (consistent : rotator.Consistent) (events : List RotatorEvent) :
    (rotator.run events).Consistent := by
  induction events generalizing rotator with
  | nil => exact consistent
  | cons event events ih => exact ih (step_consistent rotator event consistent)

theorem Consistent.tick_bounds {rotator : WandererRotatorLite} (consistent : rotator.Consistent)
    (left : 0 < rotator.positionCount) :
    1 / 2 < |rotator.tickIncrement| ∧ |rotator.tickIncrement| ≤ 1 := by
  have whole := consistent.historyWhole left
  have wholeDegrees : (1 : Rat) ≤ ⌊|rotator.positionHistory|⌋ := by exact_mod_cast Int.le_floor.mpr (by simpa using whole)
  have below := Int.floor_le |rotator.positionHistory|
  have above := Int.lt_floor_add_one |rotator.positionHistory|
  have positive : 0 < |rotator.positionHistory| := by linarith
  rw [tickIncrement_eq, abs_div, abs_mul, abs_coefficient consistent.coefficient, one_mul,
    abs_of_nonneg (by linarith : (0 : Rat) ≤ ⌊|rotator.positionHistory|⌋)]
  exact ⟨by rw [lt_div_iff₀ positive]; linarith, by rw [div_le_one positive]; exact below⟩

/-- A connected driver at rest at `0`, with the backlash `initProperties` sets. -/
def atRest : WandererRotatorLite :=
  ⟨0, .idle, .idle, .idle, .ok, 1 / 2, 0, 0, 0, 1, false, 0, 0, false, 0⟩

def halfDegreeTurn : List RotatorEvent :=
  [.moveRotator (21 / 2) true, .timerHit true none, .reverseRotator true, .timerHit true none]

/-- A turn of `10.5` degrees ticks `10/10.5` of a degree, ten times. -/
example : (atRest.step (.moveRotator (21 / 2) true)).tickIncrement = 20 / 21 := by
  have floor : ⌊|(21 / 2 : Rat)|⌋ = 10 := by rw [abs_of_pos (by norm_num), Int.floor_eq_iff]; norm_num
  norm_num [tickIncrement_eq, step_moveRotator, backlashAdjusted, atRest, floor]

/-!
## A turn, animated and settled
-/

theorem not_both_lengthened {up down history : Rat} (first : up * history < 0 ∧ 0 < up)
    (second : down * history < 0 ∧ down < 0) : False :=
  absurd (pos_of_mul_neg_right second.1 second.2.le) (neg_of_mul_neg_right first.1 first.2.le).not_lt

theorem backlashAdjusted_cases (rotator : WandererRotatorLite) (target : Rat) :
    (0 < target - rotator.position ∧ rotator.backlashAdjusted target =
      (target - rotator.position + rotator.backlashSetting, -1 * rotator.backlashSetting)) ∨
    (target - rotator.position < 0 ∧ rotator.backlashAdjusted target =
      (target - rotator.position - rotator.backlashSetting, rotator.backlashSetting)) ∨
    rotator.backlashAdjusted target = (target - rotator.position, 0) := by
  unfold backlashAdjusted
  dsimp only
  split_ifs with up downAfterUp down
  · exact (not_both_lengthened up downAfterUp).elim
  · exact .inl ⟨up.2, rfl⟩
  · exact .inr (.inl ⟨down.2, rfl⟩)
  · exact .inr (.inr rfl)

theorem backlashAdjusted_sum (rotator : WandererRotatorLite) (target : Rat) :
    (rotator.backlashAdjusted target).1 + (rotator.backlashAdjusted target).2 = target - rotator.position := by
  rcases rotator.backlashAdjusted_cases target with ⟨-, adjusted⟩ | ⟨-, adjusted⟩ | adjusted <;>
    rw [adjusted] <;> ring

theorem backlashAdjusted_pos (rotator : WandererRotatorLite) {target : Rat}
    (backlashNonneg : 0 ≤ rotator.backlashSetting) (above : rotator.position < target) :
    0 < (rotator.backlashAdjusted target).1 := by
  rcases rotator.backlashAdjusted_cases target with ⟨-, adjusted⟩ | ⟨down, -⟩ | adjusted
  · simp only [adjusted]; linarith
  · linarith
  · simp only [adjusted]; linarith

theorem backlashAdjusted_neg (rotator : WandererRotatorLite) {target : Rat}
    (backlashNonneg : 0 ≤ rotator.backlashSetting) (below : target < rotator.position) :
    (rotator.backlashAdjusted target).1 < 0 := by
  rcases rotator.backlashAdjusted_cases target with ⟨up, -⟩ | ⟨-, adjusted⟩ | adjusted
  · linarith
  · simp only [adjusted]; linarith
  · simp only [adjusted]; linarith

theorem tickIncrement_of_pos {rotator : WandererRotatorLite} (positive : 0 < rotator.positionHistory) :
    rotator.tickIncrement =
      rotator.reverseCoefficient * (⌊|rotator.positionHistory|⌋ / |rotator.positionHistory|) := by
  rw [tickIncrement_eq, abs_of_pos positive, mul_div_assoc]

theorem tickIncrement_of_neg {rotator : WandererRotatorLite} (negative : rotator.positionHistory < 0) :
    rotator.tickIncrement =
      -(rotator.reverseCoefficient * (⌊|rotator.positionHistory|⌋ / |rotator.positionHistory|)) := by
  rw [tickIncrement_eq, abs_of_neg negative, mul_div_assoc, div_neg, mul_neg, neg_neg]

theorem run_turn (rotator : WandererRotatorLite) (relative : Rat) (pending : 0 < rotator.timers)
    (running : rotator.haltCommand = false) (countNonneg : 0 ≤ rotator.positionCount)
    (turning : rotator.gotoState = .busy ∨ rotator.homeState = .busy) :
    rotator.run (ticks rotator.positionCount.toNat ++ [.timerHit true (some relative)]) = { rotator with
      position := rotator.positionTemp + rotator.reverseCoefficient * relative + rotator.backlashCompensation
      positionCount := 0
      gotoState := .ok
      homeState := .ok } := by
  have whole : (rotator.positionCount.toNat : Int) = rotator.positionCount := Int.toNat_of_nonneg countNonneg
  rw [run_append, run_ticks _ _ pending running whole.le, run_cons, step_settle, run_nil]
  · simp only [whole, sub_self]
  · exact pending
  · exact running
  · dsimp only
    omega
  · exact turning

/-- A turn to `target`, animated and settled, leaves the display at `target`, off only by
how far the reported turn is off the turn commanded; the backlash added is taken back. -/
theorem move_settles_at_target (rotator : WandererRotatorLite) (target relative : Rat)
    (coefficient : rotator.reverseCoefficient = 1 ∨ rotator.reverseCoefficient = -1)
    (running : rotator.haltCommand = false) :
    (rotator.run (.moveRotator target true :: (ticks (rotator.step (.moveRotator target true)).positionCount.toNat ++
        [.timerHit true (some relative)]))).position =
      target + rotator.reverseCoefficient * (relative - rotator.reverseCoefficient * (rotator.backlashAdjusted target).1) ∧
    (rotator.run (.moveRotator target true :: (ticks (rotator.step (.moveRotator target true)).positionCount.toNat ++
        [.timerHit true (some relative)]))).gotoState = .ok := by
  rw [run_cons, step_moveRotator, run_turn]
  · refine ⟨?_, rfl⟩
    have sum := backlashAdjusted_sum rotator target
    dsimp only
    rcases coefficient with one | one <;> rw [one] <;> push_cast <;> linarith
  · exact Nat.succ_pos _
  · exact running
  · exact abs_nonneg _
  · exact .inl rfl

def turnedUp : WandererRotatorLite :=
  { atRest with position := 10, positionHistory := 10 }

/-- Back to `5` after a turn up, against it, lengthened by the backlash. -/
theorem reversing_move_settles_at_target :
    turnedUp.reverseCoefficient = 1 ∧ turnedUp.haltCommand = false ∧
    (turnedUp.run (.moveRotator 5 true :: (ticks (turnedUp.step (.moveRotator 5 true)).positionCount.toNat ++
        [.timerHit true (some (-11 / 2))]))).position =
      5 + turnedUp.reverseCoefficient * (-11 / 2 - turnedUp.reverseCoefficient * (turnedUp.backlashAdjusted 5).1) ∧
    (turnedUp.run (.moveRotator 5 true :: (ticks (turnedUp.step (.moveRotator 5 true)).positionCount.toNat ++
        [.timerHit true (some (-11 / 2))]))).gotoState = .ok :=
  ⟨rfl, rfl, move_settles_at_target _ 5 (-11 / 2) (.inl rfl) rfl⟩

theorem step_moveRotator_position (rotator : WandererRotatorLite) (target : Rat) (written : Bool) :
    (rotator.step (.moveRotator target written)).position = rotator.position := by
  cases written <;> rfl

theorem tickIncrement_moveRotator (rotator : WandererRotatorLite) (target : Rat)
    (backlashNonneg : 0 ≤ rotator.backlashSetting) :
    (rotator.position < target →
      (rotator.step (.moveRotator target true)).tickIncrement = rotator.reverseCoefficient *
        (⌊|(rotator.backlashAdjusted target).1|⌋ / |(rotator.backlashAdjusted target).1|)) ∧
    (target < rotator.position →
      (rotator.step (.moveRotator target true)).tickIncrement = -(rotator.reverseCoefficient *
        (⌊|(rotator.backlashAdjusted target).1|⌋ / |(rotator.backlashAdjusted target).1|))) :=
  ⟨fun above => @tickIncrement_of_pos (rotator.step (.moveRotator target true))
      (rotator.backlashAdjusted_pos backlashNonneg above),
    fun below => @tickIncrement_of_neg (rotator.step (.moveRotator target true))
      (rotator.backlashAdjusted_neg backlashNonneg below)⟩

/-- The ticks of a turn move the display in the sense of the reverse coefficient, toward
`target` with `1` and away from it with `-1`, each by the commanded turn's whole degrees
over the turn: a degree for a turn of whole degrees, less for one with a fraction. -/
theorem move_animates_by_reverse_coefficient (rotator : WandererRotatorLite) (target : Rat) (count : Nat)
    (running : rotator.haltCommand = false) (backlashNonneg : 0 ≤ rotator.backlashSetting)
    (left : (count : Int) ≤ (rotator.step (.moveRotator target true)).positionCount) :
    (rotator.position < target →
      (rotator.run (.moveRotator target true :: ticks count)).position =
        rotator.position + count * (rotator.reverseCoefficient *
          (⌊|(rotator.backlashAdjusted target).1|⌋ / |(rotator.backlashAdjusted target).1|))) ∧
    (target < rotator.position →
      (rotator.run (.moveRotator target true :: ticks count)).position =
        rotator.position - count * (rotator.reverseCoefficient *
          (⌊|(rotator.backlashAdjusted target).1|⌋ / |(rotator.backlashAdjusted target).1|))) := by
  rw [run_cons, run_ticks _ _ (by exact Nat.succ_pos _) (by exact running) left]
  obtain ⟨up, down⟩ := rotator.tickIncrement_moveRotator target backlashNonneg
  refine ⟨fun above => ?_, fun below => ?_⟩
  · simp only [up above, step_moveRotator_position]
  · simp only [down below, step_moveRotator_position]
    ring

def reversedAtRest : WandererRotatorLite :=
  { atRest with reverseCoefficient := -1 }

/-- In reverse, a turn from `0` up to `10.5`: two ticks of `10/10.5` of a degree, away from
the target. -/
theorem reversed_move_animates_away :
    reversedAtRest.haltCommand = false ∧ 0 ≤ reversedAtRest.backlashSetting ∧
    ((2 : Nat) : Int) ≤ (reversedAtRest.step (.moveRotator (21 / 2) true)).positionCount ∧
    (reversedAtRest.position < 21 / 2 →
      (reversedAtRest.run (.moveRotator (21 / 2) true :: ticks 2)).position =
        reversedAtRest.position + (2 : Nat) * (reversedAtRest.reverseCoefficient *
          (⌊|(reversedAtRest.backlashAdjusted (21 / 2)).1|⌋ / |(reversedAtRest.backlashAdjusted (21 / 2)).1|))) ∧
    (21 / 2 < reversedAtRest.position →
      (reversedAtRest.run (.moveRotator (21 / 2) true :: ticks 2)).position =
        reversedAtRest.position - (2 : Nat) * (reversedAtRest.reverseCoefficient *
          (⌊|(reversedAtRest.backlashAdjusted (21 / 2)).1|⌋ / |(reversedAtRest.backlashAdjusted (21 / 2)).1|))) :=
  have left : ((2 : Nat) : Int) ≤ (reversedAtRest.step (.moveRotator (21 / 2) true)).positionCount := by
    norm_num [step_moveRotator, backlashAdjusted, cInt, reversedAtRest, atRest]
    decide
  ⟨rfl, by norm_num [reversedAtRest, atRest], left,
    move_animates_by_reverse_coefficient _ (21 / 2) 2 rfl (by norm_num [reversedAtRest, atRest]) left⟩

/-- `HomeRotator` leaves `backlashcompensation` as the last `MoveRotator` set it, and the
last tick adds it in: a homing turn, animated and settled, leaves the display at that
compensation, off only by how far the reported turn is off the turn commanded. -/
theorem homing_settles_at_compensation (rotator : WandererRotatorLite) (relative : Rat)
    (coefficient : rotator.reverseCoefficient = 1 ∨ rotator.reverseCoefficient = -1)
    (running : rotator.haltCommand = false) :
    (rotator.run (.homeRotator true :: (ticks (rotator.step (.homeRotator true)).positionCount.toNat ++
        [.timerHit true (some relative)]))).position =
      rotator.backlashCompensation +
        rotator.reverseCoefficient * (relative - -1 * rotator.reverseCoefficient * rotator.position) ∧
    (rotator.run (.homeRotator true :: (ticks (rotator.step (.homeRotator true)).positionCount.toNat ++
        [.timerHit true (some relative)]))).homeState = .ok := by
  rw [run_cons, step_homeRotator, run_turn]
  · refine ⟨?_, rfl⟩
    dsimp only
    rcases coefficient with one | one <;> rw [one] <;> push_cast <;> ring
  · exact Nat.succ_pos _
  · exact running
  · exact abs_nonneg _
  · exact .inr rfl

def afterReversal : WandererRotatorLite :=
  { atRest with position := 5, positionHistory := -11 / 2, backlashCompensation := 1 / 2 }

/-- Homing after a turn that reversed: the rotator reports the turn commanded, and the
display settles at the compensation, `0.5`. -/
theorem homing_after_reversal_settles_off_zero :
    afterReversal.reverseCoefficient = 1 ∧ afterReversal.haltCommand = false ∧
    (afterReversal.run (.homeRotator true :: (ticks (afterReversal.step (.homeRotator true)).positionCount.toNat ++
        [.timerHit true (some (-5))]))).position =
      afterReversal.backlashCompensation +
        afterReversal.reverseCoefficient * (-5 - -1 * afterReversal.reverseCoefficient * afterReversal.position) ∧
    (afterReversal.run (.homeRotator true :: (ticks (afterReversal.step (.homeRotator true)).positionCount.toNat ++
        [.timerHit true (some (-5))]))).homeState = .ok :=
  ⟨rfl, rfl, homing_settles_at_compensation _ (-5) (.inl rfl) rfl⟩

/-!
## Timer chains
-/

/-- Whether a call arms a timer of its own, beside the one it may be run by: a turn or a
homing whose command is written. -/
def startsTimer : RotatorEvent → Bool
  | .moveRotator _ written | .homeRotator written => written
  | _ => false

/-- Whether a call keeps every timer chain going: it is no abort, and a timer expiry
finds the reply it would read. -/
def keepsPolling : RotatorEvent → Bool
  | .abortRotator _ => false
  | .timerHit _ relative => relative.isSome
  | _ => true

theorem step_timers (rotator : WandererRotatorLite) (event : RotatorEvent)
    (running : rotator.haltCommand = false) (polling : keepsPolling event = true) :
    (rotator.step event).haltCommand = false ∧
      (rotator.step event).timers = rotator.timers + if startsTimer event then 1 else 0 := by
  cases event with
  | handshake reading => cases reading <;> exact ⟨running, rfl⟩
  | moveRotator target written => rw [step_moveRotator]; cases written <;> exact ⟨running, rfl⟩
  | homeRotator written => rw [step_homeRotator]; cases written <;> exact ⟨running, rfl⟩
  | setHome written => cases written <;> exact ⟨running, rfl⟩
  | setBacklash value => exact ⟨running, rfl⟩
  | reverseRotator enabled => cases enabled <;> exact ⟨running, rfl⟩
  | abortRotator mechanical => cases polling
  | timerHit connected relative =>
      obtain ⟨relative, rfl⟩ := Option.isSome_iff_exists.mp polling
      have quiet : startsTimer (.timerHit connected (some relative)) = false := rfl
      simp only [step, quiet, Bool.false_eq_true, if_false, add_zero]
      split
      · exact ⟨running, rfl⟩
      have fired : rotator.timers - 1 + 1 = rotator.timers := by omega
      rcases timerHit_cases { rotator with timers := rotator.timers - 1 } connected (some relative) with
        same | ⟨halted, -⟩ | ⟨-, ticked⟩ | ⟨read, -, settled⟩ | ⟨failed, -⟩
      · rw [same]
        exact ⟨running, fired⟩
      · simp [running] at halted
      · rw [ticked]
        exact ⟨running, fired⟩
      · rw [settled]
        exact ⟨running, fired⟩
      · cases failed

/-- The `SetTimer` calls of `TimerHit` re-arm the timer that ran, and nothing cancels a
timer: over every run without a halt, an abort or a failed read, each turn or homing
written starts one more chain of `TimerHit` calls, and every chain keeps running. -/
theorem timer_chains_accumulate (rotator : WandererRotatorLite) (events : List RotatorEvent)
    (running : rotator.haltCommand = false) (polling : ∀ event ∈ events, keepsPolling event = true) :
    (rotator.run events).timers = rotator.timers + (events.filter startsTimer).length := by
  induction events generalizing rotator with
  | nil => rfl
  | cons event events ih =>
      have stepped := step_timers rotator event running (polling event (List.mem_cons_self _ _))
      rw [run_cons, ih _ stepped.1 fun other member => polling other (List.mem_cons_of_mem _ member), stepped.2,
        List.filter_cons]
      cases startsTimer event
      · simp
      · simp only [if_true, List.length_cons]
        omega

/-- Two turns from rest, each animated by timer expiries: after the second, two chains
run. -/
theorem two_turns_two_chains :
    atRest.haltCommand = false ∧
    (∀ event ∈ [RotatorEvent.moveRotator 2 true, .timerHit true (some 0), .timerHit true (some 0),
        .timerHit true (some 2), .moveRotator 4 true, .timerHit true (some 0)], keepsPolling event = true) ∧
    (atRest.run [.moveRotator 2 true, .timerHit true (some 0), .timerHit true (some 0), .timerHit true (some 2),
        .moveRotator 4 true, .timerHit true (some 0)]).timers =
      atRest.timers + ([RotatorEvent.moveRotator 2 true, .timerHit true (some 0), .timerHit true (some 0),
        .timerHit true (some 2), .moveRotator 4 true, .timerHit true (some 0)].filter startsTimer).length :=
  ⟨rfl, by decide, timer_chains_accumulate atRest _ rfl (by decide)⟩

end WandererRotatorLite

end Indi
