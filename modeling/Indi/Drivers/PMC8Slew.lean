import Mathlib.Algebra.Order.Field.Rat
import Mathlib.Tactic.Linarith

/-!
# The PMC8 simulator's slew

In simulation, `ReadScopeStatus` calls `mountSim` at each poll. While the mount slews, or
parks, `mountSim` moves each axis `da = SLEWRATE * dt` degrees toward its target, `dt`
seconds after the last poll, or nails the axis to the target once it is within `da`;
when a poll nails both axes the simulated mount stops slewing and the slew ends. The
right ascension, in hours, moves `da / 15` hours the short way round the clock and is
folded back into `0..24` once, and it is nailed once within `da` hours. Doubles are
modelled as rationals.

Each poll that does not nail the right ascension lowers its distance to the target, the
short way round, by the hours it moves; when the short way crosses `0h` the distance
counts four hours more, which pays for the one poll that may overshoot the target across
`0h`. So with polls at least `delta` seconds apart every slew within `0..24` hours ends
at its target, once there have been more than `80 / delta` polls and enough of them to
move the declination as far as it has to go.
-/

set_option autoImplicit false

namespace Indi

namespace PMC8

/-- `SLEWRATE`: the simulated slew rate, in degrees per second. -/
def slewRate : Rat := 3

/-- The coordinates `mountSim` moves: the current and the target right ascension, in
hours, and declination, in degrees. -/
structure SimAxes where
  currentRA : Rat
  currentDEC : Rat
  targetRA : Rat
  targetDEC : Rat
deriving DecidableEq, Repr

/-- One axis of a slewing poll: nailed to `target` when `dx` is within `da`, which adds
one to `nlocked`; else moved by `step` the way `dx` points. -/
def approach (current target dx da step : Rat) : Rat × Bool :=
  if |dx| ≤ da then (target, true)
  else if dx > 0 then (current + step, false)
  else (current - step, false)

/-- `currentRA` folded back once: `24` added below `0`, taken off above `24`. -/
def foldHours (ra : Rat) : Rat :=
  if ra < 0 then ra + 24 else if ra > 24 then ra - 24 else ra

/-- The right ascension in the slewing case of `PMC8::mountSim`: `dx` turned round when
it is more than twelve hours, to take the shortest path, then nailed within `da` or moved
`da / 15` hours, and folded. -/
def slewRA (current target da : Rat) : Rat × Bool :=
  let dx := target - current
  let dx := if |dx| > 12 then -dx else dx
  let moved := approach current target dx da (da / 15)
  (foldHours moved.1, moved.2)

/-- The declination in the slewing case of `PMC8::mountSim`: nailed within `da`, or
moved `da`. -/
def slewDEC (current target da : Rat) : Rat × Bool :=
  approach current target (target - current) da da

/-- The `SCOPE_SLEWING` and `SCOPE_PARKING` case of `PMC8::mountSim`, `dt` seconds after
the last poll: the axes, and whether both were nailed (`nlocked == 2`), when the
simulated mount is set to tracking, or parked. -/
def slewSim (axes : SimAxes) (dt : Rat) : SimAxes × Bool :=
  let da := slewRate * dt
  let ra := slewRA axes.currentRA axes.targetRA da
  let dec := slewDEC axes.currentDEC axes.targetDEC da
  ({ axes with currentRA := ra.1, currentDEC := dec.1 }, ra.2 && dec.2)

/-- The polls of a slew, each `dt` seconds after the one before: `mountSim` moves the
axes until a poll nails both, when the simulated mount stops slewing and
`ReadScopeStatus` ends the slew. The axes, and whether the slew has ended. -/
def slewPolls (axes : SimAxes) : List Rat → SimAxes × Bool
  | [] => (axes, false)
  | dt :: dts =>
      let polled := slewSim axes dt
      if polled.2 then polled else slewPolls polled.1 dts

/-- From `23h` toward `1h`, polled every five seconds: the right ascension moves an hour a
poll, rests at `24h`, which is not folded, then folds onto `1h`. -/
example : slewPolls ⟨23, 0, 1, 5⟩ [5, 5, 5] = (⟨1, 5, 1, 5⟩, true) := by
  norm_num [slewPolls, slewSim, slewRA, slewDEC, approach, foldHours, slewRate, abs]

/-!
## One poll
-/

theorem approach_of_near {current target dx da step : Rat} (near : |dx| ≤ da) :
    approach current target dx da step = (target, true) :=
  if_pos near

theorem approach_of_pos {current target dx da step : Rat} (far : da < |dx|) (ahead : 0 < dx) :
    approach current target dx da step = (current + step, false) := by
  simp only [approach, if_neg (not_le.mpr far), if_pos ahead]

theorem approach_of_nonpos {current target dx da step : Rat} (far : da < |dx|) (behind : dx ≤ 0) :
    approach current target dx da step = (current - step, false) := by
  simp only [approach, if_neg (not_le.mpr far), if_neg (not_lt.mpr behind)]

theorem foldHours_of_mem {ra : Rat} (nonneg : 0 ≤ ra) (le : ra ≤ 24) : foldHours ra = ra := by
  simp only [foldHours, if_neg (not_lt.mpr nonneg), if_neg (not_lt.mpr le)]

theorem foldHours_of_neg {ra : Rat} (neg : ra < 0) : foldHours ra = ra + 24 :=
  if_pos neg

theorem foldHours_of_gt {ra : Rat} (gt : 24 < ra) : foldHours ra = ra - 24 := by
  simp only [foldHours, if_neg (not_lt.mpr (by linarith : (0 : Rat) ≤ ra)), if_pos gt]

theorem abs_shortest (dx : Rat) : |if |dx| > 12 then -dx else dx| = |dx| := by
  split <;> simp only [abs_neg]

theorem slewRA_of_near {current target da : Rat} (near : |target - current| ≤ da) :
    slewRA current target da = (foldHours target, true) := by
  simp only [slewRA, approach_of_near ((abs_shortest _).trans_le near)]

theorem slewRA_of_pos {current target da : Rat} (far : da < |target - current|)
    (ahead : 0 < if |target - current| > 12 then -(target - current) else target - current) :
    slewRA current target da = (foldHours (current + da / 15), false) := by
  simp only [slewRA, approach_of_pos (far.trans_eq (abs_shortest _).symm) ahead]

theorem slewRA_of_nonpos {current target da : Rat} (far : da < |target - current|)
    (behind : (if |target - current| > 12 then -(target - current) else target - current) ≤ 0) :
    slewRA current target da = (foldHours (current - da / 15), false) := by
  simp only [slewRA, approach_of_nonpos (far.trans_eq (abs_shortest _).symm) behind]

/-- How far the right ascension still has to go to its target, the short way round; four
hours more while that way crosses `0h`. -/
def raDistance (current target : Rat) : Rat :=
  if |target - current| > 12 then 28 - |target - current| else |target - current|

theorem abs_hours_sub_le {current target : Rat} (hours : 0 ≤ current ∧ current ≤ 24)
    (aimed : 0 ≤ target ∧ target ≤ 24) : |target - current| ≤ 24 :=
  abs_le.mpr ⟨by linarith only [hours.2, aimed.1], by linarith only [hours.1, aimed.2]⟩

theorem raDistance_nonneg {current target : Rat} (hours : 0 ≤ current ∧ current ≤ 24)
    (aimed : 0 ≤ target ∧ target ≤ 24) : 0 ≤ raDistance current target := by
  have apart := abs_hours_sub_le hours aimed
  unfold raDistance
  split <;> linarith only [apart, abs_nonneg (target - current)]

theorem raDistance_le (current target : Rat) : raDistance current target ≤ 16 := by
  unfold raDistance
  split_ifs with wide <;> linarith

theorem raDistance_self (target : Rat) : raDistance target target = 0 := by
  simp [raDistance]

theorem raDistance_of_gt {current target : Rat} (wide : 12 < target - current) :
    raDistance current target = 28 - (target - current) := by
  rw [raDistance, abs_of_pos (by linarith), if_pos wide]

theorem raDistance_of_lt {current target : Rat} (wide : target - current < -12) :
    raDistance current target = 28 + (target - current) := by
  rw [raDistance, abs_of_neg (by linarith), if_pos (by linarith), sub_neg_eq_add]

theorem raDistance_of_nonneg {current target : Rat} (nonneg : 0 ≤ target - current)
    (narrow : target - current ≤ 12) : raDistance current target = target - current := by
  rw [raDistance, abs_of_nonneg nonneg, if_neg (not_lt.mpr narrow)]

theorem raDistance_of_nonpos {current target : Rat} (nonpos : target - current ≤ 0)
    (narrow : -12 ≤ target - current) : raDistance current target = -(target - current) := by
  rw [raDistance, abs_of_nonpos nonpos, if_neg (not_lt.mpr (by linarith))]

theorem moveDown_spec {current target step : Rat} (low : 0 ≤ current) (high : current ≤ 24)
    (bottom : 0 ≤ target) (top : target ≤ 24) (forward : 0 ≤ step)
    (short : 12 < target - current ∨ (target - current ≤ 0 ∧ -12 ≤ target - current))
    (far : 15 * step < |target - current|) :
    0 ≤ foldHours (current - step) ∧ foldHours (current - step) ≤ 24 ∧
      raDistance (foldHours (current - step)) target + step ≤ raDistance current target := by
  have below : current - step ≤ 24 := by linarith only [high, forward]
  rcases short with wide | ⟨behind, narrow⟩
  · rw [abs_of_pos (by linarith only [wide])] at far
    rcases lt_or_le (current - step) 0 with under | over
    · rw [foldHours_of_neg under, raDistance_of_gt wide]
      refine ⟨by linarith only [far, top, low], by linarith only [under], ?_⟩
      rcases le_or_lt (target - (current - step + 24)) 0 with short | past
      · rw [raDistance_of_nonpos short (by linarith only [wide, forward])]
        linarith only []
      · rw [raDistance_of_nonneg past.le (by linarith only [far, top, low])]
        linarith only [far, top, low]
    · rw [foldHours_of_mem over below, raDistance_of_gt wide,
        raDistance_of_gt (by linarith only [wide, forward])]
      exact ⟨over, below, by linarith only []⟩
  · rw [abs_of_nonpos behind] at far
    have above : 0 ≤ current - step := by linarith only [far, forward, bottom]
    rw [foldHours_of_mem above below, raDistance_of_nonpos behind narrow,
      raDistance_of_nonpos (by linarith only [far, forward]) (by linarith only [narrow, forward])]
    exact ⟨above, below, by linarith only []⟩

theorem foldHours_reflect (ra : Rat) : foldHours (24 - ra) = 24 - foldHours ra := by
  rcases lt_or_le ra 0 with neg | nonneg
  · rw [foldHours_of_gt (by linarith only [neg]), foldHours_of_neg neg]
    linarith only []
  rcases le_or_lt ra 24 with le | gt
  · rw [foldHours_of_mem (by linarith only [le]) (by linarith only [nonneg]), foldHours_of_mem nonneg le]
  · rw [foldHours_of_neg (by linarith only [gt]), foldHours_of_gt gt]
    linarith only []

theorem raDistance_reflect (current target : Rat) :
    raDistance (24 - current) (24 - target) = raDistance current target := by
  simp only [raDistance, sub_sub_sub_cancel_left, abs_sub_comm current target]

theorem moveUp_spec {current target step : Rat} (low : 0 ≤ current) (high : current ≤ 24)
    (bottom : 0 ≤ target) (top : target ≤ 24) (forward : 0 ≤ step)
    (short : target - current < -12 ∨ (0 < target - current ∧ target - current ≤ 12))
    (far : 15 * step < |target - current|) :
    0 ≤ foldHours (current + step) ∧ foldHours (current + step) ≤ 24 ∧
      raDistance (foldHours (current + step)) target + step ≤ raDistance current target := by
  have mirrored := @moveDown_spec (24 - current) (24 - target) step (by linarith only [high])
    (by linarith only [low]) (by linarith only [top]) (by linarith only [bottom]) forward
    (by rw [sub_sub_sub_cancel_left]; rcases short with wide | ⟨ahead, narrow⟩
        · exact .inl (by linarith only [wide])
        · exact .inr ⟨by linarith only [ahead], by linarith only [narrow]⟩)
    (by rwa [sub_sub_sub_cancel_left, abs_sub_comm])
  rw [sub_sub, foldHours_reflect, raDistance_reflect, raDistance_reflect] at mirrored
  obtain ⟨nonneg, le, closer⟩ := mirrored
  exact ⟨by linarith only [le], by linarith only [nonneg], closer⟩

theorem slewRA_spec {current target da : Rat} (hours : 0 ≤ current ∧ current ≤ 24)
    (aimed : 0 ≤ target ∧ target ≤ 24) (forward : 0 ≤ da) :
    slewRA current target da = (target, true) ∨
      ∃ moved, slewRA current target da = (moved, false) ∧ 0 ≤ moved ∧ moved ≤ 24 ∧
        raDistance moved target + da / 15 ≤ raDistance current target := by
  obtain ⟨low, high⟩ := hours
  obtain ⟨bottom, top⟩ := aimed
  rcases le_or_lt |target - current| da with near | far
  · exact .inl (by rw [slewRA_of_near near, foldHours_of_mem bottom top])
  have moves : 15 * (da / 15) < |target - current| := by linarith only [far]
  have step : 0 ≤ da / 15 := div_nonneg forward (by norm_num)
  right
  rcases lt_or_le 12 (target - current) with above | notAbove
  · have turned : (if |target - current| > 12 then -(target - current) else target - current) ≤ 0 := by
      rw [if_pos (by rwa [abs_of_pos (by linarith only [above])])]
      linarith only [above]
    rw [slewRA_of_nonpos far turned]
    exact ⟨_, rfl, moveDown_spec low high bottom top step (.inl above) moves⟩
  rcases lt_or_le (target - current) (-12) with below | notBelow
  · have turned : 0 < if |target - current| > 12 then -(target - current) else target - current := by
      rw [if_pos (by rw [abs_of_neg (by linarith only [below])]; linarith only [below])]
      linarith only [below]
    rw [slewRA_of_pos far turned]
    exact ⟨_, rfl, moveUp_spec low high bottom top step (.inl below) moves⟩
  have narrow : ¬|target - current| > 12 := not_lt.mpr (abs_le.mpr ⟨notBelow, notAbove⟩)
  rcases lt_or_le 0 (target - current) with ahead | behind
  · rw [slewRA_of_pos far (by rwa [if_neg narrow])]
    exact ⟨_, rfl, moveUp_spec low high bottom top step (.inr ⟨ahead, notAbove⟩) moves⟩
  · rw [slewRA_of_nonpos far (by rwa [if_neg narrow])]
    exact ⟨_, rfl, moveDown_spec low high bottom top step (.inr ⟨behind, notBelow⟩) moves⟩

theorem slewDEC_spec (current target da : Rat) :
    slewDEC current target da = (target, true) ∨
      ∃ moved, slewDEC current target da = (moved, false) ∧ da < |target - current| ∧
        |target - moved| = |target - current| - da := by
  rcases le_or_lt |target - current| da with near | far
  · exact .inl (approach_of_near near)
  right
  rcases lt_or_le 0 (target - current) with ahead | behind
  · refine ⟨_, approach_of_pos far ahead, far, ?_⟩
    rw [abs_of_pos ahead] at far ⊢
    rw [abs_of_pos (by linarith)]
    linarith
  · refine ⟨_, approach_of_nonpos far behind, far, ?_⟩
    rw [abs_of_nonpos behind] at far ⊢
    rw [abs_of_neg (by linarith)]
    linarith

/-!
## A whole slew
-/

theorem slewSim_eq {axes : SimAxes} {dt ra dec : Rat} {lockedRA lockedDEC : Bool}
    (movedRA : slewRA axes.currentRA axes.targetRA (slewRate * dt) = (ra, lockedRA))
    (movedDEC : slewDEC axes.currentDEC axes.targetDEC (slewRate * dt) = (dec, lockedDEC)) :
    slewSim axes dt = ({ axes with currentRA := ra, currentDEC := dec }, lockedRA && lockedDEC) := by
  simp only [slewSim, movedRA, movedDEC]

theorem slewPolls_cons (axes : SimAxes) (dt : Rat) (dts : List Rat) :
    slewPolls axes (dt :: dts) =
      if (slewSim axes dt).2 then slewSim axes dt else slewPolls (slewSim axes dt).1 dts :=
  rfl

theorem slewPolls_of_distance {delta : Rat} (positive : 0 < delta) (dts : List Rat) :
    ∀ axes : SimAxes, (∀ dt ∈ dts, delta ≤ dt) →
      0 ≤ axes.currentRA ∧ axes.currentRA ≤ 24 → 0 ≤ axes.targetRA ∧ axes.targetRA ≤ 24 →
      raDistance axes.currentRA axes.targetRA < dts.length * (slewRate * delta / 15) →
      |axes.targetDEC - axes.currentDEC| < dts.length * (slewRate * delta) →
      slewPolls axes dts = ({ axes with currentRA := axes.targetRA, currentDEC := axes.targetDEC }, true) := by
  have least : 0 < slewRate * delta := mul_pos (by norm_num [slewRate]) positive
  induction dts with
  | nil =>
      intro axes _ hours aimed enoughRA _
      have := raDistance_nonneg hours aimed
      simp only [List.length_nil, Nat.cast_zero, zero_mul] at enoughRA
      linarith only [this, enoughRA]
  | cons dt dts ih =>
      intro axes apart hours aimed enoughRA enoughDEC
      simp only [List.length_cons, Nat.cast_succ, add_mul, one_mul] at enoughRA enoughDEC
      have faster : slewRate * delta ≤ slewRate * dt :=
        mul_le_mul_of_nonneg_left (apart dt (List.mem_cons_self dt dts)) (by norm_num [slewRate])
      have rest : ∀ dt ∈ dts, delta ≤ dt := fun dt member => apart dt (List.mem_cons_of_mem _ member)
      rw [slewPolls_cons]
      rcases @slewRA_spec _ _ (slewRate * dt) hours aimed (by linarith only [least, faster]) with
        nailedRA | ⟨ra, movedRA, low, high, closerRA⟩
      · rcases slewDEC_spec axes.currentDEC axes.targetDEC (slewRate * dt) with
          nailedDEC | ⟨dec, movedDEC, farDEC, closerDEC⟩
        · rw [slewSim_eq nailedRA nailedDEC]
          rfl
        · rw [slewSim_eq nailedRA movedDEC, Bool.and_false, if_neg Bool.false_ne_true]
          exact ih _ rest aimed aimed (by rw [raDistance_self]; linarith only [enoughDEC, farDEC, faster])
            (by linarith only [closerDEC, enoughDEC, faster])
      · have nearer : raDistance ra axes.targetRA < dts.length * (slewRate * delta / 15) := by
          linarith only [closerRA, enoughRA, faster]
        have left := raDistance_nonneg ⟨low, high⟩ aimed
        rcases slewDEC_spec axes.currentDEC axes.targetDEC (slewRate * dt) with
          nailedDEC | ⟨dec, movedDEC, farDEC, closerDEC⟩
        · rw [slewSim_eq movedRA nailedDEC, Bool.false_and, if_neg Bool.false_ne_true]
          exact ih _ rest ⟨low, high⟩ aimed nearer (by rw [sub_self, abs_zero]; linarith only [left, nearer])
        · rw [slewSim_eq movedRA movedDEC, Bool.false_and, if_neg Bool.false_ne_true]
          exact ih _ rest ⟨low, high⟩ aimed nearer (by linarith only [closerDEC, enoughDEC, faster])

end PMC8

end Indi
