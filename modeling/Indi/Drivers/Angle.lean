import Mathlib.Algebra.ModEq
import Mathlib.Algebra.Order.Field.Rat
import Mathlib.Data.Rat.Floor
import Mathlib.Tactic.Linarith

/-!
# The telescope simulator's angles

The `Angle` class of `scopesim_helper.h` holds an angle in degrees folded by `range` into
`-180 ≤ angle < 180`, so that its arithmetic and comparisons work across the wrap at
`±180`. What an `Angle` stands for is a direction: an angle modulo a full turn. Every
direction has exactly one `Angle`, and each arithmetic operator of the class computes the
operation on directions.

Doubles are modelled as rationals, and every result here needs that exact arithmetic.
With doubles, `range` never returns for an infinite angle or for one so large that
`deg -= 360.0` leaves it as it is, a NaN passes both loops as it is, and the sums round,
so that `Degrees360` of a small negative angle reads `360.0` and `Hours` reads `24.0`.
None of this is modelled.
-/

set_option autoImplicit false

namespace Indi

/-- A direction: an angle in degrees, modulo a full turn. What an `Angle` stands for. -/
abbrev Direction := ℚ ⧸ AddSubgroup.zmultiples (360 : ℚ)

namespace Angle

/-!
## `Angle::range`
-/

/-- The first loop of `Angle::range`: `while (deg >= 180.0) deg -= 360.0`. -/
def rangeDown (deg : Rat) : Rat :=
  if above : 180 ≤ deg then rangeDown (deg - 360) else deg
termination_by ⌊deg⌋.toNat
decreasing_by
  have floorAbove : (180 : Int) ≤ ⌊deg⌋ := Int.le_floor.mpr (by exact_mod_cast above)
  have shifted : ⌊deg - 360⌋ = ⌊deg⌋ - 360 := by simp
  omega

/-- The second loop of `Angle::range`: `while (deg < -180.0) deg += 360.0`. -/
def rangeUp (deg : Rat) : Rat :=
  if below : deg < -180 then rangeUp (deg + 360) else deg
termination_by (-⌊deg⌋).toNat
decreasing_by
  have floorBelow : ⌊deg⌋ < -180 := Int.floor_lt.mpr (by exact_mod_cast below)
  have shifted : ⌊deg + 360⌋ = ⌊deg⌋ + 360 := by simp
  omega

/-- `Angle::range`: an angle in degrees folded into `-180 ≤ deg < 180`. -/
def range (deg : Rat) : Rat :=
  rangeUp (rangeDown deg)

/-- The folded range of an `Angle`. -/
def InRange (deg : Rat) : Prop :=
  -180 ≤ deg ∧ deg < 180

theorem modEq_sub_turn (deg : Rat) : deg - 360 ≡ deg [PMOD (360 : ℚ)] :=
  AddCommGroup.modEq_iff_eq_add_zsmul.mpr ⟨1, by simp⟩

theorem modEq_add_turn (deg : Rat) : deg + 360 ≡ deg [PMOD (360 : ℚ)] :=
  AddCommGroup.modEq_iff_eq_add_zsmul.mpr ⟨-1, by simp⟩

theorem rangeDown_spec (deg : Rat) :
    rangeDown deg < 180 ∧ rangeDown deg ≡ deg [PMOD (360 : ℚ)] ∧ (-180 ≤ deg → -180 ≤ rangeDown deg) := by
  induction deg using rangeDown.induct with
  | case1 deg above ih =>
      rw [rangeDown, dif_pos above]
      exact ⟨ih.1, ih.2.1.trans (modEq_sub_turn deg), fun _ => ih.2.2 (by linarith)⟩
  | case2 deg below =>
      rw [rangeDown, dif_neg below]
      exact ⟨not_le.mp below, AddCommGroup.modEq_rfl, id⟩

theorem rangeUp_spec (deg : Rat) :
    -180 ≤ rangeUp deg ∧ rangeUp deg ≡ deg [PMOD (360 : ℚ)] ∧ (deg < 180 → rangeUp deg < 180) := by
  induction deg using rangeUp.induct with
  | case1 deg below ih =>
      rw [rangeUp, dif_pos below]
      exact ⟨ih.1, ih.2.1.trans (modEq_add_turn deg), fun _ => ih.2.2 (by linarith)⟩
  | case2 deg above =>
      rw [rangeUp, dif_neg above]
      exact ⟨not_lt.mp above, AddCommGroup.modEq_rfl, id⟩

theorem range_spec (deg : Rat) : InRange (range deg) ∧ range deg ≡ deg [PMOD (360 : ℚ)] :=
  ⟨⟨(rangeUp_spec _).1, (rangeUp_spec _).2.2 (rangeDown_spec deg).1⟩,
    (rangeUp_spec _).2.1.trans (rangeDown_spec deg).2.1⟩

theorem eq_of_modEq {first second : Rat} (inFirst : InRange first) (inSecond : InRange second)
    (turns : first ≡ second [PMOD (360 : ℚ)]) : first = second := by
  obtain ⟨z, apart⟩ := turns
  rw [zsmul_eq_mul] at apart
  have lower : (-1 : Int) < z := by
    have : (-1 : ℚ) < z := by linarith [inFirst.1, inFirst.2, inSecond.1, inSecond.2]
    exact_mod_cast this
  have upper : z < 1 := by
    have : (z : ℚ) < 1 := by linarith [inFirst.1, inFirst.2, inSecond.1, inSecond.2]
    exact_mod_cast this
  obtain rfl : z = 0 := by omega
  simp only [Int.cast_zero, zero_mul, sub_eq_zero] at apart
  exact apart.symm

end Angle

/-!
## The class
-/

/-- `Angle`: its `angle`, in degrees, always in `-180 ≤ angle < 180`. -/
@[ext]
structure Angle where
  angle : Rat
  inRange : Angle.InRange angle

instance : DecidableEq Angle := fun first second =>
  decidable_of_iff (first.angle = second.angle) Angle.ext_iff.symm

namespace Angle

/-- `Angle()`. -/
def zero : Angle := ⟨0, by norm_num [InRange]⟩

/-- `Angle(double degrees)`: the angle folded into the range. -/
def ofDegrees (degrees : Rat) : Angle := ⟨range degrees, (range_spec degrees).1⟩

@[simp] theorem ofDegrees_angle (degrees : Rat) : (ofDegrees degrees).angle = range degrees := rfl

/-- `Angle::Degrees`. -/
def degrees (this : Angle) : Rat := this.angle

/-- `Angle::Degrees360`. -/
def degrees360 (this : Angle) : Rat := if 0 ≤ this.angle then this.angle else 360 + this.angle

/-- `Angle::Hours`. -/
def hours (this : Angle) : Rat := if this.angle / 15 < 0 then 24 + this.angle / 15 else this.angle / 15

/-- `Angle::HoursHa`. -/
def hoursHa (this : Angle) : Rat := this.angle / 15

/-- `Angle::hrstoDeg`. -/
def hrstoDeg (hrs : Rat) : Rat := range (hrs * 15)

/-- `Angle::setDegrees`. -/
def setDegrees (_this : Angle) (deg : Rat) : Angle := ofDegrees deg

/-- `Angle::setHours`. -/
def setHours (_this : Angle) (hrs : Rat) : Angle := ⟨hrstoDeg hrs, (range_spec _).1⟩

/-- `Angle::add`: the sum `a.Degrees() + this->Degrees()`. -/
def add (this a : Angle) : Angle := ofDegrees (a.degrees + this.degrees)

/-- `Angle::subtract`. -/
def subtract (this a : Angle) : Angle := ofDegrees (this.degrees - a.degrees)

/-- `Angle::difference`: the angle from `a` to `this`, folded into the range. -/
def difference (this a : Angle) : Rat := range (this.angle - a.angle)

/-- The unary `operator-`. -/
def negate (this : Angle) : Angle := ofDegrees (-this.angle)

/-- `operator+=` of an `Angle`. -/
def addAssign (this a : Angle) : Angle := ofDegrees (this.angle + a.angle)

/-- `operator+=` of a number of degrees. -/
def addAssignDegrees (this : Angle) (d : Rat) : Angle := ofDegrees (this.angle + d)

/-- `operator-=` of an `Angle`. -/
def subAssign (this a : Angle) : Angle := ofDegrees (this.angle - a.angle)

/-- `operator-=` of a number of degrees. -/
def subAssignDegrees (this : Angle) (d : Rat) : Angle := ofDegrees (this.angle - d)

/-- `operator+` of an `Angle`. -/
def plus (this a : Angle) : Angle := ofDegrees (this.angle + a.angle)

/-- `operator+` of a number of degrees. -/
def plusDegrees (this : Angle) (d : Rat) : Angle := ofDegrees (this.angle + d)

/-- `operator-` of an `Angle`. -/
def minus (this rhs : Angle) : Angle := ofDegrees (this.angle - rhs.angle)

/-- `operator-` of a number of degrees. -/
def minusDegrees (this : Angle) (rhs : Rat) : Angle := ofDegrees (this.angle - rhs)

/-- `operator*`: the angle, as held, times a duration. -/
def times (this : Angle) (duration : Rat) : Angle := ofDegrees (this.angle * duration)

/-- `operator>`. -/
def gt (this a : Angle) : Bool := decide (this.difference a > 0)

/-- `operator<`. -/
def lt (this a : Angle) : Bool := decide (this.difference a < 0)

/-- `operator>=`. -/
def ge (this a : Angle) : Bool := decide (this.difference a ≥ 0)

/-- `operator<=`. -/
def le (this a : Angle) : Bool := decide (this.difference a ≤ 0)

/-!
## What an `Angle` stands for
-/

/-- The direction an `Angle` stands for. -/
def toDirection (this : Angle) : Direction := (this.angle : Direction)

@[simp] theorem mk_range (deg : Rat) : ((range deg : ℚ) : Direction) = deg :=
  AddCommGroup.modEq_iff_eq_mod_zmultiples.mp (range_spec deg).2.symm

@[simp] theorem toDirection_ofDegrees (degrees : Rat) : (ofDegrees degrees).toDirection = degrees :=
  mk_range degrees

theorem toDirection_injective : Function.Injective toDirection := fun first second same =>
  Angle.ext (eq_of_modEq first.inRange second.inRange (AddCommGroup.modEq_iff_eq_mod_zmultiples.mpr same.symm))

theorem toDirection_surjective : Function.Surjective toDirection := fun direction => by
  obtain ⟨degrees, rfl⟩ := QuotientAddGroup.mk_surjective direction
  exact ⟨ofDegrees degrees, toDirection_ofDegrees degrees⟩

/-- In exact arithmetic, `Angle` is the group of directions: every direction has one
`Angle`, and each operator computes the operation on directions (`operator*` for whole
factors). -/
theorem angle_refines_directions :
    Function.Bijective toDirection ∧
    (∀ degrees : Rat, (ofDegrees degrees).toDirection = degrees) ∧
    (∀ this a : Angle,
      (this.add a).toDirection = a.toDirection + this.toDirection ∧
      (this.subtract a).toDirection = this.toDirection - a.toDirection ∧
      (this.addAssign a).toDirection = this.toDirection + a.toDirection ∧
      (this.subAssign a).toDirection = this.toDirection - a.toDirection ∧
      (this.plus a).toDirection = this.toDirection + a.toDirection ∧
      (this.minus a).toDirection = this.toDirection - a.toDirection ∧
      ((this.difference a : ℚ) : Direction) = this.toDirection - a.toDirection) ∧
    (∀ (this : Angle) (d : Rat),
      (this.addAssignDegrees d).toDirection = this.toDirection + d ∧
      (this.subAssignDegrees d).toDirection = this.toDirection - d ∧
      (this.plusDegrees d).toDirection = this.toDirection + d ∧
      (this.minusDegrees d).toDirection = this.toDirection - d ∧
      (this.setDegrees d).toDirection = d ∧
      (this.setHours d).toDirection = ((d * 15 : ℚ) : Direction)) ∧
    (∀ this : Angle, this.negate.toDirection = -this.toDirection) ∧
    (∀ (this : Angle) (k : Int), (this.times k).toDirection = k • this.toDirection) := by
  refine ⟨⟨toDirection_injective, toDirection_surjective⟩, toDirection_ofDegrees, fun this a => ?_,
    fun this d => ?_, fun this => ?_, fun this k => ?_⟩
  · simp [add, subtract, addAssign, subAssign, plus, minus, difference, degrees, toDirection]
  · simp [addAssignDegrees, subAssignDegrees, plusDegrees, minusDegrees, setDegrees, setHours, hrstoDeg,
      toDirection]
  · simp [negate, toDirection]
  · simp only [times, toDirection, ofDegrees_angle, mk_range]
    rw [mul_comm, ← zsmul_eq_mul, QuotientAddGroup.mk_zsmul]

/-!
## Comparisons and readouts
-/

theorem range_neg (deg : Rat) : range (-deg) = if range deg = -180 then -180 else -range deg := by
  have folded := range_spec deg
  have opposite : -deg ≡ -range deg [PMOD (360 : ℚ)] := AddCommGroup.neg_modEq_neg.mpr folded.2.symm
  split_ifs with edge
  · rw [edge, neg_neg] at opposite
    exact eq_of_modEq (range_spec _).1 ⟨le_refl _, by norm_num⟩
      (((range_spec _).2.trans opposite).trans ⟨-1, by norm_num⟩)
  · have inside : InRange (-range deg) :=
      ⟨by linarith [folded.1.2], by linarith [lt_of_le_of_ne folded.1.1 (Ne.symm edge)]⟩
    exact eq_of_modEq (range_spec _).1 inside ((range_spec _).2.trans opposite)

theorem difference_swap (this a : Angle) :
    a.difference this = if this.difference a = -180 then -180 else -this.difference a := by
  rw [difference, difference, ← range_neg, neg_sub]

/-- The comparisons go the short way round and are each other's converse, but for
opposite angles, where each is less than the other and neither is greater. -/
theorem lt_both_ways_iff_opposite (this a : Angle) :
    (this.lt a = true ∧ a.lt this = true ↔ this.difference a = -180) ∧
    (this.difference a = -180 → this.gt a = false ∧ a.gt this = false) ∧
    (this.difference a ≠ -180 → a.gt this = this.lt a ∧ a.lt this = this.gt a) := by
  have swap := difference_swap this a
  by_cases edge : this.difference a = -180
  · rw [if_pos edge] at swap
    simp only [lt, gt, swap, edge]
    norm_num
  · rw [if_neg edge] at swap
    simp only [lt, gt, swap, edge]
    simpa using fun below : this.difference a < 0 => below.le

@[simp] theorem mk_turn : ((360 : ℚ) : Direction) = 0 :=
  (QuotientAddGroup.eq_zero_iff _).mpr (AddSubgroup.mem_zmultiples _)

/-- In exact arithmetic, the readouts lie in the documented ranges and stand for the
angle's direction: `Degrees360` in `[0, 360)`, `Hours` in `[0, 24)`, `HoursHa` in `[-12, 12)`. -/
theorem readouts_in_documented_ranges (this : Angle) :
    (0 ≤ this.degrees360 ∧ this.degrees360 < 360 ∧ ((this.degrees360 : ℚ) : Direction) = this.toDirection) ∧
    (0 ≤ this.hours ∧ this.hours < 24 ∧ ((this.hours * 15 : ℚ) : Direction) = this.toDirection) ∧
    (-12 ≤ this.hoursHa ∧ this.hoursHa < 12 ∧ this.hoursHa * 15 = this.degrees) := by
  obtain ⟨lower, upper⟩ := this.inRange
  refine ⟨?_, ?_, ⟨by unfold hoursHa; linarith only [lower], by unfold hoursHa; linarith only [upper],
    div_mul_cancel₀ _ (by norm_num)⟩⟩
  · unfold degrees360
    split_ifs with nonneg
    · exact ⟨nonneg, by linarith only [upper], rfl⟩
    · refine ⟨by linarith only [lower], by linarith only [nonneg], ?_⟩
      rw [QuotientAddGroup.mk_add, mk_turn, zero_add]; rfl
  · unfold hours
    split_ifs with negative
    · refine ⟨by linarith only [lower], by linarith only [negative], ?_⟩
      rw [show (24 + this.angle / 15) * 15 = 360 + this.angle by ring, QuotientAddGroup.mk_add, mk_turn, zero_add]
      rfl
    · exact ⟨not_lt.mp negative, by linarith only [upper], by rw [div_mul_cancel₀ _ (by norm_num)]; rfl⟩

end Angle

end Indi
