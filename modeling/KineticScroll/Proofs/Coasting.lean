import KineticScroll.Proofs.Rounding
import Mathlib.Analysis.SpecialFunctions.Log.Basic
import Mathlib.Analysis.Complex.ExponentialBounds

/-!
# Coasting in rounded numbers

A position moves by a velocity that a friction keeps shrinking, and both are rounded
in every step.  Unrounded, the position and the way that is still left add up to the
same all along.  Rounded, the sum may grow, but by no more than a share of the part of
its speed that the motion loses in the step; so the logarithm of the speed pays for
all rounding together.
-/

namespace KineticScroll

namespace Coasting

open Rounding

variable {friction bound position velocity start speed slowest : ℚ}

/-- The part of its speed that the motion loses in a step, rounding included. -/
def loss (friction : ℚ) : ℚ :=
  1 - friction * (1 + 1 / 2 ^ 24)

/-- The position, the way left, and what the speed left may pay for rounding. -/
noncomputable def potential (friction bound position velocity : ℚ) : ℝ :=
  position + velocity / loss friction +
    bound / 2 ^ 24 / loss friction * Real.log velocity

theorem nearest_mul_le (large : 2 ^ (-126 : ℤ) ≤ velocity * friction) :
    nearest (velocity * friction) ≤ velocity * (1 - loss friction) := by
  have positive : (0 : ℚ) < 2 ^ (-126 : ℤ) := by norm_num
  have near := abs_sub_nearest_le_of_le large (abs_of_pos (positive.trans_le large)).le
  have same : velocity * (1 - loss friction) =
      velocity * friction + velocity * friction / 2 ^ 24 := by
    rw [loss]
    ring
  linarith [(abs_le.mp near).1]

/-- The logarithm falls by the share that is lost at least. -/
theorem log_le_sub_loss {before after : ℝ} (goes : 0 < after) (moving : 0 < before)
    (slower : after ≤ before * (1 - loss friction)) :
    Real.log after ≤ Real.log before - loss friction := by
  have ratio := Real.log_le_sub_one_of_pos (div_pos goes moving)
  rw [Real.log_div goes.ne' moving.ne'] at ratio
  have share : after / before ≤ 1 - loss friction := by
    rw [div_le_iff₀ moving]
    linarith
  linarith

/-- A step does not increase the potential. -/
theorem potential_step (lossy : 0 < loss friction) (moving : 0 < velocity)
    (large : 2 ^ (-126 : ℤ) ≤ velocity * friction) (wide : 2 ^ (-126 : ℤ) ≤ bound)
    (within : |position + velocity| ≤ bound) :
    potential friction bound (nearest (position + velocity)) (nearest (velocity * friction)) ≤
      potential friction bound position velocity := by
  have slower := nearest_mul_le large
  have moved := (abs_le.mp (abs_sub_nearest_le_of_le wide within)).1
  have least : Representable (2 ^ (-126 : ℤ)) :=
    ⟨1, -126, by norm_num, by norm_num, by rw [Int.cast_one, one_mul]⟩
  have goes : 0 < nearest (velocity * friction) :=
    (by norm_num : (0 : ℚ) < 2 ^ (-126 : ℤ)).trans_le (le_nearest least large)
  generalize nearest (velocity * friction) = velocity' at slower goes ⊢
  generalize nearest (position + velocity) = position' at moved ⊢
  have lossy' : (0 : ℝ) < loss friction := by exact_mod_cast lossy
  have moving' : (0 : ℝ) < velocity := by exact_mod_cast moving
  have goes' : (0 : ℝ) < velocity' := by exact_mod_cast goes
  have slower' : (velocity' : ℝ) ≤ velocity * (1 - loss friction) := by exact_mod_cast slower
  have moved' : (position' : ℝ) ≤ position + velocity + bound / 2 ^ 24 := by
    have moved : position' ≤ position + velocity + bound / 2 ^ 24 := by linarith
    exact_mod_cast moved
  have wide' : (0 : ℝ) ≤ bound / 2 ^ 24 := by
    have wide : (0 : ℚ) ≤ bound / 2 ^ 24 := by
      have positive : (0 : ℚ) < 2 ^ (-126 : ℤ) := by norm_num
      exact div_nonneg (positive.le.trans wide) (by norm_num)
    exact_mod_cast wide
  have falls := log_le_sub_loss goes' moving' slower'
  have way : (velocity' : ℝ) / loss friction ≤ velocity / loss friction - velocity := by
    rw [div_le_iff₀ lossy', sub_mul, div_mul_cancel₀ _ lossy'.ne']
    linarith
  have paid : (bound : ℝ) / 2 ^ 24 / loss friction * Real.log velocity' ≤
      bound / 2 ^ 24 / loss friction * Real.log velocity - bound / 2 ^ 24 := by
    have share := mul_le_mul_of_nonneg_left falls (div_nonneg wide' lossy'.le)
    rw [mul_sub, div_mul_cancel₀ _ lossy'.ne'] at share
    exact share
  rw [potential, potential]
  linarith

/-- The logarithm bounds how often the speed was halved. -/
theorem log_le_add_halvings (goes : 0 < velocity) (begun : 0 < speed) {count : ℕ}
    (slowed : speed ≤ velocity * 2 ^ count) :
    Real.log speed ≤ Real.log velocity + count * (7 / 10) := by
  have goes' : (0 : ℝ) < velocity := by exact_mod_cast goes
  have begun' : (0 : ℝ) < speed := by exact_mod_cast begun
  have slowed' : (speed : ℝ) ≤ velocity * 2 ^ count := by exact_mod_cast slowed
  have logs := Real.log_le_log begun' slowed'
  rw [Real.log_mul goes'.ne' (by positivity), Real.log_pow] at logs
  have two := mul_le_mul_of_nonneg_left (by linarith [Real.log_two_lt_d9] :
    Real.log 2 ≤ 7 / 10) (Nat.cast_nonneg' (α := ℝ) count)
  linarith

/-- How far a motion comes that is not slow yet, as long as the potential has not increased. -/
theorem reached (lossy : 0 < loss friction) (kept : loss friction ≤ 1) (small : 0 < slowest)
    (moving : slowest ≤ velocity) (begun : 0 < speed) (wide : 0 ≤ bound) {count : ℕ}
    (slowed : speed ≤ slowest * 2 ^ count)
    (descended : potential friction bound position velocity ≤
      potential friction bound start speed) :
    position + velocity ≤
      start + (speed - (1 - loss friction) * slowest + bound / 2 ^ 24 * (count * (7 / 10))) /
        loss friction := by
  have lossy' : (0 : ℝ) < loss friction := by exact_mod_cast lossy
  have share : (0 : ℝ) ≤ bound / 2 ^ 24 / loss friction := by
    have share : 0 ≤ bound / 2 ^ 24 / loss friction :=
      div_nonneg (div_nonneg wide (by norm_num)) lossy.le
    exact_mod_cast share
  have halvings := log_le_add_halvings (small.trans_le moving) begun
    (slowed.trans (mul_le_mul_of_nonneg_right moving (by positivity)))
  have paid := mul_le_mul_of_nonneg_left halvings share
  rw [potential, potential] at descended
  have come : (position : ℝ) + velocity ≤
      start + (speed - (1 - loss friction) * velocity + bound / 2 ^ 24 * (count * (7 / 10))) /
        loss friction := by
    have parts : (start : ℝ) +
        (speed - (1 - loss friction) * velocity + bound / 2 ^ 24 * (count * (7 / 10))) /
          loss friction =
        start + speed / loss friction - velocity / loss friction + velocity +
          bound / 2 ^ 24 / loss friction * (count * (7 / 10)) := by
      field_simp
      ring
    rw [parts]
    linarith
  have come : position + velocity ≤
      start + (speed - (1 - loss friction) * velocity + bound / 2 ^ 24 * (count * (7 / 10))) /
        loss friction := by
    rw [← Rat.cast_le (K := ℝ)]
    push_cast
    exact come
  refine come.trans (add_le_add_right (div_le_div_of_nonneg_right ?_ lossy.le) start)
  have least := mul_le_mul_of_nonneg_left moving (sub_nonneg.mpr kept)
  linarith

/-! ## The announced rest -/

/-- The sum of all steps but the first, as it is computed. -/
def rest (friction start speed : ℚ) : ℚ :=
  nearest (start + nearest (nearest (speed * friction) / (1 - friction)))

section Rest

variable {reach : ℚ} (half : 1 / 2 ≤ friction) (most : friction ≤ 9999 / 10000)

include most in
theorem loss_pos : 0 < loss friction := by
  rw [loss]
  linarith

include half in
theorem loss_le_one : loss friction ≤ 1 := by
  rw [loss]
  linarith

include half most

/-- The computed sum is not much less than the exact one. -/
theorem le_way (begun : 1 / 100 ≤ speed) :
    speed * friction - 2 * speed / 2 ^ 24 ≤
      (1 - friction) * nearest (nearest (speed * friction) / (1 - friction)) := by
  have lossy : 0 < 1 - friction := by linarith
  have product : speed * (1 / 2) ≤ speed * friction :=
    mul_le_mul_of_nonneg_left half (by linarith)
  have product' : speed * friction ≤ speed :=
    mul_le_of_le_one_right (by linarith) (by linarith)
  have first : |speed * friction - nearest (speed * friction)| ≤ speed * friction / 2 ^ 24 :=
    abs_sub_nearest_le_of_le (two_pow_le_of_thousandth_le (by linarith))
      (abs_of_nonneg (by linarith)).le
  have first := (abs_le.mp first).2
  generalize nearest (speed * friction) = slowed at first ⊢
  have large : 1 / 1000 ≤ slowed / (1 - friction) := by
    rw [le_div_iff₀ lossy]
    linarith
  have second : |slowed / (1 - friction) - nearest (slowed / (1 - friction))| ≤
      slowed / (1 - friction) / 2 ^ 24 :=
    abs_sub_nearest_le_of_le (two_pow_le_of_thousandth_le large) (abs_of_nonneg (by linarith)).le
  have second := (abs_le.mp second).2
  generalize nearest (slowed / (1 - friction)) = way at second ⊢
  have scaled := mul_le_mul_of_nonneg_left second lossy.le
  have exact : (1 - friction) * (slowed / (1 - friction)) = slowed := by
    field_simp
  have exact' : (1 - friction) * (slowed / (1 - friction) / 2 ^ 24) = slowed / 2 ^ 24 := by
    rw [← mul_div_assoc, exact]
  rw [mul_sub, exact, exact'] at scaled
  linarith

theorem le_rest_sub_start (begun : 1 / 100 ≤ speed) (least : 0 ≤ reach) (near : reach ≤ 2 ^ 22)
    (from_near : |start| ≤ reach) (to_near : |rest friction start speed| ≤ reach + 1) :
    speed * friction - (2 * speed + 3 * (reach + 2)) / 2 ^ 24 ≤
      loss friction * (rest friction start speed - start) := by
  have long := le_way half most begun
  rw [rest] at to_near ⊢
  generalize nearest (nearest (speed * friction) / (1 - friction)) = way at to_near long ⊢
  have within : |start + way| ≤ reach + 2 := by
    by_contra beyond
    rw [not_le] at beyond
    have off : |start + way - nearest (start + way)| ≤ |start + way| / 2 ^ 24 :=
      abs_sub_nearest_le_of_le (two_pow_le_of_thousandth_le (by linarith)) le_rfl
    have back := abs_sub_abs_le_abs_sub (start + way) (nearest (start + way))
    linarith
  have off : |start + way - nearest (start + way)| ≤ (reach + 2) / 2 ^ 24 :=
    abs_sub_nearest_le_of_le (two_pow_le_of_thousandth_le (by linarith)) within
  have off := (abs_le.mp off).2
  have lossy := loss_pos most
  have most_loss := loss_le_one half
  have far : way ≤ 2 * (reach + 2) := by
    linarith [(abs_le.mp within).2, (abs_le.mp from_near).1]
  generalize nearest (start + way) = stop at off ⊢
  have scaled : loss friction * (way - (reach + 2) / 2 ^ 24) ≤ loss friction * (stop - start) :=
    mul_le_mul_of_nonneg_left (by linarith) lossy.le
  refine le_trans ?_ scaled
  have share : loss friction * ((reach + 2) / 2 ^ 24) ≤ (reach + 2) / 2 ^ 24 :=
    mul_le_of_le_one_left (div_nonneg (by linarith) (by norm_num)) most_loss
  have product : speed * (1 / 2) ≤ speed * friction :=
    mul_le_mul_of_nonneg_left half (by linarith)
  have some : 0 ≤ way := by
    rw [← mul_nonneg_iff_of_pos_left (by linarith : 0 < 1 - friction)]
    linarith
  have extra : friction * way ≤ way := mul_le_of_le_one_left some (by linarith)
  have parts : loss friction * way = (1 - friction) * way - friction * way / 2 ^ 24 := by
    rw [loss]
    ring
  rw [mul_sub, parts]
  linarith

end Rest

/-! ## A throw -/

/-- The least speed that is not rest. -/
def slow : ℚ :=
  5368709 / 2 ^ 28

/-- What a flight starts with, positions and speeds counted in its direction. -/
structure Throw where
  friction : ℚ
  start : ℚ
  speed : ℚ
  reach : ℚ
  half : 1 / 2 ≤ friction
  most : friction ≤ 9999 / 10000
  begun : slow ≤ speed
  fast : speed ≤ 2 ^ 22
  exact : Representable start
  from_near : |start| ≤ reach
  near : reach ≤ 2 ^ 22

namespace Throw

variable (throw : Throw)

/-- A bound for the sums of the positions looked at and the speeds. -/
def room : ℚ :=
  throw.reach + 1 + throw.speed

def rest : ℚ :=
  Coasting.rest throw.friction throw.start throw.speed

def RestsNear : Prop :=
  |throw.rest| ≤ throw.reach + 1

/-- What is left of the way when the motion is slow makes up for the first step, which the
announced rest leaves out, and for the rounding. -/
def IsGentle : Prop :=
  (1 - throw.friction) * throw.speed + (throw.reach + 160) / 2 ^ 20 ≤ throw.friction * slow

/-- The first step, and an allowance for the rounding. -/
def overrun : ℚ :=
  throw.speed + (throw.reach + throw.speed + 2) / (2 ^ 19 * (1 - throw.friction))

/-- On its way, not slow yet. -/
structure Underway (position velocity : ℚ) : Prop where
  exact : Representable position
  exact_velocity : Representable velocity
  ahead : throw.start ≤ position
  moving : slow ≤ velocity
  slower : velocity ≤ throw.speed
  descended : position ≤ throw.reach + 1 →
    potential throw.friction throw.room position velocity ≤
      potential throw.friction throw.room throw.start throw.speed

end Throw

variable {throw : Throw}

theorem slow_pos : 0 < slow := by
  norm_num [slow]

theorem hundredth_le_slow : 1 / 100 ≤ slow := by
  norm_num [slow]

theorem Throw.speed_nonneg (throw : Throw) : 0 ≤ throw.speed :=
  slow_pos.le.trans throw.begun

theorem Throw.lossy (throw : Throw) : 0 < 1 - throw.friction := by
  linarith [throw.most]

theorem Throw.slowed_nonneg (throw : Throw) (moving : 0 ≤ velocity) :
    0 ≤ velocity * throw.friction :=
  mul_nonneg moving (by linarith [throw.half])

theorem Throw.slowed_le (throw : Throw) (moving : 0 ≤ velocity) :
    velocity * throw.friction ≤ velocity :=
  mul_le_of_le_one_right moving (by linarith [throw.most])

theorem Throw.reach_nonneg (throw : Throw) : 0 ≤ throw.reach :=
  (abs_nonneg _).trans throw.from_near

theorem Throw.room_ge (throw : Throw) : 1 ≤ throw.room := by
  have some := throw.reach_nonneg
  have moving := throw.speed_nonneg
  rw [room]
  linarith

theorem Throw.allowance_le (throw : Throw) : throw.speed * (1 - throw.friction) +
    30 * (throw.reach + throw.speed + 2) / 2 ^ 24 ≤ loss throw.friction * throw.overrun := by
  have most := throw.most
  have lossy := throw.lossy
  have begun := throw.speed_nonneg
  have some : 0 ≤ throw.reach + throw.speed + 2 := by linarith [throw.reach_nonneg]
  have size_ge : throw.speed ≤ throw.reach + throw.speed + 2 := by linarith [throw.reach_nonneg]
  rw [overrun]
  generalize throw.reach + throw.speed + 2 = size at some size_ge ⊢
  have exact : (1 - throw.friction) * (size / (2 ^ 19 * (1 - throw.friction))) = size / 2 ^ 19 := by
    field_simp
  have bounded : size / (2 ^ 19 * (1 - throw.friction)) ≤ size / 2 ^ 19 * 10000 := by
    rw [div_le_iff₀ (by linarith)]
    have share : size * 1 ≤ size * (10000 * (1 - throw.friction)) :=
      mul_le_mul_of_nonneg_left (by linarith) some
    linarith
  have nonneg : 0 ≤ size / (2 ^ 19 * (1 - throw.friction)) :=
    div_nonneg some (by linarith)
  generalize size / (2 ^ 19 * (1 - throw.friction)) = extra at exact bounded nonneg ⊢
  have first : throw.friction * throw.speed ≤ throw.speed :=
    mul_le_of_le_one_left begun (by linarith)
  have second : throw.friction * extra ≤ extra :=
    mul_le_of_le_one_left nonneg (by linarith)
  have parts : loss throw.friction * (throw.speed + extra) =
      throw.speed * (1 - throw.friction) + (1 - throw.friction) * extra -
        (throw.friction * throw.speed + throw.friction * extra) / 2 ^ 24 := by
    rw [loss]
    ring
  rw [parts, exact]
  linarith

theorem Throw.start_le_rest (throw : Throw) : throw.start ≤ throw.rest := by
  have way : 0 ≤ nearest (nearest (throw.speed * throw.friction) / (1 - throw.friction)) :=
    le_nearest representable_zero (div_nonneg
      (le_nearest representable_zero (throw.slowed_nonneg throw.speed_nonneg)) throw.lossy.le)
  exact le_nearest throw.exact (by linarith)

/-- What the announcement is short of the exact sum, rounding included. -/
theorem Throw.le_rest_sub_start (throw : Throw) (near : throw.RestsNear) :
    throw.speed * throw.friction - (2 * throw.speed + 3 * (throw.reach + 2)) / 2 ^ 24 ≤
      loss throw.friction * (throw.rest - throw.start) :=
  Coasting.le_rest_sub_start throw.half throw.most (hundredth_le_slow.trans throw.begun)
    throw.reach_nonneg throw.near throw.from_near near

theorem Throw.overrun_nonneg (throw : Throw) : 0 ≤ throw.overrun := by
  have begun := throw.speed_nonneg
  have lossy := throw.lossy
  have some := throw.reach_nonneg
  exact add_nonneg begun (div_nonneg (by linarith) (by linarith))

theorem Throw.underway (throw : Throw) (exact : Representable throw.speed) :
    throw.Underway throw.start throw.speed :=
  ⟨throw.exact, exact, le_rfl, throw.begun, le_rfl, fun _ => le_rfl⟩

namespace Throw.Underway

variable {position velocity : ℚ} (under : throw.Underway position velocity)

include under

theorem velocity_nonneg : 0 ≤ velocity :=
  slow_pos.le.trans under.moving

/-- The next position is not behind. -/
theorem le_next : position ≤ nearest (position + velocity) :=
  le_nearest under.exact (by linarith [under.velocity_nonneg])

theorem slowing : nearest (velocity * throw.friction) ≤ velocity :=
  nearest_le under.exact_velocity (throw.slowed_le under.velocity_nonneg)

theorem within (near : position ≤ throw.reach + 1) : |position + velocity| ≤ throw.room := by
  have moving := under.velocity_nonneg
  have some := throw.reach_nonneg
  rw [abs_le, room]
  constructor
  · linarith [under.ahead, (abs_le.mp throw.from_near).1, under.slower]
  · linarith [under.slower]

theorem step (moving : slow ≤ nearest (velocity * throw.friction)) :
    throw.Underway (nearest (position + velocity)) (nearest (velocity * throw.friction)) := by
  refine ⟨representable_nearest _, representable_nearest _, under.ahead.trans under.le_next, moving,
    under.slowing.trans under.slower, fun near => ?_⟩
  have before := under.le_next.trans near
  have some : 1 / 100 ≤ velocity := hundredth_le_slow.trans under.moving
  have product : velocity * (1 / 2) ≤ velocity * throw.friction :=
    mul_le_mul_of_nonneg_left throw.half (by linarith)
  refine (potential_step (loss_pos throw.most) (by linarith)
    (two_pow_le_of_thousandth_le (by linarith)) (two_pow_le_of_thousandth_le ?_)
    (under.within before)).trans (under.descended before)
  linarith [throw.room_ge]

/-- How long a way is enough for the steps so far and the next. -/
theorem le_of_enough (near : position ≤ throw.reach + 1) (count : ℕ)
    (slowed : throw.speed ≤ slow * 2 ^ count) {way : ℚ}
    (enough : throw.speed - (1 - loss throw.friction) * slow +
      throw.room / 2 ^ 24 * (count * (7 / 10)) ≤ loss throw.friction * way) :
    position + velocity ≤ throw.start + way := by
  have come := Coasting.reached (loss_pos throw.most) (loss_le_one throw.half) slow_pos
    under.moving (slow_pos.trans_le throw.begun) (by linarith [throw.room_ge]) slowed
    (under.descended near)
  rw [← div_le_iff₀' (loss_pos throw.most)] at enough
  exact come.trans (add_le_add_right enough _)

/-- A gentle throw does not pass the announced rest. -/
theorem next_le_rest (near : throw.RestsNear) (gentle : throw.IsGentle)
    (before : position ≤ throw.rest) : nearest (position + velocity) ≤ throw.rest := by
  have exact : Representable throw.rest := representable_nearest _
  refine nearest_le exact ?_
  have half := throw.half
  have most := throw.most
  have some := throw.reach_nonneg
  have begun := throw.speed_nonneg
  have announced := throw.le_rest_sub_start near
  have kept : throw.friction * slow ≤ (1 - loss throw.friction) * slow := by
    refine mul_le_mul_of_nonneg_right ?_ slow_pos.le
    rw [loss]
    linarith
  rw [IsGentle] at gentle
  have light : (1 - 9999 / 10000) * throw.speed ≤ (1 - throw.friction) * throw.speed :=
    mul_le_mul_of_nonneg_right (by linarith) (by linarith)
  have top : throw.friction * slow ≤ 1 * slow :=
    mul_le_mul_of_nonneg_right (by linarith) slow_pos.le
  have speed_le : throw.speed ≤ 200 := by
    rw [slow] at top gentle
    linarith
  have enough : throw.speed - (1 - loss throw.friction) * slow +
      throw.room / 2 ^ 24 * ((14 : ℕ) * (7 / 10)) ≤
      loss throw.friction * (throw.rest - throw.start) := by
    refine le_trans ?_ announced
    rw [room]
    push_cast
    linarith
  have come := under.le_of_enough (before.trans (abs_le.mp near).2) 14
    (speed_le.trans (by norm_num [slow])) enough
  linarith

/-- No throw passes it by much more than its first step. -/
theorem next_le_overrun (near : throw.RestsNear) (before : position ≤ throw.reach + 1) :
    nearest (position + velocity) ≤ throw.rest + throw.overrun := by
  have some := throw.reach_nonneg
  have begun := throw.speed_nonneg
  have announced := throw.le_rest_sub_start near
  have kept : 0 ≤ (1 - loss throw.friction) * slow :=
    mul_nonneg (sub_nonneg.mpr (loss_le_one throw.half)) slow_pos.le
  have off := abs_sub_nearest_le_of_le
    (two_pow_le_of_thousandth_le (by linarith [throw.room_ge])) (under.within before)
  have off := (abs_le.mp off).1
  have allowance := throw.allowance_le
  have enough : throw.speed - (1 - loss throw.friction) * slow +
      throw.room / 2 ^ 24 * ((28 : ℕ) * (7 / 10)) ≤
      loss throw.friction * (throw.rest - throw.start + throw.overrun - throw.room / 2 ^ 24) := by
    have off : loss throw.friction * (throw.room / 2 ^ 24) ≤ throw.room / 2 ^ 24 :=
      mul_le_of_le_one_left (by linarith [throw.room_ge]) (loss_le_one throw.half)
    rw [mul_sub, mul_add]
    rw [room] at off ⊢
    push_cast
    linarith
  have come := under.le_of_enough before 28 (throw.fast.trans (by norm_num [slow])) enough
  linarith

end Throw.Underway

/-- What holds of each position that the motion comes to. -/
structure Throw.Reached (throw : Throw) (position : ℚ) : Prop where
  ahead : throw.start ≤ position
  le_rest : throw.RestsNear → throw.IsGentle → position ≤ throw.rest
  le_overrun : throw.RestsNear → position ≤ throw.reach + 1 →
    position ≤ throw.rest + throw.overrun

theorem Throw.reached_start (throw : Throw) : throw.Reached throw.start :=
  ⟨le_rfl, fun _ _ => throw.start_le_rest,
    fun _ _ => throw.start_le_rest.trans (le_add_of_nonneg_right throw.overrun_nonneg)⟩

/-- The next step, or a part of it. -/
theorem Throw.Reached.next {position velocity later : ℚ} (reached : throw.Reached position)
    (under : throw.Underway position velocity) (onward : position ≤ later)
    (upTo : later ≤ nearest (position + velocity)) : throw.Reached later :=
  ⟨reached.ahead.trans onward,
    fun near gentle => upTo.trans (under.next_le_rest near gentle (reached.le_rest near gentle)),
    fun near before => upTo.trans (under.next_le_overrun near (onward.trans before))⟩

end Coasting

end KineticScroll
