import KineticScroll.Proofs.Arithmetic
import KineticScroll.Proofs.Coasting
import KineticScroll.Proofs.Undisturbed

/-!
# The announced rest

A fling announces where it will come to rest.  The sum that it announces begins with
the second step, for a flight moves before it slows down, while a flight stops short of
its exact sum, as soon as it is slow.  So a gentle fling ends before the announced rest,
and a hard one passes it, by little more than its first step.
-/

namespace KineticScroll

open Rounding Coasting
open Float.Model.UnpackedFloat (Sign)

namespace Flight

variable {flight : Flight} {friction : Single} {sign : Sign} {throw : Throw}
  {low high position : ℚ}

/-- What a step preserves as long as there is motion holds when the motion has ended. -/
theorem steps_of_step (Holds : Flight → Prop)
    (step : ∀ flight, Holds flight → flight.isAtRest = false → Holds (flight.step friction))
    (holds : Holds flight) (moving : flight.isAtRest = false) (count : Nat) :
    Holds (flight.steps friction count) := by
  induction count generalizing flight with
  | zero => exact holds
  | succ count ih =>
      rw [steps]
      have next := step flight holds moving
      cases rests : (flight.step friction).isAtRest with
      | true => exact next
      | false => exact ih next rests

/-- A flight in exact numbers: the walls it is between, and how far it has come. -/
structure Follows (sign : Sign) (throw : Throw) (low high : ℚ) (flight : Flight)
    (position : ℚ) : Prop where
  position_is : flight.position.value? = some (unit sign * position)
  lowest_is : flight.lowest.value? = some low
  highest_is : flight.highest.value? = some high
  above : low ≤ unit sign * position
  below : unit sign * position ≤ high
  reached : throw.Reached position
  moving : flight.isAtRest = false → ∃ velocity,
    flight.velocity.value? = some (unit sign * velocity) ∧ throw.Underway position velocity

theorem isAtRest_of_stopped (flight : Flight) (position : Single) :
    isAtRest { flight with position := position, velocity := 0 } = true := by
  change decide (Single.speed 0 < Decay.restSpeed) = true
  decide +kernel

theorem value?_restSpeed : Decay.restSpeed.value? = some slow := by
  decide +kernel

theorem slow_le_of_moving {single : Single} {velocity : ℚ}
    (is : single.value? = some (unit sign * velocity)) (nonneg : 0 ≤ velocity)
    (small : velocity < 2 ^ 128)
    (moving : decide (Single.speed single < Decay.restSpeed) = false) : slow ≤ velocity := by
  have size : |unit sign * velocity| = velocity := by
    rw [abs_unit_mul, abs_of_nonneg nonneg]
  have speed := Single.value?_speed is (by rw [size]; exact small)
  rw [size] at speed
  rw [decide_eq_false_iff_not, Single.lt_iff speed value?_restSpeed, not_lt] at moving
  exact moving

/-- The wall that a step runs into lies on its way. -/
theorem between_of_clamp {next : ℚ} (above : low ≤ unit sign * position)
    (below : unit sign * position ≤ high) (onward : position ≤ next) :
    position ≤ unit sign * max low (min (unit sign * next) high) ∧
      unit sign * max low (min (unit sign * next) high) ≤ next := by
  cases sign with
  | negative =>
      simp only [unit, neg_mul, one_mul] at above below ⊢
      have back : max low (min (-next) high) ≤ -position :=
        max_le above ((min_le_left _ _).trans (neg_le_neg onward))
      have forth : -next ≤ max low (min (-next) high) :=
        le_max_of_le_right (le_min le_rfl (by linarith))
      constructor <;> linarith
  | positive =>
      simp only [unit, one_mul] at above below ⊢
      exact ⟨le_max_of_le_right (le_min onward below),
        max_le (above.trans onward) (min_le_left _ _)⟩

theorem Follows.size (follows : Follows sign throw low high flight position)
    (near : |low| ≤ 2 ^ 40) (near' : |high| ≤ 2 ^ 40) : |position| ≤ 2 ^ 40 := by
  rw [← abs_unit_mul sign, abs_le]
  have above := follows.above
  have below := follows.below
  rw [abs_le] at near near'
  constructor <;> linarith

theorem value?_slowed {single : Single} {velocity : ℚ} (is : friction.value? = some throw.friction)
    (has : single.value? = some (unit sign * velocity)) (moving : 0 ≤ velocity)
    (fast : velocity ≤ 2 ^ 22) :
    (single * friction).value? = some (unit sign * nearest (velocity * throw.friction)) := by
  have product := throw.slowed_le moving
  have slowed := Single.value?_mul has is (by
    rw [mul_assoc, abs_unit_mul, abs_of_nonneg (throw.slowed_nonneg moving)]
    linarith)
  rw [mul_assoc, nearest_unit_mul] at slowed
  exact slowed

theorem Follows.moved (near : |low| ≤ 2 ^ 40) (near' : |high| ≤ 2 ^ 40)
    (follows : Follows sign throw low high flight position) {velocity : ℚ}
    (has : flight.velocity.value? = some (unit sign * velocity))
    (under : throw.Underway position velocity) :
    (flight.position + flight.velocity).value? =
      some (unit sign * nearest (position + velocity)) := by
  have size := abs_le.mp (follows.size near near')
  have moving := under.velocity_nonneg
  have fast := under.slower.trans throw.fast
  have sum := Single.value?_add follows.position_is has (by
    rw [← mul_add, abs_unit_mul, abs_le]
    constructor <;> linarith)
  rw [← mul_add, nearest_unit_mul] at sum
  exact sum

/-- A wall stops the flight on its way. -/
theorem Follows.stop (follows : Follows sign throw low high flight position) {velocity : ℚ}
    {moved : Single} (is : moved.value? = some (unit sign * nearest (position + velocity)))
    (under : throw.Underway position velocity) :
    ∃ next, Follows sign throw low high
      { flight with position := Single.clamp moved flight.lowest flight.highest, velocity := 0 }
      next := by
  have ordered := follows.above.trans follows.below
  have clamped := Single.value?_clamp is follows.lowest_is follows.highest_is ordered
  obtain ⟨behind, ahead⟩ := between_of_clamp follows.above follows.below under.le_next
  refine ⟨unit sign * max low (min (unit sign * nearest (position + velocity)) high),
    ?_, follows.lowest_is, follows.highest_is, ?_, ?_,
    follows.reached.next under behind ahead, ?_⟩
  · rw [unit_mul_unit_mul]
    exact clamped
  · rw [unit_mul_unit_mul]
    exact le_max_left _ _
  · rw [unit_mul_unit_mul]
    exact max_le ordered (min_le_right _ _)
  · intro moves
    rw [isAtRest_of_stopped] at moves
    cases moves

/-- Between the walls the flight slows down. -/
theorem Follows.fly (follows : Follows sign throw low high flight position) {velocity : ℚ}
    {moved slowed : Single} (is : moved.value? = some (unit sign * nearest (position + velocity)))
    (has : slowed.value? = some (unit sign * nearest (velocity * throw.friction)))
    (under : throw.Underway position velocity)
    (above : low ≤ unit sign * nearest (position + velocity))
    (below : unit sign * nearest (position + velocity) ≤ high) :
    Follows sign throw low high { flight with position := moved, velocity := slowed }
      (nearest (position + velocity)) := by
  refine ⟨is, follows.lowest_is, follows.highest_is, above, below,
    follows.reached.next under under.le_next le_rfl, fun moves => ?_⟩
  have small := under.slowing.trans (under.slower.trans throw.fast)
  have nonneg := le_nearest representable_zero (throw.slowed_nonneg under.velocity_nonneg)
  have still : slow ≤ nearest (velocity * throw.friction) :=
    slow_le_of_moving has nonneg (small.trans_lt (by norm_num)) moves
  exact ⟨nearest (velocity * throw.friction), has, under.step still⟩

theorem Follows.step (is : friction.value? = some throw.friction)
    (near : |low| ≤ 2 ^ 40) (near' : |high| ≤ 2 ^ 40)
    (follows : Follows sign throw low high flight position) (moving : flight.isAtRest = false) :
    ∃ next, Follows sign throw low high (flight.step friction) next := by
  obtain ⟨velocity, has, under⟩ := follows.moving moving
  have moved := follows.moved near near' has under
  by_cases past : flight.highest < flight.position + flight.velocity ∨
      flight.position + flight.velocity < flight.lowest
  · have stopped : flight.step friction = _ := if_pos past
    rw [stopped]
    exact follows.stop moved under
  · have free : flight.step friction = _ := if_neg past
    rw [Single.lt_iff follows.highest_is moved, Single.lt_iff moved follows.lowest_is,
      not_or, not_lt, not_lt] at past
    have slowed := value?_slowed is has under.velocity_nonneg (under.slower.trans throw.fast)
    rw [free]
    exact ⟨_, follows.fly moved slowed under past.2 past.1⟩

theorem Follows.steps (is : friction.value? = some throw.friction)
    (near : |low| ≤ 2 ^ 40) (near' : |high| ≤ 2 ^ 40)
    (follows : Follows sign throw low high flight position) (moving : flight.isAtRest = false)
    (count : Nat) :
    ∃ next, Follows sign throw low high (flight.steps friction count) next := by
  apply steps_of_step fun flight =>
    ∃ position, Follows sign throw low high flight position
  · rintro flight ⟨position, follows⟩ moving
    exact follows.step is near near' moving
  · exact ⟨position, follows⟩
  · exact moving

end Flight

namespace Decay

variable {decay : Decay} {launch : Launch} {sign : Sign} {throw : Throw} {low high : ℚ}
  {bounds : Span}

/-! ## On its way -/

/-- A fling that has not left its bounds: it has come to a place on its way, and stands there or
flies on. -/
structure OnItsWay (sign : Sign) (throw : Throw) (low high : ℚ) (bounds : Span)
    (decay : Decay) : Prop where
  friction_is : decay.friction.value? = some throw.friction
  place : ∃ (single : Single) (position : ℚ), decay.position = Single.round single ∧
    single.value? = some (unit sign * position) ∧ |position| ≤ 2 ^ 40 ∧ throw.Reached position
  motion : decay.motion = .still ∨ ∃ flight, decay.motion = .flight flight ∧
    flight.bounds = bounds ∧ flight.isAtRest = false ∧
    ∃ position, flight.Follows sign throw low high position

theorem settle_of_inside (decay : Decay) (above : bounds.lowest ≤ decay.position)
    (below : decay.position ≤ bounds.highest) (now : Millis) :
    decay.settle bounds now = { decay with destination := decay.position, motion := .still } := by
  rw [settle, Span.clamp_eq_self above below, if_pos rfl]

theorem OnItsWay.advance (near : |low| ≤ 2 ^ 40) (near' : |high| ≤ 2 ^ 40)
    (going : OnItsWay sign throw low high bounds decay) (now : Millis)
    (above : bounds.lowest ≤ (decay.advance now).2.position)
    (below : (decay.advance now).2.position ≤ bounds.highest) :
    OnItsWay sign throw low high bounds (decay.advance now).2 := by
  rcases going.motion with still | ⟨flight, flies, within, moving, position, follows⟩
  · rw [advance_of_isIdle ((isIdle_iff decay).mpr still)]
    exact going
  · have same := Flight.advance_bounds decay.friction flight now
    rw [within] at same
    obtain ⟨next, onward⟩ := follows.steps going.friction_is near near' moving
      (Millis.elapsed flight.lastTime now).toNat
    have onward : (flight.advance decay.friction now).Follows sign throw low high next :=
      ⟨onward.position_is, onward.lowest_is, onward.highest_is, onward.above, onward.below,
        onward.reached, onward.moving⟩
    have size := onward.size near near'
    rw [advance_of_flight flies] at above below ⊢
    cases rests : (flight.advance decay.friction now).isAtRest with
    | true =>
        rw [flown_of_rest rests, same] at above below ⊢
        rw [settle_position] at above below
        rw [settle_of_inside _ above below]
        exact ⟨going.friction_is, ⟨_, next, rfl, onward.position_is, size, onward.reached⟩,
          .inl rfl⟩
    | false =>
        rw [flown_of_moving rests]
        exact ⟨going.friction_is, ⟨_, next, rfl, onward.position_is, size, onward.reached⟩,
          .inr ⟨_, rfl, same, rests, next, onward⟩⟩

/-- The motion reaches neither bound in any frame. -/
def MovesFreely (decay : Decay) (launch : Launch) (times : List Millis) : Prop :=
  ∀ before, before <+: times → launch.lowest < (decay.advanceAll before).position ∧
    (decay.advanceAll before).position < launch.highest

instance (decay : Decay) (launch : Launch) (times : List Millis) :
    Decidable (MovesFreely decay launch times) :=
  decidable_of_iff (∀ before ∈ times.inits, launch.lowest < (decay.advanceAll before).position ∧
    (decay.advanceAll before).position < launch.highest)
    (forall_congr' fun before => by rw [List.mem_inits])

theorem OnItsWay.advanceAll (near : |low| ≤ 2 ^ 40) (near' : |high| ≤ 2 ^ 40)
    (same : bounds.lowest = launch.lowest) (same' : bounds.highest = launch.highest)
    (going : OnItsWay sign throw low high bounds decay) {times : List Millis}
    (free : MovesFreely decay launch times) :
    OnItsWay sign throw low high bounds (decay.advanceAll times) := by
  induction times generalizing decay with
  | nil => exact going
  | cons now later ih =>
      obtain ⟨above, below⟩ := free [now] (List.prefix_cons_inj now |>.mpr (List.nil_prefix))
      apply ih
      · apply going.advance near near' now
        · rw [same]
          exact Int32.le_of_lt above
        · rw [same']
          exact Int32.le_of_lt below
      · intro before earlier
        exact free (now :: before) (List.prefix_cons_inj now |>.mpr earlier)

/-! ## From launch to announcement -/

/-- The speed of a launch in pixels per millisecond, as it is computed. -/
def launchSpeed (launch : Launch) : ℚ :=
  |(Single.ofPx launch.velocity / 1000).toRat|

theorem value?_thousand : (1000 : Single).value? = some 1000 := by
  decide +kernel

theorem value?_mostFriction : (0.9999 : Single).value? = some (8387769 / 8388608) := by
  decide +kernel

theorem exists_velocity (launch : Launch) :
    ∃ velocity : ℚ, (Single.ofPx launch.velocity / 1000).value? = some velocity ∧
      |velocity| = launchSpeed launch ∧ |velocity| ≤ 2 ^ 22 := by
  have size : |nearest launch.velocity.toInt / 1000| ≤ 2 ^ 22 := by
    rw [abs_div, div_le_iff₀ (by norm_num)]
    exact (Single.abs_nearest_px_le launch.velocity).trans (by norm_num)
  have is := Single.value?_div (Single.value?_ofPx launch.velocity) value?_thousand (by norm_num)
    (size.trans (by norm_num))
  refine ⟨_, is, ?_, abs_nearest_le (representable_two_pow 22) size⟩
  rw [launchSpeed, Single.toRat_eq is]

theorem exists_sign (number : ℚ) : ∃ sign, number = unit sign * |number| := by
  rcases le_or_gt 0 number with positive | negative
  · refine ⟨.positive, ?_⟩
    rw [abs_of_nonneg positive, unit, one_mul]
  · refine ⟨.negative, ?_⟩
    rw [abs_of_neg negative, unit]
    ring

theorem value?_restingPoint {px : Px} {velocity : Single}
    (friction_is : decay.friction.value? = some throw.friction)
    (start_is : (Single.ofPx px).value? = some (unit sign * throw.start))
    (velocity_is : velocity.value? = some (unit sign * throw.speed)) :
    (decay.restingPoint px velocity).value? = some (unit sign * throw.rest) ∧
      |throw.rest| ≤ 2 ^ 40 := by
  have half := throw.half
  have most := throw.most
  have lossy := throw.lossy
  have slowed := Flight.value?_slowed friction_is velocity_is throw.speed_nonneg throw.fast
  have lack := Single.value?_sub Single.value?_one friction_is (by
    rw [abs_le]
    constructor <;> linarith)
  rw [nearest_of_representable
    ((Single.representable friction_is).one_sub half (by linarith))] at lack
  have small : |nearest (throw.speed * throw.friction)| ≤ 2 ^ 22 := by
    apply abs_nearest_le (representable_two_pow 22)
    rw [abs_of_nonneg (throw.slowed_nonneg throw.speed_nonneg)]
    exact (throw.slowed_le throw.speed_nonneg).trans throw.fast
  have far : |nearest (throw.speed * throw.friction) / (1 - throw.friction)| ≤ 2 ^ 36 := by
    rw [abs_div, abs_of_pos lossy, div_le_iff₀ lossy]
    linarith
  have way := Single.value?_div slowed lack lossy.ne' (by
    rw [mul_div_assoc, abs_unit_mul]
    exact far.trans (by norm_num))
  rw [mul_div_assoc, nearest_unit_mul] at way
  have far := abs_nearest_le (representable_two_pow 36) far
  have near := throw.from_near.trans throw.near
  have sum : |throw.start + nearest (nearest (throw.speed * throw.friction) /
      (1 - throw.friction))| ≤ 2 ^ 40 :=
    (abs_add_le _ _).trans (by linarith)
  have stop := Single.value?_add start_is way (by
    rw [← mul_add, abs_unit_mul]
    exact sum.trans (by norm_num))
  rw [← mul_add, nearest_unit_mul] at stop
  exact ⟨stop, abs_nearest_le (representable_two_pow 40) sum⟩

/-- The throw that a launch stands for, if it is not at rest at once. -/
theorem exists_throw (half : 0.5 ≤ decay.friction) (most : decay.friction ≤ 0.9999)
    (moving : ¬Single.speed (Single.ofPx launch.velocity / 1000) < restSpeed) {reach : ℚ}
    (near : reach ≤ 2 ^ 22) (from_near : |(launch.startY.toInt : ℚ)| ≤ reach) :
    ∃ (sign : Sign) (throw : Throw), decay.friction.value? = some throw.friction ∧
      (launch.startY.toInt : ℚ) = unit sign * throw.start ∧
      (Single.ofPx launch.velocity / 1000).value? = some (unit sign * throw.speed) ∧
      throw.reach = reach ∧ throw.speed = launchSpeed launch := by
  obtain ⟨friction, friction_is, half, most⟩ :=
    Single.exists_value_of_between Single.value?_half value?_mostFriction half most
  obtain ⟨velocity, velocity_is, same, fast⟩ := exists_velocity launch
  obtain ⟨sign, signed⟩ := exists_sign velocity
  have moving : slow ≤ |velocity| := by
    rw [Single.lt_iff (Single.value?_speed velocity_is (fast.trans_lt (by norm_num)))
      Flight.value?_restSpeed, not_lt] at moving
    exact moving
  have size : |launch.startY.toInt| ≤ 2 ^ 24 := by
    have size := from_near.trans (near.trans (by norm_num : (2 : ℚ) ^ 22 ≤ 2 ^ 24))
    exact_mod_cast size
  refine ⟨sign, ⟨friction, unit sign * launch.startY.toInt, |velocity|, reach, half,
    most.trans (by norm_num), moving, fast, (representable_intCast size).unit_mul sign, ?_, near⟩,
    friction_is, ?_, ?_, rfl, same⟩
  · rw [abs_unit_mul]
    exact from_near
  · rw [unit_mul_unit_mul]
  · rw [← signed]
    exact velocity_is

theorem value?_start (start_eq : (launch.startY.toInt : ℚ) = unit sign * throw.start) :
    (Single.ofPx launch.startY).value? = some (unit sign * throw.start) := by
  rw [Single.value?_ofPx, start_eq, nearest_of_representable (throw.exact.unit_mul sign)]

theorem round_start (start_eq : (launch.startY.toInt : ℚ) = unit sign * throw.start) :
    Single.round (Single.ofPx launch.startY) = launch.startY := by
  have near : |launch.startY.toInt| ≤ 2 ^ 23 := by
    have size : |(launch.startY.toInt : ℚ)| ≤ 2 ^ 23 := by
      rw [start_eq, abs_unit_mul]
      exact (throw.from_near.trans throw.near).trans (by norm_num)
    exact_mod_cast size
  have is := value?_start start_eq
  rw [← start_eq] at is
  exact Int32.toInt_inj.mp (Single.toInt_round_of_whole is near)

/-- A flight begins between its walls. -/
theorem exists_follows (flight : Flight)
    (start_eq : (launch.startY.toInt : ℚ) = unit sign * throw.start)
    (velocity_is : flight.velocity.value? = some (unit sign * throw.speed))
    (position : flight.position = Single.ofPx launch.startY) (overscroll : 0 ≤ flight.overscroll)
    (above : flight.bounds.lowest ≤ launch.startY) (below : launch.startY ≤ flight.bounds.highest) :
    ∃ low high : ℚ, |low| ≤ 2 ^ 40 ∧ |high| ≤ 2 ^ 40 ∧
      flight.Follows sign throw low high throw.start := by
  have start_is := value?_start start_eq
  have exact : Representable (launch.startY.toInt : ℚ) := by
    rw [start_eq]
    exact throw.exact.unit_mul sign
  have extra : 0 ≤ nearest flight.overscroll.toInt := by
    apply le_nearest representable_zero
    rw [Int32.le_iff_toInt_le] at overscroll
    exact_mod_cast overscroll
  have size := Single.abs_nearest_px_le flight.overscroll
  have size_low := Single.abs_nearest_px_le flight.bounds.lowest
  have size_high := Single.abs_nearest_px_le flight.bounds.highest
  have order : nearest flight.bounds.lowest.toInt ≤ launch.startY.toInt := by
    rw [Int32.le_iff_toInt_le] at above
    exact nearest_le exact (by exact_mod_cast above)
  have order' : launch.startY.toInt ≤ nearest flight.bounds.highest.toInt := by
    rw [Int32.le_iff_toInt_le] at below
    exact le_nearest exact (by exact_mod_cast below)
  rw [abs_le] at size size_low size_high
  have far : |nearest flight.bounds.lowest.toInt - nearest flight.overscroll.toInt| ≤ 2 ^ 40 := by
    rw [abs_le]
    constructor <;> linarith
  have far' : |nearest flight.bounds.highest.toInt + nearest flight.overscroll.toInt| ≤ 2 ^ 40 := by
    rw [abs_le]
    constructor <;> linarith
  refine ⟨_, _, abs_nearest_le (representable_two_pow 40) far,
    abs_nearest_le (representable_two_pow 40) far',
    position ▸ start_is,
    Single.value?_sub (Single.value?_ofPx _) (Single.value?_ofPx _) (far.trans (by norm_num)),
    Single.value?_add (Single.value?_ofPx _) (Single.value?_ofPx _) (far'.trans (by norm_num)),
    ?_, ?_, throw.reached_start, fun _ => ⟨_, velocity_is, throw.underway ?_⟩⟩
  · rw [← start_eq]
    exact nearest_le exact (by linarith)
  · rw [← start_eq]
    exact le_nearest exact (by linarith)
  · exact representable_of_unit_mul (Single.representable velocity_is)

/-! ## Against the announcement -/

/-- The speed that is left when a flight stops makes up for the first step, which the announced
rest leaves out, and for the rounding of positions up to `reach`. -/
def IsGentle (decay : Decay) (launch : Launch) (reach : ℚ) : Prop :=
  (1 - decay.friction.toRat) * launchSpeed launch + (reach + 160) / 2 ^ 20 ≤
    decay.friction.toRat * restSpeed.toRat

/-- The first step, and an allowance for the rounding of positions up to `reach`. -/
def overrun (decay : Decay) (launch : Launch) (reach : ℚ) : ℚ :=
  launchSpeed launch +
    (reach + launchSpeed launch + 2) / (2 ^ 19 * (1 - decay.friction.toRat))

theorem apply_round_le {first second : Single} {x y : ℚ}
    (is : first.value? = some (unit sign * x)) (is' : second.value? = some (unit sign * y))
    (small : |x| ≤ 2 ^ 40) (small' : |y| ≤ 2 ^ 40) (order : x ≤ y) :
    sign.apply (Single.round first).toInt ≤ sign.apply (Single.round second).toInt := by
  have small : |unit sign * x| ≤ 2 ^ 126 := by
    rw [abs_unit_mul]
    exact small.trans (by norm_num)
  have small' : |unit sign * y| ≤ 2 ^ 126 := by
    rw [abs_unit_mul]
    exact small'.trans (by norm_num)
  cases sign with
  | negative =>
      exact neg_le_neg (Single.round_le_round is' is small' small (by
        rw [unit, neg_one_mul, neg_one_mul]
        exact neg_le_neg order))
  | positive =>
      exact Single.round_le_round is is' small small' (by
        rw [unit, one_mul, one_mul]
        exact order)

/-- Where a fling stands on its way, and the pixel that was announced before it was clamped. -/
structure Course (sign : Sign) (throw : Throw) (start current announced : ℤ) : Prop where
  current_ahead : sign.apply start ≤ sign.apply current
  announced_ahead : sign.apply start ≤ sign.apply announced
  gentle : |(announced : ℚ)| ≤ throw.reach → throw.IsGentle →
    sign.apply current ≤ sign.apply announced
  overrun : |(announced : ℚ)| ≤ throw.reach → |(current : ℚ)| ≤ throw.reach →
    (sign.apply current : ℚ) ≤ sign.apply announced + throw.overrun + 2

theorem OnItsWay.course {velocity : Single}
    (going : OnItsWay sign throw low high bounds decay) {origin : Decay}
    (friction_is : origin.friction.value? = some throw.friction)
    (start_eq : (launch.startY.toInt : ℚ) = unit sign * throw.start)
    (velocity_is : velocity.value? = some (unit sign * throw.speed)) :
    Course sign throw launch.startY.toInt decay.position.toInt
      (Single.round (origin.restingPoint launch.startY velocity)).toInt := by
  obtain ⟨single, position, here, is, small, reached⟩ := going.place
  have start_is := value?_start start_eq
  obtain ⟨rest_is, rest_small⟩ := value?_restingPoint friction_is start_is velocity_is
  have start_small : |throw.start| ≤ 2 ^ 40 :=
    throw.from_near.trans (throw.near.trans (by norm_num))
  have same := congrArg Int32.toInt (round_start start_eq)
  -- A pixel within reach tells where the exact number is.
  have close {single : Single} {x : ℚ} (is : single.value? = some (unit sign * x))
      (small : |x| ≤ 2 ^ 40) (near : |((Single.round single).toInt : ℚ)| ≤ throw.reach) :
      |x - unit sign * (Single.round single).toInt| < 1 ∧ |x| ≤ throw.reach + 1 := by
    have near' : |(Single.round single).toInt| ≤ 2 ^ 22 := by
      exact_mod_cast near.trans throw.near
    have off := Single.abs_sub_round_lt is
      (by rw [abs_unit_mul]; exact small.trans (by norm_num)) near'
    rw [← abs_unit_mul sign, mul_sub, unit_mul_unit_mul] at off
    have length := abs_sub_abs_le_abs_sub x (unit sign * (Single.round single).toInt)
    rw [abs_unit_mul] at length
    exact ⟨off, by linarith⟩
  refine ⟨?_, ?_, fun near gentle => ?_, fun near near' => ?_⟩
  · rw [here, ← same]
    exact apply_round_le start_is is start_small small reached.ahead
  · rw [← same]
    exact apply_round_le start_is rest_is start_small rest_small throw.start_le_rest
  · rw [here]
    exact apply_round_le is rest_is small rest_small
      (reached.le_rest (close rest_is rest_small near).2 gentle)
  · rw [here] at near' ⊢
    obtain ⟨off, rests_near⟩ := close rest_is rest_small near
    obtain ⟨off', before⟩ := close is small near'
    have passed := reached.le_overrun rests_near ((le_abs_self _).trans before)
    rw [apply_eq, apply_eq]
    linarith [(abs_lt.mp off).2, (abs_lt.mp off').1]

theorem Course.gentle_between {start current announced lowest highest destination : ℤ}
    (course : Course sign throw start current announced)
    (start_in : lowest < start ∧ start < highest)
    (current_in : lowest < current ∧ current < highest)
    (clamped : destination = max lowest (min announced highest))
    (near : |(destination : ℚ)| ≤ throw.reach) (gentle : throw.IsGentle) :
    current ∈ Set.uIcc start destination := by
  obtain ⟨ahead, ahead', between, _⟩ := course
  rw [Set.mem_uIcc]
  by_cases inside : destination = announced
  · have between := between (by rw [← inside]; exact near) gentle
    cases sign <;> simp only [Sign.apply] at ahead between <;> omega
  · cases sign <;> simp only [Sign.apply] at ahead ahead' <;> omega

/-- The motion keeps to its direction, and passes the announced rest by so much at most. -/
theorem Course.passes {start current announced lowest highest destination : ℤ}
    (course : Course sign throw start current announced)
    (start_in : lowest < start ∧ start < highest)
    (current_in : lowest < current ∧ current < highest)
    (clamped : destination = max lowest (min announced highest))
    (near : |(destination : ℚ)| ≤ throw.reach) (near' : |(current : ℚ)| ≤ throw.reach) :
    0 ≤ (current - start) * (destination - start) ∧
      |(current - start : ℚ)| ≤ |(destination - start : ℚ)| + throw.overrun + 2 := by
  obtain ⟨ahead, ahead', _, passed⟩ := course
  have extra := throw.overrun_nonneg
  have passed : destination = announced →
      (sign.apply current : ℚ) ≤ sign.apply destination + throw.overrun + 2 := by
    rintro rfl
    exact passed near near'
  have short : destination ≠ announced → sign.apply current ≤ sign.apply destination := by
    intro outside
    cases sign <;> simp only [Sign.apply] at ahead ahead' ⊢ <;> omega
  have passed : (sign.apply current : ℚ) ≤ sign.apply destination + throw.overrun + 2 := by
    by_cases inside : destination = announced
    · exact passed inside
    · have short : (sign.apply current : ℚ) ≤ sign.apply destination := by
        exact_mod_cast short inside
      linarith
  have onward : sign.apply start ≤ sign.apply destination := by
    cases sign <;> simp only [Sign.apply] at ahead ahead' ⊢ <;> omega
  cases sign with
  | negative =>
      simp only [Sign.apply] at ahead onward passed
      push_cast at passed
      refine ⟨mul_nonneg_of_nonpos_of_nonpos (by linarith) (by linarith), ?_⟩
      have ahead : (current : ℚ) ≤ start := by exact_mod_cast neg_le_neg_iff.mp ahead
      have onward : (destination : ℚ) ≤ start := by exact_mod_cast neg_le_neg_iff.mp onward
      rw [abs_of_nonpos (by linarith), abs_of_nonpos (by linarith)]
      linarith
  | positive =>
      simp only [Sign.apply] at ahead onward passed
      refine ⟨mul_nonneg (by linarith) (by linarith), ?_⟩
      have ahead : (start : ℚ) ≤ current := by exact_mod_cast ahead
      have onward : (start : ℚ) ≤ destination := by exact_mod_cast onward
      rw [abs_of_nonneg (by linarith), abs_of_nonneg (by linarith)]
      linarith

theorem overrun_nonneg (half : 0.5 ≤ decay.friction) (most : decay.friction ≤ 0.9999)
    (launch : Launch) {reach : ℚ} (some : 0 ≤ reach) : 0 ≤ decay.overrun launch reach := by
  obtain ⟨friction, is, _, most⟩ :=
    Single.exists_value_of_between Single.value?_half value?_mostFriction half most
  have speed : 0 ≤ launchSpeed launch := abs_nonneg _
  rw [overrun, Single.toRat_eq is]
  exact add_nonneg speed (div_nonneg (by linarith) (by linarith))

theorem isGentle_iff (is : decay.friction.value? = some throw.friction)
    (same : throw.speed = launchSpeed launch) :
    decay.IsGentle launch throw.reach ↔ throw.IsGentle := by
  rw [IsGentle, Throw.IsGentle, Single.toRat_eq is, Single.toRat_eq Flight.value?_restSpeed, same]

theorem overrun_eq (is : decay.friction.value? = some throw.friction)
    (same : throw.speed = launchSpeed launch) :
    decay.overrun launch throw.reach = throw.overrun := by
  rw [overrun, Throw.overrun, Single.toRat_eq is, same]

/-! ## The fling -/

theorem flingBetween_of_slow (decay : Decay) (bounds : Span)
    (slow : Single.speed (Single.ofPx launch.velocity / 1000) < restSpeed)
    (above : bounds.lowest ≤ launch.startY) (below : launch.startY ≤ bounds.highest)
    (start : Millis) : decay.flingBetween launch bounds start =
      { decay with position := launch.startY, destination := launch.startY, motion := .still } := by
  unfold flingBetween
  dsimp only
  rw [if_pos slow]
  exact settle_of_inside { decay with position := launch.startY } above below start

/-- The flight that a launch sets off. -/
def launched (launch : Launch) (bounds : Span) (start : Millis) : Flight where
  position := Single.ofPx launch.startY
  velocity := Single.ofPx launch.velocity / 1000
  bounds := bounds
  overscroll := max launch.overscroll 0
  lastTime := start

theorem flingBetween_of_fast (decay : Decay)
    (fast : ¬Single.speed (Single.ofPx launch.velocity / 1000) < restSpeed) (start : Millis) :
    decay.flingBetween launch bounds start =
      { decay with
        position := launch.startY
        destination := bounds.clamp (Single.round (decay.restingPoint launch.startY
          (Single.ofPx launch.velocity / 1000)))
        motion := .flight (launched launch bounds start) } := by
  unfold flingBetween
  dsimp only
  rw [if_neg fast]
  rfl

theorem toInt_clamp (bounds : Span) (value : Px) :
    (bounds.clamp value).toInt =
      max bounds.lowest.toInt (min value.toInt bounds.highest.toInt) := by
  have ordered := bounds.ordered
  unfold Span.clamp
  simp only [Int32.lt_iff_toInt_lt, Int32.le_iff_toInt_le] at *
  split
  · omega
  · split <;> omega

theorem destination_of_fast (decay : Decay) (bounds : Span)
    (fast : ¬Single.speed (Single.ofPx launch.velocity / 1000) < restSpeed) (start : Millis) :
    (decay.flingBetween launch bounds start).destination.toInt =
      max bounds.lowest.toInt (min (Single.round (decay.restingPoint launch.startY
        (Single.ofPx launch.velocity / 1000))).toInt bounds.highest.toInt) := by
  rw [flingBetween_of_fast decay fast]
  exact toInt_clamp _ _

theorem flingBetween_position (decay : Decay) (launch : Launch) (bounds : Span) (start : Millis) :
    (decay.flingBetween launch bounds start).position = launch.startY := by
  unfold flingBetween
  dsimp only
  split
  · rw [settle_position]
  · rfl

theorem flingBetween_onItsWay (bounds : Span)
    (fast : ¬Single.speed (Single.ofPx launch.velocity / 1000) < restSpeed)
    (friction_is : decay.friction.value? = some throw.friction)
    (start_eq : (launch.startY.toInt : ℚ) = unit sign * throw.start)
    (velocity_is : (Single.ofPx launch.velocity / 1000).value? = some (unit sign * throw.speed))
    (above : bounds.lowest ≤ launch.startY) (below : launch.startY ≤ bounds.highest)
    (start : Millis) :
    ∃ low high : ℚ, |low| ≤ 2 ^ 40 ∧ |high| ≤ 2 ^ 40 ∧
      OnItsWay sign throw low high bounds (decay.flingBetween launch bounds start) := by
  have overscroll : 0 ≤ (launched launch bounds start).overscroll := by
    rw [Int32.le_iff_toInt_le]
    change _ ≤ (max launch.overscroll 0).toInt
    rw [Px.toInt_max]
    exact le_max_right _ _
  obtain ⟨low, high, near, near', follows⟩ := exists_follows
    (launched launch bounds start) start_eq velocity_is rfl overscroll above below
  have small : |throw.start| ≤ 2 ^ 40 := throw.from_near.trans (throw.near.trans (by norm_num))
  refine ⟨low, high, near, near', ?_⟩
  rw [flingBetween_of_fast decay fast]
  exact ⟨friction_is,
    ⟨Single.ofPx launch.startY, throw.start, (round_start start_eq).symm, value?_start start_eq,
      small, throw.reached_start⟩,
    .inr ⟨launched launch bounds start, rfl, rfl, decide_eq_false fast, throw.start, follows⟩⟩

/-- A gentle fling that moves freely stays between its start and the announced rest; any other
never turns back, and passes the announced rest by little more than its first step. -/
theorem keeps_to_announced_rest (decay : Decay) (half : 0.5 ≤ decay.friction)
    (most : decay.friction ≤ 0.9999) {launch : Launch} {start : Millis} {flung : Decay}
    (done : decay.fling launch start = .ok flung) {reach : ℚ} (near : reach ≤ 2 ^ 22)
    (from_near : |(launch.startY.toInt : ℚ)| ≤ reach)
    (to_near : |(flung.destination.toInt : ℚ)| ≤ reach) {times : List Millis}
    (free : MovesFreely flung launch times) :
    (decay.IsGentle launch reach →
      (flung.advanceAll times).position.toInt ∈
        Set.uIcc launch.startY.toInt flung.destination.toInt) ∧
    (|((flung.advanceAll times).position.toInt : ℚ)| ≤ reach →
      0 ≤ ((flung.advanceAll times).position.toInt - launch.startY.toInt) *
        (flung.destination.toInt - launch.startY.toInt) ∧
      |((flung.advanceAll times).position.toInt - launch.startY.toInt : ℚ)| ≤
        |(flung.destination.toInt - launch.startY.toInt : ℚ)| +
          decay.overrun launch reach + 2) := by
  by_cases ordered : launch.lowest ≤ launch.highest
  · rw [decay.fling_of_ordered ordered, Except.ok.injEq] at done
    have first := free [] List.nil_prefix
    have last := free times (List.prefix_refl times)
    have here : (flung.advanceAll []).position = launch.startY := by
      rw [← done]
      exact flingBetween_position _ _ _ _
    rw [here] at first
    have above := Int32.le_of_lt first.1
    have below := Int32.le_of_lt first.2
    rw [Int32.lt_iff_toInt_lt, Int32.lt_iff_toInt_lt] at first last
    by_cases slow : Single.speed (Single.ofPx launch.velocity / 1000) < restSpeed
    · have stands : flung = { decay with
          position := launch.startY, destination := launch.startY, motion := .still } :=
        done.symm.trans (decay.flingBetween_of_slow ⟨_, _, ordered⟩ slow above below start)
      have idle : flung.isIdle = true := by
        rw [stands]
        rfl
      have extra := overrun_nonneg half most launch ((abs_nonneg _).trans from_near)
      rw [(frames_of_isIdle idle times).2, stands]
      refine ⟨fun _ => Set.left_mem_uIcc, fun _ => ⟨?_, ?_⟩⟩
      · rw [sub_self, mul_zero]
      · rw [sub_self, abs_zero]
        linarith
    · obtain ⟨sign, throw, friction_is, start_eq, velocity_is, rfl, same⟩ :=
        exists_throw half most slow near from_near
      obtain ⟨low, high, small, small', going⟩ := flingBetween_onItsWay
        ⟨_, _, ordered⟩ slow friction_is start_eq velocity_is above below start
      have clamped := decay.destination_of_fast ⟨_, _, ordered⟩ slow start
      rw [done] at going clamped
      have course := (going.advanceAll small small' rfl rfl free).course friction_is start_eq
        velocity_is
      rw [isGentle_iff friction_is same, overrun_eq friction_is same]
      exact ⟨course.gentle_between first last clamped to_near,
        course.passes first last clamped to_near⟩
  · rw [fling, Span.between, dif_neg ordered] at done
    cases done

/-- A gentle fling under the stock friction. -/
theorem keeps_to_announced_rest_under_way :
    ∃ flung, (0.5 : Single) ≤ initial.friction ∧ initial.friction ≤ 0.9999 ∧
      initial.fling ⟨0, 0, 2000, -100, 1000, 0⟩ 0 = .ok flung ∧
      flung.destination = 665 ∧ MovesFreely flung ⟨0, 0, 2000, -100, 1000, 0⟩ [8, 24] ∧
      initial.IsGentle ⟨0, 0, 2000, -100, 1000, 0⟩ 1000 ∧
      (flung.advanceAll [8, 24]).position = 46 ∧
      (flung.advanceAll [8, 24]).position.toInt ∈
        Set.uIcc (0 : Px).toInt flung.destination.toInt := by
  have half : (0.5 : Single) ≤ initial.friction := by decide +kernel
  have most : initial.friction ≤ 0.9999 := by decide +kernel
  have friction : initial.friction.toRat = 4181721 / 4194304 := by decide +kernel
  have slowest : restSpeed.toRat = slow := Single.toRat_eq Flight.value?_restSpeed
  have speed : launchSpeed ⟨0, 0, 2000, -100, 1000, 0⟩ = 2 := by decide +kernel
  have gentle : initial.IsGentle ⟨0, 0, 2000, -100, 1000, 0⟩ 1000 := by
    rw [IsGentle, friction, slowest, speed, slow]
    norm_num
  have came : (initial.fling ⟨0, 0, 2000, -100, 1000, 0⟩ 0).map
      (fun flung => (flung.destination, (flung.advanceAll [8, 24]).position,
        decide (MovesFreely flung ⟨0, 0, 2000, -100, 1000, 0⟩ [8, 24]))) =
      .ok (665, 46, true) := by
    decide +kernel
  cases done : initial.fling ⟨0, 0, 2000, -100, 1000, 0⟩ 0 with
  | error fault =>
      rw [done] at came
      cases came
  | ok flung =>
      rw [done] at came
      simp only [Except.map, Except.ok.injEq, Prod.mk.injEq, decide_eq_true_eq] at came
      obtain ⟨announced, there, free⟩ := came
      have to_near : |(flung.destination.toInt : ℚ)| ≤ 1000 := by
        rw [announced]
        decide +kernel
      have kept := keeps_to_announced_rest initial half most done (by norm_num)
        (by decide +kernel) to_near free
      exact ⟨flung, half, most, rfl, announced, free, gentle, there, kept.1 gentle⟩

/-- A hard fling passes the rest that it announced in its second step. -/
theorem announced_rest_passed :
    ∃ flung, (initial.withFriction 0.5).fling ⟨0, 0, 10000, -1000, 1000, 0⟩ 0 = .ok flung ∧
      (initial.withFriction 0.5).friction = 0.5 ∧
      MovesFreely flung ⟨0, 0, 10000, -1000, 1000, 0⟩ [2] ∧
      (flung.advanceAll [2]).position = 15 ∧
      (flung.advanceAll [2]).position.toInt ∉
        Set.uIcc (0 : Px).toInt flung.destination.toInt := by
  have came : ((initial.withFriction 0.5).fling ⟨0, 0, 10000, -1000, 1000, 0⟩ 0).map
      (fun flung => (flung.destination, (flung.advanceAll [2]).position,
        decide (MovesFreely flung ⟨0, 0, 10000, -1000, 1000, 0⟩ [2]))) = .ok (10, 15, true) := by
    decide +kernel
  cases done : (initial.withFriction 0.5).fling ⟨0, 0, 10000, -1000, 1000, 0⟩ 0 with
  | error fault =>
      rw [done] at came
      cases came
  | ok flung =>
      rw [done] at came
      simp only [Except.map, Except.ok.injEq, Prod.mk.injEq, decide_eq_true_eq] at came
      obtain ⟨announced, passed, free⟩ := came
      refine ⟨flung, rfl, by decide +kernel, free, passed, ?_⟩
      rw [passed, announced, Set.mem_uIcc]
      decide

end Decay

end KineticScroll
