import KineticScroll.Proofs.Unpacked

/-!
# Exact values of singles

A single precision number that is neither infinite nor missing stands for a rational
number.  Adding, multiplying and the like give the rounding of the exact result,
comparing compares the exact numbers, and the way back to pixels keeps the order.
-/

namespace KineticScroll

namespace Single

open Rounding
open Float.Model (UnpackedFloat)

variable {first second : Single} {x y : ℚ}

/-- The number that a single stands for, unless it is infinite or no number. -/
def value? (single : Single) : Option ℚ :=
  number? single.toModel.unpack

def toRat (single : Single) : ℚ :=
  single.value?.getD 0

theorem toRat_eq (is : first.value? = some x) : first.toRat = x := by
  rw [toRat, is, Option.getD_some]

theorem standsFor (is : first.value? = some x) : StandsFor first.toModel.unpack x :=
  ⟨unpack_isCanonical _, is⟩

theorem representable (is : first.value? = some x) : Representable x :=
  (standsFor is).representable

/-! ## Operations -/

/-- What is computed is found again in the 32 bits, unless it overflows. -/
theorem value?_of_pack {unpacked : UnpackedFloat} (stands : StandsFor unpacked x)
    (small : |x| < 2 ^ 128) {single : Single}
    (packed : single.toModel = Float32.Model.pack unpacked) : single.value? = some x := by
  rw [value?, packed]
  change number? (UnpackedFloat.unpack .binary32 (UnpackedFloat.pack .binary32 unpacked)) = some x
  rw [unpack_pack stands small]
  exact stands.number

theorem abs_nearest_lt (small : |x| ≤ 2 ^ 127) : |nearest x| < 2 ^ 128 :=
  (abs_nearest_le (representable_two_pow 127) small).trans_lt (by norm_num)

theorem value?_add (is : first.value? = some x) (is' : second.value? = some y)
    (small : |x + y| ≤ 2 ^ 127) : (first + second).value? = some (nearest (x + y)) :=
  value?_of_pack ((standsFor is).add (standsFor is')) (abs_nearest_lt small) rfl

theorem value?_sub (is : first.value? = some x) (is' : second.value? = some y)
    (small : |x - y| ≤ 2 ^ 127) : (first - second).value? = some (nearest (x - y)) :=
  value?_of_pack ((standsFor is).sub (standsFor is')) (abs_nearest_lt small) rfl

theorem value?_mul (is : first.value? = some x) (is' : second.value? = some y)
    (small : |x * y| ≤ 2 ^ 127) : (first * second).value? = some (nearest (x * y)) :=
  value?_of_pack ((standsFor is).mul (standsFor is')) (abs_nearest_lt small) rfl

theorem value?_div (is : first.value? = some x) (is' : second.value? = some y) (divisor : y ≠ 0)
    (small : |x / y| ≤ 2 ^ 127) : (first / second).value? = some (nearest (x / y)) :=
  value?_of_pack ((standsFor is).div (standsFor is') divisor) (abs_nearest_lt small) rfl

theorem value?_neg (is : first.value? = some x) (small : |x| < 2 ^ 128) :
    (-first).value? = some (-x) := by
  apply value?_of_pack (standsFor is).neg
  · rw [abs_neg]
    exact small
  · rfl

theorem abs_px_le (px : Px) : |(px.toInt : ℚ)| ≤ 2 ^ 31 := by
  have above := Int32.minValue_le_toInt px
  have below := Int32.toInt_le px
  have size : |px.toInt| ≤ 2 ^ 31 := by
    rw [abs_le]
    constructor
    · exact above
    · exact below.trans (by decide)
  exact_mod_cast size

theorem abs_nearest_px_le (px : Px) : |nearest px.toInt| ≤ 2 ^ 31 :=
  abs_nearest_le (representable_two_pow 31) (abs_px_le px)

theorem value?_ofPx (px : Px) : (ofPx px).value? = some (nearest px.toInt) := by
  have stands := normalize_standsFor px.toInt 0 .positive
  rw [zpow_zero, mul_one] at stands
  have size : |(px.toInt : ℚ)| ≤ 2 ^ 127 := (abs_px_le px).trans (by norm_num)
  exact value?_of_pack stands (abs_nearest_lt size) rfl

theorem value?_ofMillis (time : Millis) : (ofMillis time).value? = some (nearest time.toNat) := by
  have stands := normalize_standsFor time.toNat 0 .positive
  rw [zpow_zero, mul_one] at stands
  have size : |((time.toNat : ℤ) : ℚ)| ≤ 2 ^ 127 := by
    have below : (time.toNat : ℚ) < 2 ^ 64 := by exact_mod_cast time.toNat_lt
    rw [Int.cast_natCast, Nat.abs_cast]
    exact below.le.trans (by norm_num)
  exact value?_of_pack stands (abs_nearest_lt size) rfl

/-! ## Order -/

theorem lt_iff (is : first.value? = some x) (is' : second.value? = some y) :
    first < second ↔ x < y := by
  have compared := (standsFor is).compare (standsFor is')
  change decide ((first.toModel.unpack.compare second.toModel.unpack == some .lt) = true) = true ↔ _
  rw [compared, decide_eq_true_iff, beq_iff_eq, Option.some.injEq, compare_lt_iff_lt]

theorem le_iff_compare : first ≤ second ↔
    (first.toModel.unpack.compare second.toModel.unpack).any (·.isLE) = true := by
  change decide ((first.toModel.unpack.compare second.toModel.unpack).any (·.isLE) = true) =
    true ↔ _
  rw [decide_eq_true_iff]

theorem le_iff (is : first.value? = some x) (is' : second.value? = some y) :
    first ≤ second ↔ x ≤ y := by
  rw [le_iff_compare, (standsFor is).compare (standsFor is'), Option.any_some]
  rcases lt_trichotomy x y with less | rfl | more
  · rw [compare_lt_iff_lt.mpr less]
    exact iff_of_true rfl less.le
  · rw [compare_eq_iff_eq.mpr rfl]
    exact iff_of_true rfl le_rfl
  · rw [compare_gt_iff_gt.mpr more]
    exact iff_of_false Bool.false_ne_true (not_le.mpr more)

/-- What lies between two numbers is a number. -/
theorem exists_value_of_between {middle : Single} (is : first.value? = some x)
    (is' : second.value? = some y) (above : first ≤ middle) (below : middle ≤ second) :
    ∃ z, middle.value? = some z ∧ x ≤ z ∧ z ≤ y := by
  cases unpacked : middle.toModel.unpack with
  | zero sign =>
      have zero : middle.value? = some 0 := by rw [value?, unpacked, number?]
      exact ⟨0, zero, (le_iff is zero).mp above, (le_iff zero is').mp below⟩
  | finite sign digits spot positive =>
      have finite : middle.value? = some (unit sign * digits * 2 ^ spot) := by
        rw [value?, unpacked, number?]
      exact ⟨_, finite, (le_iff is finite).mp above, (le_iff finite is').mp below⟩
  | infinity sign =>
      rw [le_iff_compare, unpacked] at above below
      cases sign with
      | negative =>
          rcases (standsFor is).zero_or_finite with ⟨_, same, _⟩ | ⟨sign, _, _, _, same, _⟩
          · rw [same] at above
            cases above
          · rw [same] at above
            cases sign <;> cases above
      | positive =>
          rcases (standsFor is').zero_or_finite with ⟨_, same, _⟩ | ⟨sign, _, _, _, same, _⟩
          · rw [same] at below
            cases below
          · rw [same] at below
            cases sign <;> cases below
  | notANumber =>
      rw [le_iff_compare, unpacked] at below
      cases below

/-! ## To pixels -/

theorem toInt_truncate (is : first.value? = some x) :
    (truncate first).toInt =
      max Px.least.toInt (min (whole x) Px.greatest.toInt) := by
  rw [← Px.toInt_saturate_eq, ← (standsFor is).toInt]
  rfl

theorem value?_zero : (0 : Single).value? = some 0 := by
  decide +kernel

theorem value?_one : (1 : Single).value? = some 1 := by
  decide +kernel

theorem value?_half : (0.5 : Single).value? = some (1 / 2) := by
  decide +kernel

/-- One half further from zero. -/
def away (value : ℚ) : ℚ :=
  if 0 ≤ value then value + 1 / 2 else value - 1 / 2

theorem away_mono (order : x ≤ y) : away x ≤ away y := by
  unfold away
  split_ifs <;> linarith

/-- The pixel that an exact number is rounded to. -/
def pixel (value : ℚ) : ℤ :=
  max Px.least.toInt (min (whole (nearest (away value))) Px.greatest.toInt)

theorem pixel_mono : Monotone pixel := fun _ _ order =>
  max_le_max le_rfl (min_le_min (whole_mono (nearest_mono (away_mono order))) le_rfl)

theorem toInt_round (is : first.value? = some x) (small : |x| ≤ 2 ^ 126) :
    (round first).toInt = pixel x := by
  have bounds := abs_le.mp small
  unfold pixel away
  rcases le_or_gt 0 x with positive | negative
  · have moved : (first + 0.5).value? = some (nearest (x + 1 / 2)) := by
      apply value?_add is value?_half
      rw [abs_le]
      constructor <;> linarith
    rw [round, if_pos ((le_iff value?_zero is).mpr positive), if_pos positive,
      toInt_truncate moved]
  · have moved : (first - 0.5).value? = some (nearest (x - 1 / 2)) := by
      apply value?_sub is value?_half
      rw [abs_le]
      constructor <;> linarith
    have below : ¬(0 : Single) ≤ first := by
      rw [le_iff value?_zero is, not_le]
      exact negative
    rw [round, if_neg below, if_neg (not_le.mpr negative), toInt_truncate moved]

/-- Rounding to pixels keeps the order. -/
theorem round_le_round (is : first.value? = some x) (is' : second.value? = some y)
    (small : |x| ≤ 2 ^ 126) (small' : |y| ≤ 2 ^ 126) (order : x ≤ y) :
    (round first).toInt ≤ (round second).toInt := by
  rw [toInt_round is small, toInt_round is' small']
  exact pixel_mono order

/-- The middle of two near pixels has digits enough. -/
theorem representable_middle {spot : ℤ} (near : |spot| < 2 ^ 23) :
    Representable ((spot : ℚ) + 1 / 2) := by
  refine ⟨2 * spot + 1, -1, ?_, by norm_num, ?_⟩
  · rw [abs_lt] at near
    rw [abs_le]
    constructor <;> linarith
  · push_cast
    norm_num
    ring

/--
A pixel that one half is added to in vain.  Between 2 ^ 23 and 2 ^ 24 singles are
the whole numbers, and an odd one and one half lie as near to the next one out,
which is even.
-/
def TiesAway (spot : ℤ) : Prop :=
  Odd spot ∧ 2 ^ 23 < |spot| ∧ |spot| < 2 ^ 24

instance (spot : ℤ) : Decidable (TiesAway spot) :=
  inferInstanceAs (Decidable (_ ∧ _ ∧ _))

theorem TiesAway.neg {spot : ℤ} (ties : TiesAway spot) : TiesAway (-spot) := by
  obtain ⟨odd, least, most⟩ := ties
  rw [TiesAway, abs_neg]
  exact ⟨odd.neg, least, most⟩

theorem not_tiesAway_of_le {spot : ℤ} (near : |spot| ≤ 2 ^ 23) : ¬TiesAway spot :=
  fun ties => absurd ties.2.1 (not_lt.mpr near)

theorem away_neg (some : x ≠ 0) : away (-x) = -away x := by
  unfold away
  rcases some.lt_or_gt with negative | positive
  · rw [if_pos (by linarith), if_neg (by linarith)]
    ring
  · rw [if_neg (by linarith), if_pos positive.le]
    ring

theorem whole_nearest_away_neg (some : x ≠ 0) :
    whole (nearest (away (-x))) = -whole (nearest (away x)) := by
  rw [away_neg some, nearest_neg, whole_neg]

theorem emod_two_of_not_tiesAway {spot : ℤ} (steady : ¬TiesAway spot) (least : 2 ^ 23 ≤ spot)
    (most : spot < 2 ^ 24) : spot % 2 = 0 := by
  by_contra odd
  have odd : Odd spot := Int.odd_iff.mpr (by omega)
  have apart : spot ≠ 2 ^ 23 := by
    rintro rfl
    revert odd
    decide
  apply steady
  rw [TiesAway, abs_of_nonneg (by omega)]
  exact ⟨odd, lt_of_le_of_ne least apart.symm, most⟩

/-- What is farther out by one half loses it again, unless the two tie. -/
theorem whole_nearest_away {spot : ℤ} (held : Representable (spot : ℚ))
    (steady : ¬TiesAway spot) : whole (nearest (away spot)) = spot := by
  wlog nonneg : 0 ≤ spot generalizing spot
  · have some : (spot : ℚ) ≠ 0 := by exact_mod_cast (not_le.mp nonneg).ne
    have held' : Representable ((-spot : ℤ) : ℚ) := by
      rw [Int.cast_neg]
      exact held.neg
    have steady' : ¬TiesAway (-spot) := fun ties => steady (neg_neg spot ▸ ties.neg)
    have mirrored := this held' steady' (by omega)
    rw [Int.cast_neg, whole_nearest_away_neg some] at mirrored
    exact neg_injective mirrored
  have positive : (0 : ℚ) ≤ spot := by exact_mod_cast nonneg
  rw [away, if_pos positive]
  rcases lt_or_ge spot (2 ^ 23) with near | far
  · rw [nearest_of_representable (representable_middle (by rwa [abs_of_nonneg nonneg])), whole,
      if_pos (by linarith), Int.floor_eq_iff]
    constructor <;> linarith
  rcases lt_or_ge spot (2 ^ 24) with middle | beyond
  · have even := emod_two_of_not_tiesAway steady far middle
    rw [nearest_add_half far middle, even, add_zero, whole_intCast]
  · rw [nearest_add_half_of_large held beyond, whole_intCast]

theorem whole_nearest_away_of_tiesAway {spot : ℤ} (ties : TiesAway spot) :
    whole (nearest (away spot)) = spot + spot.sign := by
  wlog positive : 0 < spot generalizing spot
  · have negative : spot < 0 := by
      have far := ties.2.1
      rw [lt_abs] at far
      omega
    have some : (spot : ℚ) ≠ 0 := by exact_mod_cast negative.ne
    have mirrored := this ties.neg (by omega)
    rw [Int.cast_neg, whole_nearest_away_neg some, Int.sign_neg, ← neg_add] at mirrored
    exact neg_injective mirrored
  obtain ⟨odd, least, most⟩ := ties
  rw [abs_of_pos positive] at least most
  have nonneg : (0 : ℚ) ≤ spot := by exact_mod_cast positive.le
  rw [away, if_pos nonneg, nearest_add_half least.le most, Int.odd_iff.mp odd, whole_intCast,
    Int.sign_eq_one_of_pos positive]

/-- The rounding is to leave pixels alone, but it moves these by one. -/
theorem pixel_of_tiesAway {spot : ℤ} (ties : TiesAway spot) : pixel spot = spot + spot.sign := by
  have least : Px.least.toInt = -2 ^ 31 := rfl
  have greatest : Px.greatest.toInt = 2 ^ 31 - 1 := rfl
  have most := ties.2.2
  rw [abs_lt] at most
  rw [pixel, whole_nearest_away_of_tiesAway ties, least, greatest]
  rcases Int.sign_trichotomy spot with unit | unit | unit <;> omega

/-- Any other pixel that a single holds comes back as it went. -/
theorem pixel_toInt_eq_iff {px : Px} (held : Representable (px.toInt : ℚ)) :
    pixel px.toInt = px.toInt ↔ ¬TiesAway px.toInt := by
  constructor
  · intro same ties
    rw [pixel_of_tiesAway ties, add_eq_left, Int.sign_eq_zero_iff_zero] at same
    have far := ties.2.1
    rw [same] at far
    norm_num at far
  · intro steady
    have least := Px.least_le px
    have greatest := Px.le_greatest px
    rw [pixel, whole_nearest_away held steady]
    omega

theorem pixel_intCast {spot : ℤ} (near : |spot| ≤ 2 ^ 23) : pixel spot = spot := by
  have least : Px.least.toInt = -2 ^ 31 := rfl
  have greatest : Px.greatest.toInt = 2 ^ 31 - 1 := rfl
  have held : Representable (spot : ℚ) := representable_intCast (near.trans (by norm_num))
  rw [pixel, whole_nearest_away held (not_tiesAway_of_le near), least, greatest]
  rw [abs_le] at near
  omega

theorem toInt_round_of_whole {spot : ℤ} (is : first.value? = some (spot : ℚ))
    (near : |spot| ≤ 2 ^ 23) : (round first).toInt = spot := by
  have size : |(spot : ℚ)| ≤ 2 ^ 23 := by exact_mod_cast near
  rw [toInt_round is (size.trans (by norm_num)), pixel_intCast near]

theorem lt_of_round_lt (spot : ℤ) (is : first.value? = some x) (small : |x| ≤ 2 ^ 126)
    (near : |spot| ≤ 2 ^ 23) (below : (round first).toInt < spot) : x < spot := by
  by_contra beyond
  have order := pixel_mono (not_lt.mp beyond)
  rw [pixel_intCast near, ← toInt_round is small] at order
  omega

theorem lt_of_lt_round (spot : ℤ) (is : first.value? = some x) (small : |x| ≤ 2 ^ 126)
    (near : |spot| ≤ 2 ^ 23) (above : spot < (round first).toInt) : spot < x := by
  by_contra beyond
  have order := pixel_mono (not_lt.mp beyond)
  rw [pixel_intCast near, ← toInt_round is small] at order
  omega

/-- Rounding to pixels moves by less than one. -/
theorem abs_sub_round_lt (is : first.value? = some x) (small : |x| ≤ 2 ^ 126)
    (near : |(round first).toInt| ≤ 2 ^ 22) : |x - (round first).toInt| < 1 := by
  rw [abs_le] at near
  have below := lt_of_round_lt ((round first).toInt + 1) is small
    (by rw [abs_le]; omega) (by omega)
  have above := lt_of_lt_round ((round first).toInt - 1) is small
    (by rw [abs_le]; omega) (by omega)
  push_cast at below above
  rw [abs_lt]
  constructor <;> linarith

/-! ## Speeds and limits -/

theorem value?_speed (is : first.value? = some x) (small : |x| < 2 ^ 128) :
    (speed first).value? = some |x| := by
  rw [speed]
  split
  · next negative =>
      rw [lt_iff is value?_zero] at negative
      rw [abs_of_neg negative]
      exact value?_neg is small
  · next positive =>
      rw [lt_iff is value?_zero, not_lt] at positive
      rw [abs_of_nonneg positive]
      exact is

theorem value?_clamp {lowest highest : Single} {low high : ℚ} (is : first.value? = some x)
    (low_is : lowest.value? = some low) (high_is : highest.value? = some high)
    (ordered : low ≤ high) :
    (clamp first lowest highest).value? = some (max low (min x high)) := by
  rw [clamp]
  split
  · next below =>
      rw [lt_iff is low_is] at below
      rw [min_eq_left (below.le.trans ordered), max_eq_left below.le]
      exact low_is
  · next above =>
      rw [lt_iff is low_is, not_lt] at above
      split
      · next beyond =>
          rw [lt_iff high_is is] at beyond
          rw [min_eq_right beyond.le, max_eq_right ordered]
          exact high_is
      · next within =>
          rw [lt_iff high_is is, not_lt] at within
          rw [min_eq_left within, max_eq_right above]
          exact is

end Single

end KineticScroll
