import KineticScroll.Proofs.Rounding
import Mathlib

/-!
# The rounding of the machine

Single precision numbers are computed as a sign, a whole number of digits and a
place, with two more bits for what has been cut off below the last digit.  The two
bits are enough to round to the nearest: what comes out is the rounding of the exact
number, in the one form that packing into 32 bits keeps.
-/

namespace KineticScroll

namespace Rounding

open Float.Model
open Float.Model.UnpackedFloat

variable {sign : Sign} {digits : ℕ} {spot : ℤ} {value fraction : ℚ}

/-! ## Signs -/

def unit : Sign → ℚ
  | .negative => -1
  | .positive => 1

theorem unit_mul (first second : Sign) : unit (first * second) = unit first * unit second := by
  cases first <;> cases second <;> decide +kernel

theorem unit_div (first second : Sign) : unit (first / second) = unit first * unit second := by
  cases first <;> cases second <;> decide +kernel

theorem unit_neg (sign : Sign) : unit (-sign) = -unit sign := by
  cases sign <;> decide +kernel

theorem apply_eq (sign : Sign) (whole : ℤ) : (sign.apply whole : ℚ) = unit sign * whole := by
  cases sign <;> simp [Sign.apply, unit]

theorem unit_mul_self (sign : Sign) : unit sign * unit sign = 1 := by
  cases sign <;> norm_num [unit]

theorem abs_unit (sign : Sign) : |unit sign| = 1 := by
  cases sign <;> norm_num [unit]

theorem nearest_unit_mul (sign : Sign) (value : ℚ) :
    nearest (unit sign * value) = unit sign * nearest value := by
  cases sign with
  | negative => rw [unit, neg_one_mul, neg_one_mul, nearest_neg]
  | positive => rw [unit, one_mul, one_mul]

theorem unit_mul_unit_mul (sign : Sign) (value : ℚ) : unit sign * (unit sign * value) = value := by
  rw [← mul_assoc, unit_mul_self, one_mul]

theorem abs_unit_mul (sign : Sign) (value : ℚ) : |unit sign * value| = |value| := by
  rw [abs_mul, abs_unit, one_mul]

theorem Representable.unit_mul (exact : Representable value) (sign : Sign) :
    Representable (unit sign * value) := by
  rw [← nearest_of_representable exact, ← nearest_unit_mul]
  exact representable_nearest _

theorem representable_of_unit_mul (exact : Representable (unit sign * value)) :
    Representable value := by
  rw [← unit_mul_unit_mul sign value]
  exact exact.unit_mul sign

/-! ## Cut off digits -/

/-- The mantissa is the number cut off, and the two bits tell what was cut off from a half. -/
def Marks (marked : ExtendedMantissa) (value : ℚ) : Prop :=
  ∃ fraction : ℚ, value = marked.mantissa + fraction ∧
    match marked.roundBit, marked.stickyBit with
    | false, false => fraction = 0
    | false, true => 0 < fraction ∧ fraction < 1 / 2
    | true, false => fraction = 1 / 2
    | true, true => 1 / 2 < fraction ∧ fraction < 1

theorem marks_exact (digits : ℕ) :
    Marks (ExtendedMantissa.ofMantissaAndAccuracy digits .exact) digits :=
  ⟨0, (add_zero _).symm, rfl⟩

theorem mantissa_eq (digits : ℕ) (accuracy : Accuracy) :
    (ExtendedMantissa.ofMantissaAndAccuracy digits accuracy).mantissa = digits := by
  rcases accuracy with _ | order
  · rfl
  · cases order <;> rfl

theorem marks_fraction (digits : ℕ) {part whole : ℕ} (less : part < whole) :
    Marks (ExtendedMantissa.ofMantissaAndAccuracy digits (accuracyOfFraction part whole))
      (digits + part / whole) := by
  have positive : (0 : ℚ) < whole := by exact_mod_cast (Nat.zero_le part).trans_lt less
  refine ⟨part / whole, by rw [mantissa_eq], ?_⟩
  rcases Nat.eq_zero_or_pos part with rfl | some
  · rw [Nat.cast_zero, zero_div]
    rfl
  have inexact : accuracyOfFraction part whole = .inexact (compare (2 * part) whole) :=
    if_neg some.ne'
  have some : (0 : ℚ) < part := by exact_mod_cast some
  rw [inexact]
  rcases lt_trichotomy (2 * part) whole with below | half | above
  · rw [Nat.compare_eq_lt.mpr below]
    have below : 2 * (part : ℚ) < whole := by exact_mod_cast below
    refine ⟨div_pos some positive, ?_⟩
    rw [div_lt_iff₀ positive]
    linarith
  · rw [Nat.compare_eq_eq.mpr half]
    have half : 2 * (part : ℚ) = whole := by exact_mod_cast half
    change (part : ℚ) / whole = 1 / 2
    rw [div_eq_iff positive.ne']
    linarith
  · rw [Nat.compare_eq_gt.mpr above]
    have above : (whole : ℚ) < 2 * part := by exact_mod_cast above
    have less : (part : ℚ) < whole := by exact_mod_cast less
    constructor
    · rw [lt_div_iff₀ positive]
      linarith
    · rw [div_lt_one positive]
      exact less

theorem Marks.bounds {marked : ExtendedMantissa} (marks : Marks marked value) :
    marked.mantissa ≤ value ∧ value < marked.mantissa + 1 := by
  obtain ⟨mantissa, round, sticky⟩ := marked
  obtain ⟨fraction, rfl, cut⟩ := marks
  cases round <;> cases sticky <;> dsimp only at cut ⊢ <;> constructor <;> linarith

theorem Marks.shiftRightOne {marked : ExtendedMantissa} (marks : Marks marked value) :
    Marks marked.shiftRightOne (value / 2) := by
  obtain ⟨mantissa, round, sticky⟩ := marked
  obtain ⟨fraction, rfl, cut⟩ := marks
  have parts : (mantissa : ℚ) = 2 * (mantissa / 2 : ℕ) + (mantissa % 2 : ℕ) := by
    exact_mod_cast (Nat.div_add_mod mantissa 2).symm
  refine ⟨((mantissa % 2 : ℕ) + fraction) / 2, ?_, ?_⟩
  · rw [ExtendedMantissa.shiftRightOne]
    dsimp only
    linarith
  · unfold ExtendedMantissa.shiftRightOne
    rcases Nat.mod_two_eq_zero_or_one mantissa with even | odd
    · rw [even]
      cases round <;> cases sticky <;> dsimp at cut ⊢
      · rw [cut]; norm_num
      · constructor <;> linarith
      · rw [cut]; norm_num
      · constructor <;> linarith
    · rw [odd]
      cases round <;> cases sticky <;> dsimp at cut ⊢
      · rw [cut]; norm_num
      · constructor <;> linarith
      · rw [cut]; norm_num
      · constructor <;> linarith

theorem Marks.shiftRight {marked : ExtendedMantissa} (marks : Marks marked value) (count : ℕ) :
    Marks (marked >>> count) (value / 2 ^ count) := by
  induction count with
  | zero =>
      rw [pow_zero, div_one]
      exact marks
  | succ count ih =>
      rw [pow_succ, ← div_div]
      exact ih.shiftRightOne

theorem Marks.roundedMantissa {marked : ExtendedMantissa} (marks : Marks marked value) :
    (marked.roundedMantissa : ℤ) = halfEven value := by
  obtain ⟨mantissa, round, sticky⟩ := marked
  obtain ⟨fraction, rfl, cut⟩ := marks
  have floor : ⌊(mantissa : ℚ) + fraction⌋ = mantissa := by
    rw [Int.floor_eq_iff]
    cases round <;> cases sticky <;> dsimp only at cut <;> constructor <;> push_cast <;> linarith
  have fract : Int.fract ((mantissa : ℚ) + fraction) = fraction := by
    rw [Int.fract, floor, Int.cast_natCast, add_sub_cancel_left]
  rw [halfEven, floor, fract]
  cases round <;> cases sticky <;> dsimp only at cut
  · rw [cut, if_pos (by norm_num)]
    rfl
  · rw [if_pos cut.2]
    rfl
  · rw [cut, if_neg (by norm_num), if_neg (by norm_num)]
    rfl
  · rw [if_neg (by linarith), if_pos cut.1]
    rfl

/-! ## Numbers in one form -/

/-- The number that an unpacked single stands for, unless it is infinite or none. -/
def number? : UnpackedFloat → Option ℚ
  | .zero _ => some 0
  | .finite sign digits spot _ => some (unit sign * digits * 2 ^ spot)
  | _ => none

/-- The form that packing keeps: 24 digits, or fewer at the lowest place. -/
def IsCanonical : UnpackedFloat → Prop
  | .finite _ digits spot _ =>
      digits < 2 ^ 24 ∧ -149 ≤ spot ∧ (spot ≠ -149 → 2 ^ 23 ≤ digits)
  | _ => True

structure StandsFor (unpacked : UnpackedFloat) (value : ℚ) : Prop where
  canonical : IsCanonical unpacked
  number : number? unpacked = some value

theorem StandsFor.zero_or_finite {unpacked : UnpackedFloat} (stands : StandsFor unpacked value) :
    (∃ sign, unpacked = .zero sign ∧ value = 0) ∨
      ∃ sign digits spot some, unpacked = .finite sign digits spot some ∧
        value = unit sign * digits * 2 ^ spot := by
  obtain ⟨_, number⟩ := stands
  cases unpacked with
  | zero sign =>
      cases number
      exact .inl ⟨sign, rfl, rfl⟩
  | finite sign digits spot some =>
      cases number
      exact .inr ⟨sign, digits, spot, some, rfl, rfl⟩
  | infinity sign => cases number
  | notANumber => cases number

theorem StandsFor.representable {unpacked : UnpackedFloat} (stands : StandsFor unpacked value) :
    Representable value := by
  rcases stands.zero_or_finite with ⟨_, _, rfl⟩ | ⟨sign, digits, spot, _, rfl, rfl⟩
  · exact representable_zero
  · obtain ⟨few, above, _⟩ := stands.canonical
    have few : (digits : ℤ) ≤ 2 ^ 24 := by exact_mod_cast few.le
    refine ⟨sign.apply digits, spot, ?_, above, ?_⟩
    · cases sign
      · rw [Sign.apply, abs_neg, Nat.abs_cast]
        exact few
      · rw [Sign.apply, Nat.abs_cast]
        exact few
    · rw [apply_eq, Int.cast_natCast]

/-! ## Rounding with the bits cut off -/

theorem log_eq {digits : ℕ} (some : 0 < digits) (low : digits ≤ value) (high : value < digits + 1)
    (spot : ℤ) : Int.log 2 |value * 2 ^ spot| = digits.log2 + spot := by
  have unit : (0 : ℚ) < 2 ^ spot := zpow_pos (by norm_num) _
  have positive : (0 : ℚ) < digits := by exact_mod_cast some
  have positive : 0 < value * 2 ^ spot := mul_pos (positive.trans_le low) unit
  rw [abs_of_pos positive]
  have bottom : (2 : ℚ) ^ digits.log2 ≤ digits := by
    exact_mod_cast Nat.log2_self_le some.ne'
  have top : (digits : ℚ) + 1 ≤ 2 ^ (digits.log2 + 1) := by
    exact_mod_cast Nat.lt_log2_self
  apply le_antisymm
  · rw [← Int.lt_add_one_iff, ← Int.lt_zpow_iff_log_lt (by norm_num) positive]
    have size : value * 2 ^ spot < 2 ^ (digits.log2 + 1) * 2 ^ spot :=
      mul_lt_mul_of_pos_right (high.trans_le top) unit
    rw [← zpow_natCast, ← zpow_add₀ (by norm_num)] at size
    rw [add_right_comm]
    exact_mod_cast size
  · rw [← Int.zpow_le_iff_le_log (by norm_num) positive]
    have size : 2 ^ digits.log2 * 2 ^ spot ≤ value * 2 ^ spot :=
      mul_le_mul_of_nonneg_right (bottom.trans low) unit.le
    rw [← zpow_natCast, ← zpow_add₀ (by norm_num)] at size
    exact_mod_cast size

theorem targetExponent_eq (total : ℤ) :
    Format.binary32.targetExponent total = max (total - 24) (-149) :=
  rfl

/-- The machine shifts to the place at which the exact number is rounded. -/
theorem targetExponent_eq_place {digits : ℕ} (positive : 0 < value) (low : digits ≤ value)
    (high : value < digits + 1) (enough : spot ≤ -149 ∨ 2 ^ 23 ≤ digits) :
    Format.binary32.targetExponent (totalExponent digits spot) = place (value * 2 ^ spot) := by
  rw [targetExponent_eq, totalExponent, place]
  rcases Nat.eq_zero_or_pos digits with rfl | some
  · have below : spot ≤ -149 := by
      rcases enough with below | many
      · exact below
      · norm_num at many
    rw [Nat.cast_zero, zero_add] at high
    have unit : (0 : ℚ) < 2 ^ spot := zpow_pos (by norm_num) _
    have product := mul_pos positive unit
    have small : value * 2 ^ spot < (2 : ℕ) ^ spot := by
      rw [Nat.cast_ofNat]
      exact mul_lt_of_lt_one_left unit high
    rw [Int.lt_zpow_iff_log_lt (by norm_num) product] at small
    rw [abs_of_pos product, max_eq_right, max_eq_right]
    · linarith
    · rw [Nat.log2_zero]
      push_cast
      linarith
  · rw [log_eq some low high]
    congr 1
    ring

theorem le_targetExponent {digits : ℕ} (enough : spot ≤ -149 ∨ 2 ^ 23 ≤ digits) :
    spot ≤ Format.binary32.targetExponent (totalExponent digits spot) := by
  rw [targetExponent_eq, totalExponent, le_max_iff]
  rcases enough with below | many
  · right
    exact below
  · left
    have long : 23 ≤ digits.log2 := (Nat.le_log2 (by omega)).mpr many
    omega

theorem shiftToTargetExponent_eq {digits : ℕ}
    (left : spot ≤ Format.binary32.targetExponent (totalExponent digits spot))
    (accuracy : Accuracy) :
    shiftToTargetExponent .binary32 digits spot accuracy =
      (ExtendedMantissa.ofMantissaAndAccuracy digits accuracy >>>
        (Format.binary32.targetExponent (totalExponent digits spot) - spot).toNat,
      Format.binary32.targetExponent (totalExponent digits spot)) := by
  rw [shiftToTargetExponent, shiftToExponent]
  rw [Int.toNat_of_nonneg (sub_nonneg.mpr left), add_sub_cancel]

/-- The second shift makes up for a carry into a 25th digit. -/
theorem carried {digits : ℕ} (few : digits ≤ 2 ^ 24) (above : -149 ≤ spot)
    (many : spot ≠ -149 → 2 ^ 23 ≤ digits) :
    ∃ (marked : ExtendedMantissa) (place : ℤ),
      shiftToTargetExponent .binary32 digits spot .exact = (marked, place) ∧
      (marked.mantissa : ℚ) * 2 ^ place = digits * 2 ^ spot ∧ marked.mantissa < 2 ^ 24 ∧
      -149 ≤ place ∧ (place ≠ -149 → 2 ^ 23 ≤ marked.mantissa) := by
  rcases few.lt_or_eq with fewer | rfl
  · have short : digits.log2 ≤ 23 := by
      rcases Nat.eq_zero_or_pos digits with rfl | some
      · norm_num
      · exact Nat.lt_succ_iff.mp ((Nat.log2_lt some.ne').mpr fewer)
    have right : Format.binary32.targetExponent (totalExponent digits spot) ≤ spot := by
      rw [targetExponent_eq, totalExponent, max_le_iff]
      constructor
      · linarith
      · exact above
    have none : (Format.binary32.targetExponent (totalExponent digits spot) - spot).toNat = 0 := by
      rw [Int.toNat_eq_zero]
      linarith
    refine ⟨.ofMantissaAndAccuracy digits .exact, spot, ?_, rfl, fewer, above, many⟩
    rw [shiftToTargetExponent, shiftToExponent]
    rw [none, Nat.cast_zero, add_zero]
    rfl
  · have next : Format.binary32.targetExponent (totalExponent (2 ^ 24) spot) = spot + 1 := by
      rw [targetExponent_eq, totalExponent, Nat.log2_two_pow, max_eq_left]
      · push_cast
        ring
      · push_cast
        linarith
    have half : (ExtendedMantissa.ofMantissaAndAccuracy (2 ^ 24) .exact >>>
        (1 : ℤ).toNat).mantissa = 2 ^ 23 := rfl
    refine ⟨ExtendedMantissa.ofMantissaAndAccuracy (2 ^ 24) .exact >>> (1 : ℤ).toNat, spot + 1,
      ?_, ?_, ?_, ?_, ?_⟩
    · rw [shiftToTargetExponent_eq (by rw [next]; linarith), next, add_sub_cancel_left]
    · rw [half, zpow_add_one₀ (by norm_num)]
      push_cast
      ring
    · rw [half]
      norm_num
    · linarith
    · intro _
      rw [half]

/-- The bits that are kept round as the exact number does. -/
theorem roundWithAccuracy_standsFor {digits : ℕ} {accuracy : Accuracy}
    (marks : Marks (ExtendedMantissa.ofMantissaAndAccuracy digits accuracy) value)
    (positive : 0 < value) (enough : spot ≤ -149 ∨ 2 ^ 23 ≤ digits) (sign : Sign) :
    StandsFor (roundWithAccuracy .binary32 sign digits spot accuracy)
      (unit sign * nearest (value * 2 ^ spot)) := by
  obtain ⟨low, high⟩ := marks.bounds
  rw [mantissa_eq] at low high
  have target := targetExponent_eq_place positive low high enough
  have left := le_targetExponent enough
  have unit : (0 : ℚ) < 2 ^ spot := zpow_pos (by norm_num) _
  have product := mul_pos positive unit
  -- The shift leaves the exact number in units of the place at which it is rounded.
  have shifted := marks.shiftRight (place (value * 2 ^ spot) - spot).toNat
  have scaled : value / 2 ^ (place (value * 2 ^ spot) - spot).toNat =
      value * 2 ^ spot / 2 ^ place (value * 2 ^ spot) := by
    rw [target] at left
    rw [← zpow_natCast, Int.toNat_of_nonneg (sub_nonneg.mpr left), zpow_sub₀ (by norm_num)]
    field_simp
  rw [scaled] at shifted
  have rounded := shifted.roundedMantissa
  have few := abs_digits_le (value * 2 ^ spot)
  rw [← rounded, Nat.abs_cast] at few
  have many : place (value * 2 ^ spot) ≠ -149 → 2 ^ 23 ≤ |halfEven _| := fun above =>
    le_abs_digits product.ne' ((lowest_place_le _).lt_of_ne above.symm)
  rw [← rounded, Nat.abs_cast] at many
  obtain ⟨marked, spot', carry, same, short, above, full⟩ :=
    carried (by exact_mod_cast few) (lowest_place_le (value * 2 ^ spot))
      (fun above => by exact_mod_cast many above)
  have result : (marked.mantissa : ℚ) * 2 ^ spot' = nearest (value * 2 ^ spot) := by
    rw [same, nearest, ← rounded, Int.cast_natCast]
  rw [roundWithAccuracy, shiftToTargetExponent_eq left, target]
  dsimp only
  rw [carry]
  dsimp only
  split
  · next none =>
      rw [← result, none, Nat.cast_zero, zero_mul, mul_zero]
      exact ⟨trivial, rfl⟩
  · refine ⟨⟨short, above, full⟩, ?_⟩
    rw [number?, mul_assoc, result]

theorem round_standsFor {digits : ℕ} (some : 0 < digits) (sign : Sign) (spot : ℤ) :
    StandsFor (round .binary32 sign digits spot) (unit sign * nearest (digits * 2 ^ spot)) := by
  generalize target : Format.binary32.targetExponent (totalExponent digits spot) = place
  have moved : ((digits <<< (spot - place).toNat : ℕ) : ℚ) * 2 ^ (spot - (spot - place).toNat) =
      digits * 2 ^ spot := by
    rw [Nat.shiftLeft_eq, zpow_sub₀ (by norm_num), zpow_natCast]
    push_cast
    field_simp
  have bottom := Nat.log2_self_le some.ne'
  have enough : spot - (spot - place).toNat ≤ -149 ∨
      2 ^ 23 ≤ digits <<< (spot - place).toNat := by
    rw [targetExponent_eq, totalExponent] at target
    rcases le_or_gt spot place with left | right
    · rw [Int.toNat_of_nonpos (by linarith), Nat.cast_zero, sub_zero, Nat.shiftLeft_zero]
      rw [← target, le_max_iff] at left
      rcases left with long | below
      · right
        exact (Nat.le_log2 some.ne').mp (by linarith)
      · left
        exact below
    · rw [Int.toNat_of_nonneg (by linarith), sub_sub_cancel]
      rcases max_choice ((digits.log2 : ℤ) + 1 + spot - 24) (-149) with long | below
      · right
        have count : 23 = digits.log2 + (spot - place).toNat := by omega
        rw [count, pow_add, Nat.shiftLeft_eq]
        exact Nat.mul_le_mul_right _ bottom
      · left
        rw [← target, below]
  have positive : (0 : ℚ) < (digits <<< (spot - place).toNat : ℕ) := by
    rw [Nat.shiftLeft_eq]
    positivity
  rw [Float.Model.UnpackedFloat.round, target, decreaseExponent]
  dsimp only
  rw [← moved]
  exact roundWithAccuracy_standsFor (marks_exact _) positive enough sign

theorem normalize_standsFor (whole spot : ℤ) (sign : Sign) :
    StandsFor (UnpackedFloat.normalize .binary32 whole spot sign) (nearest (whole * 2 ^ spot)) := by
  rw [UnpackedFloat.normalize]
  rcases lt_trichotomy whole 0 with negative | rfl | positive
  · rw [Int.compare_eq_lt.mpr negative]
    have some : 0 < (-whole).toNat := by omega
    have rounded := round_standsFor some .negative spot
    have same : ((-whole).toNat : ℚ) = -whole := by
      exact_mod_cast Int.toNat_of_nonneg (by omega : 0 ≤ -whole)
    rw [same, neg_mul, nearest_neg, unit, neg_one_mul, neg_neg] at rounded
    exact rounded
  · rw [Int.cast_zero, zero_mul, nearest_zero]
    exact ⟨trivial, rfl⟩
  · rw [Int.compare_eq_gt.mpr positive]
    have some : 0 < whole.toNat := by omega
    have rounded := round_standsFor some .positive spot
    have same : (whole.toNat : ℚ) = whole := by
      exact_mod_cast Int.toNat_of_nonneg positive.le
    rw [same, unit, one_mul] at rounded
    exact rounded

/-! ## Operations -/

variable {first second : UnpackedFloat} {x y : ℚ}

theorem zero_standsFor (sign : Sign) : StandsFor (.zero sign) 0 :=
  ⟨trivial, rfl⟩

theorem StandsFor.neg (stands : StandsFor first x) : StandsFor first.neg (-x) := by
  rcases stands.zero_or_finite with ⟨sign, rfl, rfl⟩ | ⟨sign, digits, spot, some, rfl, rfl⟩
  · rw [neg_zero]
    exact zero_standsFor _
  · refine ⟨stands.canonical, ?_⟩
    rw [Float.Model.UnpackedFloat.neg, number?, unit_neg, neg_mul, neg_mul]

theorem shiftLeft_mul (digits : ℕ) {low spot : ℤ} (below : low ≤ spot) :
    ((digits <<< (spot - low).toNat : ℕ) : ℚ) * 2 ^ low = digits * 2 ^ spot := by
  rw [Nat.shiftLeft_eq]
  push_cast
  rw [mul_assoc, ← zpow_natCast, ← zpow_add₀ (by norm_num),
    Int.toNat_of_nonneg (sub_nonneg.mpr below), sub_add_cancel]

/-- Two numbers brought to the lower of their places add up exactly. -/
theorem aligned (sign sign' : Sign) (digits digits' : ℕ) (spot spot' : ℤ) :
    ((sign.apply (digits <<< (spot - min spot spot').toNat : ℕ) +
        sign'.apply (digits' <<< (spot' - min spot spot').toNat : ℕ) : ℤ) : ℚ) *
          2 ^ min spot spot' =
      unit sign * digits * 2 ^ spot + unit sign' * digits' * 2 ^ spot' := by
  have left := shiftLeft_mul digits (min_le_left spot spot')
  have right := shiftLeft_mul digits' (min_le_right spot spot')
  rw [Int.cast_add, apply_eq, apply_eq, Int.cast_natCast, Int.cast_natCast, add_mul, mul_assoc,
    mul_assoc, left, right, ← mul_assoc, ← mul_assoc]

theorem StandsFor.add (stands : StandsFor first x) (stands' : StandsFor second y) :
    StandsFor (first.add .binary32 second) (nearest (x + y)) := by
  have exact := nearest_of_representable stands.representable
  have exact' := nearest_of_representable stands'.representable
  rcases stands.zero_or_finite with ⟨sign, rfl, rfl⟩ | ⟨sign, digits, spot, some, rfl, rfl⟩
  · rw [zero_add, exact']
    rcases stands'.zero_or_finite with ⟨sign', rfl, rfl⟩ | ⟨_, _, _, _, rfl, rfl⟩
    · rw [UnpackedFloat.add]
      split <;> exact zero_standsFor _
    · exact stands'
  · rcases stands'.zero_or_finite with ⟨sign', rfl, rfl⟩ | ⟨sign', digits', spot', some', rfl, rfl⟩
    · rw [add_zero, exact]
      exact stands
    · rw [← aligned]
      exact normalize_standsFor _ _ _

theorem StandsFor.sub (stands : StandsFor first x) (stands' : StandsFor second y) :
    StandsFor (first.sub .binary32 second) (nearest (x - y)) := by
  have exact := nearest_of_representable stands.representable
  have exact' := nearest_of_representable stands'.neg.representable
  rw [sub_eq_add_neg]
  rcases stands.zero_or_finite with ⟨sign, rfl, rfl⟩ | ⟨sign, digits, spot, some, rfl, rfl⟩
  · rw [zero_add, exact']
    rcases stands'.zero_or_finite with ⟨sign', rfl, rfl⟩ | ⟨_, _, _, _, rfl, rfl⟩
    · rw [UnpackedFloat.sub, neg_zero]
      split <;> exact zero_standsFor _
    · exact stands'.neg
  · rcases stands'.zero_or_finite with ⟨sign', rfl, rfl⟩ | ⟨sign', digits', spot', some', rfl, rfl⟩
    · rw [neg_zero, add_zero, exact]
      exact stands
    · have turned (whole : ℤ) : (-sign').apply whole = -sign'.apply whole := by
        cases sign'
        · exact (neg_neg whole).symm
        · rfl
      rw [← neg_mul, ← neg_mul, ← unit_neg, ← aligned, turned, ← sub_eq_add_neg]
      exact normalize_standsFor _ _ _

theorem StandsFor.mul (stands : StandsFor first x) (stands' : StandsFor second y) :
    StandsFor (first.mul .binary32 second) (nearest (x * y)) := by
  rcases stands.zero_or_finite with ⟨sign, rfl, rfl⟩ | ⟨sign, digits, spot, some, rfl, rfl⟩
  · rw [zero_mul, nearest_zero]
    rcases stands'.zero_or_finite with ⟨sign', rfl, rfl⟩ | ⟨_, _, _, _, rfl, rfl⟩
    · exact zero_standsFor _
    · exact zero_standsFor _
  · rcases stands'.zero_or_finite with ⟨sign', rfl, rfl⟩ | ⟨sign', digits', spot', some', rfl, rfl⟩
    · rw [mul_zero, nearest_zero]
      exact zero_standsFor _
    · obtain ⟨_, above, many⟩ := stands.canonical
      obtain ⟨_, above', many'⟩ := stands'.canonical
      -- Unless both lie at the lowest place, one of them has all its digits.
      have enough : spot + spot' ≤ -149 ∨ 2 ^ 23 ≤ digits * digits' := by
        by_cases lowest : spot = -149
        · by_cases lowest' : spot' = -149
          · left
            omega
          · right
            exact (many' lowest').trans (Nat.le_mul_of_pos_left _ some)
        · right
          exact (many lowest).trans (Nat.le_mul_of_pos_right _ some')
      have product : (0 : ℚ) < (digits * digits' : ℕ) := by
        exact_mod_cast Nat.mul_pos some some'
      have rounded := roundWithAccuracy_standsFor (marks_exact (digits * digits')) product enough
        (sign * sign')
      have same : unit sign * digits * 2 ^ spot * (unit sign' * digits' * 2 ^ spot') =
          unit (sign * sign') * ((digits * digits' : ℕ) * 2 ^ (spot + spot')) := by
        rw [unit_mul, zpow_add₀ (by norm_num)]
        push_cast
        ring
      rw [same, nearest_unit_mul]
      exact rounded

/-- The quotient is computed to so many digits that two bits are enough for the rest. -/
theorem enough_of_div {digits digits' : ℕ} {spot spot' low : ℤ} (some : 0 < digits)
    (some' : 0 < digits')
    (lowest : low = min (spot - spot') (Format.binary32.targetExponent
      (totalExponent digits spot - totalExponent digits' spot'))) :
    low ≤ -149 ∨ 2 ^ 23 ≤ (digits <<< (spot - spot' - low).toNat) / digits' := by
  rw [targetExponent_eq, totalExponent, totalExponent] at lowest
  have long : low ≤ -149 ∨ digits'.log2 + 24 ≤ digits.log2 + (spot - spot' - low).toNat := by
    omega
  refine long.imp_right fun long => ?_
  rw [Nat.le_div_iff_mul_le some', Nat.shiftLeft_eq]
  calc 2 ^ 23 * digits' ≤ 2 ^ 23 * 2 ^ (digits'.log2 + 1) :=
        Nat.mul_le_mul_left _ Nat.lt_log2_self.le
    _ = 2 ^ (digits'.log2 + 24) := by ring
    _ ≤ 2 ^ (digits.log2 + (spot - spot' - low).toNat) := Nat.pow_le_pow_right (by norm_num) long
    _ = 2 ^ digits.log2 * 2 ^ (spot - spot' - low).toNat := pow_add _ _ _
    _ ≤ digits * 2 ^ (spot - spot' - low).toNat :=
        Nat.mul_le_mul_right _ (Nat.log2_self_le some.ne')

theorem StandsFor.div (stands : StandsFor first x) (stands' : StandsFor second y) (some : y ≠ 0) :
    StandsFor (first.div .binary32 second) (nearest (x / y)) := by
  rcases stands'.zero_or_finite with ⟨_, _, rfl⟩ | ⟨sign', digits', spot', some', rfl, rfl⟩
  · exact absurd rfl some
  rcases stands.zero_or_finite with ⟨sign, rfl, rfl⟩ | ⟨sign, digits, spot, some, rfl, rfl⟩
  · rw [zero_div, nearest_zero]
    exact zero_standsFor _
  generalize lowest : min (spot - spot') (Format.binary32.targetExponent
    (totalExponent digits spot - totalExponent digits' spot')) = low
  have enough := enough_of_div some some' lowest.symm
  have positive : (0 : ℚ) < digits := by exact_mod_cast some
  have positive' : (0 : ℚ) < digits' := by exact_mod_cast some'
  have marks := marks_fraction (digits <<< (spot - spot' - low).toNat / digits')
    (Nat.mod_lt (digits <<< (spot - spot' - low).toNat) some')
  have quotient : ((digits <<< (spot - spot' - low).toNat / digits' : ℕ) : ℚ) +
      (digits <<< (spot - spot' - low).toNat % digits' : ℕ) / digits' =
      (digits <<< (spot - spot' - low).toNat : ℕ) / digits' := by
    rw [eq_div_iff positive'.ne', add_mul, div_mul_cancel₀ _ positive'.ne', mul_comm]
    exact_mod_cast Nat.div_add_mod _ _
  rw [quotient] at marks
  have moved : ((digits <<< (spot - spot' - low).toNat : ℕ) : ℚ) * 2 ^ low =
      digits * 2 ^ (spot - spot') :=
    shiftLeft_mul digits (lowest ▸ min_le_left _ _)
  have shifted : (0 : ℚ) < (digits <<< (spot - spot' - low).toNat : ℕ) := by
    rw [Nat.shiftLeft_eq]
    positivity
  have same : unit sign * digits * 2 ^ spot / (unit sign' * digits' * 2 ^ spot') =
      unit (sign / sign') *
        ((digits <<< (spot - spot' - low).toNat : ℕ) / digits' * 2 ^ low) := by
    have square := unit_mul_self sign'
    have some' : unit sign' ≠ 0 := left_ne_zero_of_mul_eq_one square
    rw [div_mul_eq_mul_div, moved, unit_div, zpow_sub₀ (by norm_num)]
    field_simp
    rw [pow_two, square, mul_one]
  have rounded := roundWithAccuracy_standsFor marks (div_pos shifted positive') enough
    (sign / sign')
  rw [same, nearest_unit_mul, UnpackedFloat.div, divCore, lowest]
  exact rounded

/-! ## Comparing -/

/-- In the one form the place decides before the digits do. -/
theorem compare_digits {digits digits' : ℕ} {spot spot' : ℤ}
    (canonical : digits < 2 ^ 24 ∧ -149 ≤ spot ∧ (spot ≠ -149 → 2 ^ 23 ≤ digits))
    (canonical' : digits' < 2 ^ 24 ∧ -149 ≤ spot' ∧ (spot' ≠ -149 → 2 ^ 23 ≤ digits')) :
    (compare spot spot').then (compare digits digits') =
      compare ((digits : ℚ) * 2 ^ spot) (digits' * 2 ^ spot') := by
  have farther {digits digits' : ℕ} {spot spot' : ℤ} (few : digits < 2 ^ 24)
      (many : 2 ^ 23 ≤ digits') (less : spot < spot') :
      (digits : ℚ) * 2 ^ spot < digits' * 2 ^ spot' := by
    have unit : (0 : ℚ) < 2 ^ spot := zpow_pos (by norm_num) _
    have unit' : (0 : ℚ) < 2 ^ spot' := zpow_pos (by norm_num) _
    have next : (2 : ℚ) ^ (spot + 1) ≤ 2 ^ spot' := zpow_le_zpow_right₀ (by norm_num) less
    have few : (digits : ℚ) < 2 ^ 24 := by exact_mod_cast few
    have many : (2 : ℚ) ^ 23 ≤ digits' := by exact_mod_cast many
    calc (digits : ℚ) * 2 ^ spot < 2 ^ 24 * 2 ^ spot := mul_lt_mul_of_pos_right few unit
      _ = 2 ^ 23 * 2 ^ (spot + 1) := by rw [zpow_add_one₀ (by norm_num)]; ring
      _ ≤ 2 ^ 23 * 2 ^ spot' := mul_le_mul_of_nonneg_left next (by norm_num)
      _ ≤ digits' * 2 ^ spot' := mul_le_mul_of_nonneg_right many unit'.le
  obtain ⟨few, above, many⟩ := canonical
  obtain ⟨few', above', many'⟩ := canonical'
  rcases lt_trichotomy spot spot' with less | rfl | more
  · rw [compare_lt_iff_lt.mpr less,
      compare_lt_iff_lt.mpr (farther few (many' (above.trans_lt less).ne') less)]
    rfl
  · have unit : (0 : ℚ) < 2 ^ spot := zpow_pos (by norm_num) _
    rw [compare_eq_iff_eq.mpr rfl]
    rcases lt_trichotomy digits digits' with less | rfl | more
    · have less' : (digits : ℚ) < digits' := by exact_mod_cast less
      rw [compare_lt_iff_lt.mpr less,
        compare_lt_iff_lt.mpr (mul_lt_mul_of_pos_right less' unit)]
      rfl
    · rw [compare_eq_iff_eq.mpr rfl, compare_eq_iff_eq.mpr rfl]
      rfl
    · have more' : (digits' : ℚ) < digits := by exact_mod_cast more
      rw [compare_gt_iff_gt.mpr more,
        compare_gt_iff_gt.mpr (mul_lt_mul_of_pos_right more' unit)]
      rfl
  · rw [compare_gt_iff_gt.mpr more,
      compare_gt_iff_gt.mpr (farther few' (many (above'.trans_lt more).ne') more)]
    rfl

theorem finite_pos {digits : ℕ} (some : 0 < digits) (spot : ℤ) :
    (0 : ℚ) < digits * 2 ^ spot := by
  have some : (0 : ℚ) < digits := by exact_mod_cast some
  exact mul_pos some (zpow_pos (by norm_num) _)

theorem compare_neg_neg (x y : ℚ) : compare (-x) (-y) = (compare x y).swap := by
  rcases lt_trichotomy x y with less | rfl | more
  · rw [compare_lt_iff_lt.mpr less, compare_gt_iff_gt.mpr (neg_lt_neg less)]
    rfl
  · rw [compare_eq_iff_eq.mpr rfl, compare_eq_iff_eq.mpr rfl]
    rfl
  · rw [compare_gt_iff_gt.mpr more, compare_lt_iff_lt.mpr (neg_lt_neg more)]
    rfl

theorem StandsFor.compare (stands : StandsFor first x) (stands' : StandsFor second y) :
    first.compare second = .some (compare x y) := by
  rcases stands.zero_or_finite with ⟨sign, rfl, rfl⟩ | ⟨sign, digits, spot, some, rfl, rfl⟩
  · rcases stands'.zero_or_finite with ⟨sign', rfl, rfl⟩ | ⟨sign', digits', spot', some', rfl, rfl⟩
    · rfl
    · have positive := finite_pos some' spot'
      cases sign'
      · rw [unit, neg_mul, one_mul, neg_mul,
          compare_gt_iff_gt.mpr (neg_lt_zero.mpr positive)]
        rfl
      · rw [unit, one_mul, compare_lt_iff_lt.mpr positive]
        rfl
  · have positive := finite_pos some spot
    rcases stands'.zero_or_finite with ⟨sign', rfl, rfl⟩ | ⟨sign', digits', spot', some', rfl, rfl⟩
    · cases sign
      · rw [unit, neg_mul, one_mul, neg_mul, compare_lt_iff_lt.mpr (neg_lt_zero.mpr positive)]
        rfl
      · rw [unit, one_mul, compare_gt_iff_gt.mpr positive]
        rfl
    · have positive' := finite_pos some' spot'
      have sorted := compare_digits stands.canonical stands'.canonical
      cases sign <;> cases sign' <;> simp only [unit, neg_mul, one_mul, UnpackedFloat.compare]
      · rw [sorted, compare_neg_neg]
      · rw [compare_lt_iff_lt.mpr (by linarith)]
      · rw [compare_gt_iff_gt.mpr (by linarith)]
      · rw [sorted]

/-! ## Packing -/

section Components

variable {format : Format} {exponent : BitVec format.exponentBits}
  {mantissa : BitVec format.mantissaBitsWithoutImplicit}

theorem unpack_normal (finite : exponent ≠ -1#_) (normal : exponent ≠ 0#_) (sign : Sign)
    (some : 0 < (1#1 ++ mantissa).toNat) :
    UnpackedFloat.unpack format (packComponents format sign exponent mantissa) =
      .finite sign (1#1 ++ mantissa).toNat
        (exponent.toNat - (format.exponentBias + format.mantissaBitsWithoutImplicit)) some := by
  simp only [UnpackedFloat.unpack, unpackSign_packComponents, unpackExponent_packComponents,
    unpackMantissa_packComponents, Sign.ofBitVec_toBitVec]
  rw [if_neg finite, if_neg normal]

theorem unpack_subnormal (finite : exponent ≠ -1#_) (subnormal : exponent = 0#_) (sign : Sign)
    (present : mantissa ≠ 0#_) (some : 0 < mantissa.toNat) :
    UnpackedFloat.unpack format (packComponents format sign exponent mantissa) =
      .finite sign mantissa.toNat
        (exponent.toNat - (format.exponentBias + format.mantissaBitsWithoutImplicit) + 1) some := by
  simp only [UnpackedFloat.unpack, unpackSign_packComponents, unpackExponent_packComponents,
    unpackMantissa_packComponents, Sign.ofBitVec_toBitVec]
  rw [if_neg finite, if_pos subnormal, dif_neg present]

theorem pack_of_fits {digits : ℕ} {spot : ℤ}
    (fits : (spot + format.exponentBias + format.mantissaBitsWithoutImplicit).toNat + 1 <
      2 ^ format.exponentBits) (sign : Sign) (some : 0 < digits) :
    UnpackedFloat.pack format (.finite sign digits spot some) =
      if digits.log2 + 1 = format.mantissaBits then
        packComponents format sign
          (BitVec.ofNat _ (spot + format.exponentBias + format.mantissaBitsWithoutImplicit).toNat)
          (BitVec.ofNat _ digits)
      else packComponents format sign 0#_ (BitVec.ofNat _ digits) := by
  rw [UnpackedFloat.pack]
  exact if_neg (not_le.mpr fits)

end Components

theorem finite_congr {digits digits' : ℕ} {spot spot' : ℤ} (same : digits = digits')
    (same' : spot = spot') (sign : Sign) (some : 0 < digits) (some' : 0 < digits') :
    UnpackedFloat.finite sign digits spot some = .finite sign digits' spot' some' := by
  subst same same'
  rfl

theorem toNat_implicit (digits : ℕ) (many : 2 ^ 23 ≤ digits) (few : digits < 2 ^ 24) :
    (1#1 ++ BitVec.ofNat 23 digits).toNat = digits := by
  rw [BitVec.toNat_append, BitVec.toNat_ofNat, BitVec.toNat_ofNat,
    ← Nat.shiftLeft_add_eq_or_of_lt (Nat.mod_lt _ (by norm_num)), Nat.shiftLeft_eq]
  omega

/-- What is in the one form and not too large has a place that 8 bits hold. -/
theorem spot_le_of_abs_lt {digits : ℕ} {spot : ℤ} (many : spot ≠ -149 → 2 ^ 23 ≤ digits)
    (small : |unit sign * (digits * 2 ^ spot)| < 2 ^ 128) : spot ≤ 104 := by
  by_contra beyond
  rw [not_le] at beyond
  have many : (2 : ℚ) ^ 23 ≤ digits := by exact_mod_cast many (by omega)
  have far : (2 : ℚ) ^ (105 : ℤ) ≤ 2 ^ spot := zpow_le_zpow_right₀ (by norm_num) beyond
  have large := mul_le_mul many far (by norm_num) (by linarith)
  rw [abs_unit_mul] at small
  have size := le_abs_self ((digits : ℚ) * 2 ^ spot)
  norm_num at large
  linarith

theorem unpack_of_full {digits : ℕ} {spot : ℤ} (many : 2 ^ 23 ≤ digits) (few : digits < 2 ^ 24)
    (above : -149 ≤ spot) (top : spot ≤ 104) (sign : Sign) (some : 0 < digits) :
    UnpackedFloat.unpack .binary32 (packComponents .binary32 sign
      (BitVec.ofNat 8 (spot + 150).toNat) (BitVec.ofNat 23 digits)) =
      .finite sign digits spot some := by
  have exponent : (BitVec.ofNat 8 (spot + 150).toNat).toNat = (spot + 150).toNat := by
    rw [BitVec.toNat_ofNat, Nat.mod_eq_of_lt (by omega)]
  have lowest : (0#8).toNat = 0 := rfl
  have highest : (-1#8).toNat = 255 := rfl
  have finite : BitVec.ofNat 8 (spot + 150).toNat ≠ -1#8 := fun same => by
    have same := congrArg BitVec.toNat same
    omega
  have normal : BitVec.ofNat 8 (spot + 150).toNat ≠ 0#8 := fun same => by
    have same := congrArg BitVec.toNat same
    omega
  have kept := toNat_implicit digits many few
  have here : ((BitVec.ofNat 8 (spot + 150).toNat).toNat : ℤ) - ((127 : ℕ) + (23 : ℕ)) =
      spot := by omega
  exact (@unpack_normal .binary32 _ _ finite normal sign (by rw [kept]; exact some)).trans
    (finite_congr kept here sign _ some)

theorem unpack_of_short {digits : ℕ} (short : digits < 2 ^ 23) (sign : Sign) (some : 0 < digits) :
    UnpackedFloat.unpack .binary32 (packComponents .binary32 sign 0#8 (BitVec.ofNat 23 digits)) =
      .finite sign digits (-149) some := by
  have kept : (BitVec.ofNat 23 digits).toNat = digits := by
    rw [BitVec.toNat_ofNat, Nat.mod_eq_of_lt short]
  have present : BitVec.ofNat 23 digits ≠ 0#23 := fun none => by
    have none := congrArg BitVec.toNat none
    have zero : (0#23).toNat = 0 := rfl
    omega
  have here : ((0#8).toNat : ℤ) - ((127 : ℕ) + (23 : ℕ)) + 1 = -149 := rfl
  exact (@unpack_subnormal .binary32 _ _ (by decide) rfl sign present
    (by rw [kept]; exact some)).trans (finite_congr kept here sign _ some)

/-- What is in the one form and not too large gets through 32 bits. -/
theorem unpack_pack {unpacked : UnpackedFloat} (stands : StandsFor unpacked value)
    (small : |value| < 2 ^ 128) :
    UnpackedFloat.unpack .binary32 (UnpackedFloat.pack .binary32 unpacked) = unpacked := by
  rcases stands.zero_or_finite with ⟨sign, rfl, rfl⟩ | ⟨sign, digits, spot, some, rfl, rfl⟩
  · cases sign <;> rfl
  obtain ⟨few, above, many⟩ := stands.canonical
  rw [mul_assoc] at small
  have top := spot_le_of_abs_lt many small
  have biased : (spot + Format.binary32.exponentBias +
      Format.binary32.mantissaBitsWithoutImplicit).toNat = (spot + 150).toNat := by
    change (spot + (127 : ℕ) + (23 : ℕ)).toNat = _
    omega
  have fits : (spot + 150).toNat + 1 < 2 ^ 8 := by omega
  rw [pack_of_fits (by rw [biased]; exact fits), biased]
  by_cases full : digits.log2 + 1 = Format.binary32.mantissaBits
  · rw [if_pos full]
    change digits.log2 + 1 = 24 at full
    exact unpack_of_full ((Nat.le_log2 some.ne').mp (by omega)) few above top sign some
  · rw [if_neg full]
    change ¬digits.log2 + 1 = 24 at full
    have short : digits < 2 ^ 23 := by
      by_contra many
      have long := (Nat.le_log2 some.ne').mpr (not_lt.mp many)
      have bound := (Nat.log2_lt some.ne').mpr few
      omega
    obtain rfl : spot = -149 := by
      by_contra higher
      exact absurd (many higher) (not_le.mpr short)
    exact unpack_of_short short sign some

/-- Whatever the 32 bits are. -/
theorem unpack_isCanonical (bits : BitVec Format.binary32.numBits) :
    IsCanonical (UnpackedFloat.unpack .binary32 bits) := by
  have bias : (Format.binary32.exponentBias : ℤ) = 127 := rfl
  rw [UnpackedFloat.unpack]
  dsimp only
  split
  · split <;> exact trivial
  · split
    · next subnormal =>
        split
        · exact trivial
        · have zero : ((unpackExponent bits).toNat : ℤ) = 0 := by
            rw [subnormal]
            rfl
          refine ⟨(unpackMantissa bits).isLt.trans (by decide), ?_, fun higher => ?_⟩
          · rw [zero, bias]
            norm_num
          · rw [zero, bias] at higher
            norm_num at higher
    · next normal =>
        have some : 0 < (unpackExponent bits).toNat :=
          Nat.pos_of_ne_zero fun zero => normal (BitVec.eq_of_toNat_eq zero)
        refine ⟨(1#1 ++ unpackMantissa bits).isLt, ?_, fun _ => ?_⟩
        · rw [bias]
          omega
        · rw [BitVec.toNat_append, ← Nat.shiftLeft_add_eq_or_of_lt (unpackMantissa bits).isLt]
          exact Nat.le_add_right _ _

/-! ## Dropping the fraction -/

/-- The whole number next to the value towards zero. -/
def whole (value : ℚ) : ℤ :=
  if 0 ≤ value then ⌊value⌋ else ⌈value⌉

theorem whole_neg (value : ℚ) : whole (-value) = -whole value := by
  rcases lt_trichotomy value 0 with negative | rfl | positive
  · rw [whole, whole, if_pos (by linarith), if_neg (by linarith), Int.floor_neg]
  · rfl
  · rw [whole, whole, if_neg (by linarith), if_pos positive.le, Int.ceil_neg]

theorem whole_intCast (number : ℤ) : whole (number : ℚ) = number := by
  rw [whole]
  split_ifs
  · exact Int.floor_intCast number
  · exact Int.ceil_intCast number

theorem whole_mono (order : x ≤ y) : whole x ≤ whole y := by
  rcases le_or_gt 0 x with positive | negative
  · rw [whole, whole, if_pos positive, if_pos (positive.trans order)]
    exact Int.floor_le_floor order
  · rw [whole, if_neg (not_le.mpr negative), whole]
    split_ifs with positive
    · exact (Int.ceil_le.mpr (by exact_mod_cast negative.le)).trans (Int.floor_nonneg.mpr positive)
    · exact Int.ceil_le_ceil order

theorem roundToInt_eq (sign : Sign) (digits : ℕ) (spot : ℤ) :
    roundToInt sign digits spot = sign.apply ⌊(digits : ℚ) * 2 ^ spot⌋ := by
  rw [roundToInt, decreaseExponent]
  dsimp only
  rw [shiftToExponent, sub_zero]
  congr 1
  symm
  rw [Int.floor_eq_iff, Int.cast_natCast]
  rcases le_or_gt 0 spot with left | right
  · have none : (0 - (spot - (spot.toNat : ℤ))).toNat = 0 := by omega
    rw [none]
    change ((digits <<< spot.toNat : ℕ) : ℚ) ≤ _ ∧ _ < ((digits <<< spot.toNat : ℕ) : ℚ) + 1
    have moved := shiftLeft_mul digits left
    rw [sub_zero, zpow_zero, mul_one] at moved
    rw [moved]
    constructor <;> linarith
  · have none : spot.toNat = 0 := by omega
    have far : (0 - (spot - ((0 : ℕ) : ℤ))).toNat = (-spot).toNat := by omega
    rw [none, far, Nat.shiftLeft_zero]
    have bounds := ((marks_exact digits).shiftRight (-spot).toNat).bounds
    have same : (digits : ℚ) / 2 ^ (-spot).toNat = digits * 2 ^ spot := by
      rw [← zpow_natCast, Int.toNat_of_nonneg (by omega), zpow_neg, div_inv_eq_mul]
    rw [same] at bounds
    exact bounds

theorem StandsFor.toInt (stands : StandsFor first x) (lowest highest : ℤ) :
    first.toInt lowest highest = whole x := by
  rcases stands.zero_or_finite with ⟨sign, rfl, rfl⟩ | ⟨sign, digits, spot, some, rfl, rfl⟩
  · rfl
  · have positive := finite_pos some spot
    rw [UnpackedFloat.toInt, roundToInt_eq]
    cases sign
    · rw [unit, neg_mul, one_mul, neg_mul, whole_neg, whole, if_pos positive.le]
      rfl
    · rw [unit, one_mul, whole, if_pos positive.le]
      rfl

end Rounding

end KineticScroll
