import KineticScroll.Number.Single
import Mathlib.Data.Int.Log
import Mathlib.Data.Rat.Floor
import Mathlib.Tactic.Linarith

/-!
# Rounding to single precision

A number has a single precision number of its own if it is a whole number of at
most 24 binary digits at some place, and no place lies below the 149th after the
point.  Any other number is rounded to the nearest of these, and to the one with
the even last digit if two are as near.  What is said here holds of the rounding
as a function of rational numbers: it keeps the order and the sign, leaves alone
what need not be rounded, and is off by a 2 ^ 24th at most.
-/

namespace KineticScroll

namespace Rounding

variable {value other bound : ℚ} {whole : ℤ}

/-! ## To a whole number -/

/-- The nearest whole number, the even one of two. -/
def halfEven (value : ℚ) : ℤ :=
  if Int.fract value < 1 / 2 then ⌊value⌋
  else if 1 / 2 < Int.fract value then ⌊value⌋ + 1
  else ⌊value⌋ + ⌊value⌋ % 2

theorem abs_sub_halfEven_le (value : ℚ) : |value - halfEven value| ≤ 1 / 2 := by
  have parts := Int.floor_add_fract value
  have nonneg := Int.fract_nonneg value
  have below := Int.fract_lt_one value
  unfold halfEven
  split_ifs with down up
  · rw [abs_le]
    constructor <;> linarith
  · rw [abs_le]
    push_cast
    constructor <;> linarith
  · have middle : Int.fract value = 1 / 2 := le_antisymm (not_lt.mp up) (not_lt.mp down)
    rw [abs_le]
    rcases Int.emod_two_eq_zero_or_one ⌊value⌋ with even | odd
    · rw [even]
      push_cast
      constructor <;> linarith
    · rw [odd]
      push_cast
      constructor <;> linarith

theorem even_halfEven (tie : |value - halfEven value| = 1 / 2) : Even (halfEven value) := by
  have parts := Int.floor_add_fract value
  have nonneg := Int.fract_nonneg value
  have below := Int.fract_lt_one value
  unfold halfEven at tie ⊢
  split_ifs at tie ⊢ with down up
  · rw [abs_of_nonneg (by linarith)] at tie
    linarith
  · push_cast at tie
    rw [abs_of_nonpos (by linarith)] at tie
    linarith
  · rw [Int.even_iff]
    omega

/-- Two whole numbers as near as this are the same. -/
theorem eq_halfEven (near : |value - whole| ≤ 1 / 2)
    (even : |value - whole| = 1 / 2 → Even whole) : whole = halfEven value := by
  have near' := abs_sub_halfEven_le value
  rcases lt_trichotomy whole (halfEven value) with less | same | more
  · have apart : (whole : ℚ) + 1 ≤ halfEven value := by exact_mod_cast less
    have tie : |value - whole| = 1 / 2 := by
      refine le_antisymm near (le_abs.mpr (.inl ?_))
      linarith [(abs_le.mp near').1]
    have tie' : |value - halfEven value| = 1 / 2 := by
      refine le_antisymm near' (le_abs.mpr (.inr ?_))
      linarith [(abs_le.mp near).2]
    have next : halfEven value = whole + 1 := by
      have gap : (halfEven value : ℚ) ≤ whole + 1 := by
        linarith [(abs_le.mp near').1, (abs_le.mp near).2]
      have gap : halfEven value ≤ whole + 1 := by exact_mod_cast gap
      omega
    have first := even tie
    have second := even_halfEven tie'
    rw [Int.even_iff] at first second
    omega
  · exact same
  · have apart : (halfEven value : ℚ) + 1 ≤ whole := by exact_mod_cast more
    have tie : |value - whole| = 1 / 2 := by
      refine le_antisymm near (le_abs.mpr (.inr ?_))
      linarith [(abs_le.mp near').2]
    have tie' : |value - halfEven value| = 1 / 2 := by
      refine le_antisymm near' (le_abs.mpr (.inl ?_))
      linarith [(abs_le.mp near).1]
    have next : whole = halfEven value + 1 := by
      have gap : (whole : ℚ) ≤ halfEven value + 1 := by
        linarith [(abs_le.mp near').2, (abs_le.mp near).1]
      have gap : whole ≤ halfEven value + 1 := by exact_mod_cast gap
      omega
    have first := even tie
    have second := even_halfEven tie'
    rw [Int.even_iff] at first second
    omega

theorem halfEven_intCast (whole : ℤ) : halfEven whole = whole := by
  symm
  apply eq_halfEven
  · rw [sub_self, abs_zero]
    norm_num
  · intro tie
    rw [sub_self, abs_zero] at tie
    norm_num at tie

theorem halfEven_add_half (whole : ℤ) : halfEven (whole + 1 / 2) = whole + whole % 2 := by
  have down : ⌊(whole : ℚ) + 1 / 2⌋ = whole := by
    rw [Int.floor_eq_iff]
    constructor <;> linarith
  have middle : Int.fract ((whole : ℚ) + 1 / 2) = 1 / 2 := by
    rw [Int.fract, down, add_sub_cancel_left]
  rw [halfEven, middle, if_neg (lt_irrefl _), if_neg (lt_irrefl _), down]

theorem halfEven_neg (value : ℚ) : halfEven (-value) = -halfEven value := by
  have same : |(-value) - ((-halfEven value : ℤ) : ℚ)| = |value - halfEven value| := by
    rw [← abs_neg]
    push_cast
    ring_nf
  symm
  apply eq_halfEven
  · rw [same]
    exact abs_sub_halfEven_le value
  · intro tie
    rw [same] at tie
    exact (even_halfEven tie).neg

/-- No whole number is nearer. -/
theorem abs_sub_halfEven_le_abs_sub (value : ℚ) (whole : ℤ) :
    |value - halfEven value| ≤ |value - whole| := by
  rcases eq_or_ne whole (halfEven value) with same | differ
  · rw [same]
  · have apart : (1 : ℚ) ≤ |(halfEven value : ℚ) - whole| := by
      have apart : 1 ≤ |halfEven value - whole| :=
        Int.one_le_abs (sub_ne_zero.mpr differ.symm)
      exact_mod_cast apart
    have detour := abs_sub_le (halfEven value : ℚ) value whole
    have near := abs_sub_halfEven_le value
    rw [abs_sub_comm] at near
    linarith [abs_sub_comm (halfEven value : ℚ) value]

/-! ## To 24 digits -/

/-- The place of the last digit that a number of this size keeps. -/
def place (value : ℚ) : ℤ :=
  max (Int.log 2 |value| - 23) (-149)

/-- The nearest number of 24 digits. -/
def nearest (value : ℚ) : ℚ :=
  halfEven (value / 2 ^ place value) * 2 ^ place value

/-- Numbers of at most 24 digits, and the next power of two. -/
def Representable (value : ℚ) : Prop :=
  ∃ digits place : ℤ, |digits| ≤ 2 ^ 24 ∧ -149 ≤ place ∧ value = digits * 2 ^ place

theorem Representable.neg (exact : Representable value) : Representable (-value) := by
  obtain ⟨digits, place, few, above, rfl⟩ := exact
  refine ⟨-digits, place, ?_, above, ?_⟩
  · rw [abs_neg]
    exact few
  · push_cast
    ring

theorem representable_intCast (small : |whole| ≤ 2 ^ 24) : Representable whole := by
  refine ⟨whole, 0, small, by norm_num, ?_⟩
  rw [zpow_zero, mul_one]

theorem unit_pos (value : ℚ) : (0 : ℚ) < 2 ^ place value :=
  zpow_pos (by norm_num) _

theorem representable_zero : Representable 0 := by
  rw [← Int.cast_zero]
  exact representable_intCast (by norm_num)

theorem representable_one : Representable 1 := by
  rw [← Int.cast_one]
  exact representable_intCast (by norm_num)

theorem representable_two_pow (count : ℕ) : Representable (2 ^ count) := by
  refine ⟨1, count, by norm_num, by omega, ?_⟩
  rw [Int.cast_one, one_mul, zpow_natCast]

theorem Representable.double (exact : Representable value) : Representable (2 * value) := by
  obtain ⟨digits, place, few, above, rfl⟩ := exact
  refine ⟨digits, place + 1, few, by omega, ?_⟩
  rw [zpow_add_one₀ (by norm_num)]
  ring

theorem place_neg (value : ℚ) : place (-value) = place value := by
  rw [place, abs_neg, place]

theorem nearest_neg (value : ℚ) : nearest (-value) = -nearest value := by
  rw [nearest, nearest, place_neg, neg_div, halfEven_neg]
  push_cast
  ring

theorem lowest_place_le (value : ℚ) : -149 ≤ place value :=
  le_max_right _ _

/-- At its place the number has 24 digits at most. -/
theorem abs_lt_of_place (value : ℚ) : |value| < 2 ^ 24 * 2 ^ place value := by
  have top := Int.lt_zpow_succ_log_self (b := 2) (by norm_num) |value|
  rw [← zpow_natCast, ← zpow_add₀ (by norm_num)]
  refine top.trans_le ?_
  rw [Nat.cast_ofNat]
  refine zpow_le_zpow_right₀ (by norm_num) ?_
  have left : Int.log 2 |value| - 23 ≤ place value := le_max_left _ _
  push_cast
  linarith

/-- Above the lowest place it has no fewer. -/
theorem le_abs_of_place (some : value ≠ 0) (above : -149 < place value) :
    2 ^ 23 * 2 ^ place value ≤ |value| := by
  have same : place value = Int.log 2 |value| - 23 := by
    rcases max_choice (Int.log 2 |value| - 23) (-149) with left | right
    · exact left
    · rw [place, right] at above
      exact absurd above (lt_irrefl _)
  have bottom := Int.zpow_log_le_self (b := 2) (by norm_num) (abs_pos.mpr some)
  rw [Nat.cast_ofNat] at bottom
  rw [← zpow_natCast, ← zpow_add₀ (by norm_num), same]
  refine le_trans (zpow_le_zpow_right₀ (by norm_num) ?_) bottom
  push_cast
  omega

/-- A number with digits enough from a place on has none below it. -/
theorem le_place {spot : ℤ} (large : 2 ^ 23 * 2 ^ spot ≤ |value|) : spot ≤ place value := by
  have unit : (0 : ℚ) < 2 ^ spot := zpow_pos (by norm_num) _
  have some : 0 < |value| := lt_of_lt_of_le (by positivity) large
  rw [← zpow_natCast, ← zpow_add₀ (by norm_num)] at large
  have log := (Int.zpow_le_iff_le_log (b := 2) (by norm_num) some).mp large
  have left : Int.log 2 |value| - 23 ≤ place value := le_max_left _ _
  push_cast at log
  omega

theorem place_nonneg (large : 2 ^ 23 ≤ |value|) : 0 ≤ place value := by
  apply le_place
  rw [zpow_zero, mul_one]
  exact large

theorem nearest_zero : nearest 0 = 0 := by
  rw [nearest, zero_div, ← Int.cast_zero, halfEven_intCast, Int.cast_zero, zero_mul]

theorem abs_nearest_sub (value : ℚ) :
    |value - nearest value| =
      |value / 2 ^ place value - halfEven (value / 2 ^ place value)| * 2 ^ place value := by
  have positive := unit_pos value
  have apart : value - nearest value =
      (value / 2 ^ place value - halfEven (value / 2 ^ place value)) * 2 ^ place value := by
    rw [sub_mul, div_mul_cancel₀ _ positive.ne', nearest]
  rw [apart, abs_mul, abs_of_pos positive]

/-- Half a unit of the last digit at most is lost or gained. -/
theorem abs_sub_nearest_le (value : ℚ) : |value - nearest value| ≤ 2 ^ place value / 2 := by
  have positive := unit_pos value
  have near := mul_le_mul_of_nonneg_right
    (abs_sub_halfEven_le (value / 2 ^ place value)) positive.le
  rw [abs_nearest_sub]
  linarith

theorem abs_digits_le (value : ℚ) : |halfEven (value / 2 ^ place value)| ≤ 2 ^ 24 := by
  have positive := unit_pos value
  have size : |value / 2 ^ place value| < 2 ^ 24 := by
    rw [abs_div, abs_of_pos positive, div_lt_iff₀ positive]
    exact abs_lt_of_place value
  have near := abs_sub_halfEven_le (value / 2 ^ place value)
  have length := abs_sub_abs_le_abs_sub (halfEven (value / 2 ^ place value) : ℚ)
    (value / 2 ^ place value)
  rw [abs_sub_comm] at length
  have few : |(halfEven (value / 2 ^ place value) : ℚ)| < 2 ^ 24 + 1 := by linarith
  have few : |halfEven (value / 2 ^ place value)| < 2 ^ 24 + 1 := by exact_mod_cast few
  omega

theorem le_abs_digits (some : value ≠ 0) (above : -149 < place value) :
    2 ^ 23 ≤ |halfEven (value / 2 ^ place value)| := by
  have positive := unit_pos value
  have size : 2 ^ 23 ≤ |value / 2 ^ place value| := by
    rw [abs_div, abs_of_pos positive, le_div_iff₀ positive]
    exact le_abs_of_place some above
  have near := abs_sub_halfEven_le (value / 2 ^ place value)
  have length := abs_sub_abs_le_abs_sub (value / 2 ^ place value)
    (halfEven (value / 2 ^ place value) : ℚ)
  have many : 2 ^ 23 - 1 < |(halfEven (value / 2 ^ place value) : ℚ)| := by linarith
  have many : 2 ^ 23 - 1 < |halfEven (value / 2 ^ place value)| := by exact_mod_cast many
  omega

theorem representable_nearest (value : ℚ) : Representable (nearest value) :=
  ⟨_, _, abs_digits_le value, lowest_place_le value, rfl⟩

/-- Whatever has its digits at the same place is no nearer. -/
theorem abs_sub_nearest_le_at (value : ℚ) (digits : ℤ) :
    |value - nearest value| ≤ |value - digits * 2 ^ place value| := by
  have positive := unit_pos value
  have apart : value - digits * 2 ^ place value =
      (value / 2 ^ place value - digits) * 2 ^ place value := by
    rw [sub_mul, div_mul_cancel₀ _ positive.ne']
  rw [abs_nearest_sub, apart, abs_mul, abs_of_pos positive]
  exact mul_le_mul_of_nonneg_right (abs_sub_halfEven_le_abs_sub _ _) positive.le

/-- No number of 24 digits is nearer. -/
theorem abs_sub_nearest_le_abs_sub (value : ℚ) (exact : Representable other) :
    |value - nearest value| ≤ |value - other| := by
  rcases eq_or_ne value 0 with rfl | some
  · rw [nearest_zero, sub_self, abs_zero]
    exact abs_nonneg _
  obtain ⟨digits, spot, few, above, rfl⟩ := exact
  rcases le_or_gt (place value) spot with left | right
  · have moved : (digits : ℚ) * 2 ^ spot =
        ((digits * 2 ^ (spot - place value).toNat : ℤ) : ℚ) * 2 ^ place value := by
      push_cast
      rw [mul_assoc, ← zpow_natCast, ← zpow_add₀ (by norm_num), Int.toNat_of_nonneg (by omega),
        sub_add_cancel]
    rw [moved]
    exact abs_sub_nearest_le_at value _
  · -- The other number is smaller than the least of as many digits as the value has.
    have most : (|digits| : ℚ) ≤ 2 ^ 24 := by exact_mod_cast few
    have size : |(digits : ℚ) * 2 ^ spot| ≤ 2 ^ 23 * 2 ^ place value := by
      have less : (2 : ℚ) ^ (spot + 1) ≤ 2 ^ place value :=
        zpow_le_zpow_right₀ (by norm_num) right
      rw [zpow_add_one₀ (by norm_num)] at less
      have positive : (0 : ℚ) < 2 ^ spot := zpow_pos (by norm_num) _
      rw [abs_mul, abs_of_pos positive]
      calc |(digits : ℚ)| * 2 ^ spot ≤ 2 ^ 24 * 2 ^ spot :=
            mul_le_mul_of_nonneg_right most positive.le
        _ = 2 ^ 23 * (2 ^ spot * 2) := by ring
        _ ≤ 2 ^ 23 * 2 ^ place value := mul_le_mul_of_nonneg_left less (by norm_num)
    have least := le_abs_of_place some (above.trans_lt right)
    rcases le_or_gt 0 value with positive | negative
    · have nearer := abs_sub_nearest_le_at value (2 ^ 23)
      rw [Int.cast_pow, Int.cast_ofNat] at nearer
      rw [abs_of_nonneg positive] at least
      rw [abs_of_nonneg (sub_nonneg.mpr least)] at nearer
      linarith [le_abs_self (value - digits * 2 ^ spot),
        le_abs_self ((digits : ℚ) * 2 ^ spot)]
    · have nearer := abs_sub_nearest_le_at value (-2 ^ 23)
      rw [Int.cast_neg, Int.cast_pow, Int.cast_ofNat, neg_mul, sub_neg_eq_add] at nearer
      rw [abs_of_neg negative] at least
      rw [abs_of_nonpos (a := value + _) (by linarith)] at nearer
      linarith [neg_le_abs (value - digits * 2 ^ spot),
        neg_le_abs ((digits : ℚ) * 2 ^ spot)]

theorem nearest_of_representable (exact : Representable value) : nearest value = value := by
  have near := abs_sub_nearest_le_abs_sub value exact
  rw [sub_self, abs_zero] at near
  exact (sub_eq_zero.mp (abs_nonpos_iff.mp near)).symm

theorem Representable.exists_multiple (exact : Representable value) (spot : ℤ)
    (large : 2 ^ 23 * 2 ^ spot ≤ |value|) : ∃ digits : ℤ, value = digits * 2 ^ spot := by
  have above := le_place large
  have same := nearest_of_representable exact
  refine ⟨halfEven (value / 2 ^ place value) * 2 ^ (place value - spot).toNat, ?_⟩
  push_cast
  rw [mul_assoc, ← zpow_natCast, ← zpow_add₀ (by norm_num), Int.toNat_of_nonneg (by omega),
    sub_add_cancel]
  exact same.symm

theorem nearest_intCast (small : |whole| ≤ 2 ^ 24) : nearest whole = whole :=
  nearest_of_representable (representable_intCast small)

/-- What a number between one half and one lacks to one has digits enough as well. -/
theorem Representable.one_sub (exact : Representable value) (half : 1 / 2 ≤ value)
    (most : value ≤ 1) : Representable (1 - value) := by
  obtain ⟨digits, spot, few, above, rfl⟩ := exact
  have few : (digits : ℚ) ≤ 2 ^ 24 := by exact_mod_cast (le_abs_self digits).trans few
  have unit : (0 : ℚ) < 2 ^ spot := zpow_pos (by norm_num) _
  have large : 1 / 2 ≤ 2 ^ 24 * (2 : ℚ) ^ spot :=
    half.trans (mul_le_mul_of_nonneg_right few unit.le)
  rcases le_or_gt 0 spot with left | right
  · have whole : (digits : ℚ) * 2 ^ spot = ((digits * 2 ^ spot.toNat : ℤ) : ℚ) := by
      push_cast
      rw [← zpow_natCast, Int.toNat_of_nonneg left]
    rw [whole] at half most ⊢
    generalize digits * 2 ^ spot.toNat = number at half most ⊢
    have one : number = 1 := by
      have positive : (0 : ℚ) < number := by linarith
      have positive : 0 < number := by exact_mod_cast positive
      have most : number ≤ 1 := by exact_mod_cast most
      omega
    rw [one, Int.cast_one, sub_self]
    exact representable_zero
  · have lacking : 1 - (digits : ℚ) * 2 ^ spot =
        ((2 ^ (-spot).toNat - digits : ℤ) : ℚ) * 2 ^ spot := by
      push_cast
      rw [sub_mul, ← zpow_natCast, Int.toNat_of_nonneg (by omega), ← zpow_add₀ (by norm_num),
        neg_add_cancel, zpow_zero]
    rw [lacking]
    refine ⟨_, spot, ?_, above, rfl⟩
    generalize (2 ^ (-spot).toNat - digits : ℤ) = number at lacking ⊢
    have nonneg : (0 : ℚ) ≤ number := by
      rw [← mul_nonneg_iff_of_pos_right unit]
      linarith
    have few : (number : ℚ) ≤ 2 ^ 24 := by
      rw [← mul_le_mul_iff_of_pos_right unit]
      linarith
    have nonneg : 0 ≤ number := by exact_mod_cast nonneg
    have few : number ≤ 2 ^ 24 := by exact_mod_cast few
    rw [abs_of_nonneg nonneg]
    exact few

/-! ## Order -/

theorem nearest_le (exact : Representable bound) (below : value ≤ bound) :
    nearest value ≤ bound := by
  by_contra beyond
  have near := abs_sub_nearest_le_abs_sub value exact
  rw [abs_of_nonpos (by linarith), abs_of_nonpos (by linarith)] at near
  linarith

theorem le_nearest (exact : Representable bound) (above : bound ≤ value) :
    bound ≤ nearest value := by
  by_contra beyond
  have near := abs_sub_nearest_le_abs_sub value exact
  rw [abs_of_nonneg (by linarith), abs_of_nonneg (by linarith)] at near
  linarith

theorem abs_nearest_le (exact : Representable bound) (small : |value| ≤ bound) :
    |nearest value| ≤ bound := by
  rw [abs_le] at small ⊢
  exact ⟨le_nearest exact.neg small.1, nearest_le exact small.2⟩

theorem le_abs_nearest (exact : Representable bound) (large : bound ≤ |value|) :
    bound ≤ |nearest value| := by
  rcases le_abs.mp large with above | below
  · exact le_abs.mpr (.inl (le_nearest exact above))
  · refine le_abs.mpr (.inr ?_)
    rw [← nearest_neg]
    exact le_nearest exact below

/-- A whole number that is rounded to one of fewer digits has not been rounded at all. -/
theorem eq_of_nearest_intCast {kept : ℤ} (rounded : nearest whole = kept)
    (few : |kept| < 2 ^ 24) : kept = whole := by
  have small : |whole| ≤ 2 ^ 24 := by
    by_contra large
    have large : (2 ^ 24 : ℚ) ≤ |(whole : ℚ)| := by exact_mod_cast (not_le.mp large).le
    have many := le_abs_nearest (representable_two_pow 24) large
    rw [rounded] at many
    have many : 2 ^ 24 ≤ |kept| := by exact_mod_cast many
    exact absurd few (not_lt.mpr many)
  rw [nearest_intCast small, Int.cast_inj] at rounded
  exact rounded.symm

theorem nearest_mono (order : value ≤ other) : nearest value ≤ nearest other := by
  rcases order.lt_or_eq with less | same
  · by_contra crossed
    have near := abs_sub_nearest_le_abs_sub value (representable_nearest other)
    have near' := abs_sub_nearest_le_abs_sub other (representable_nearest value)
    rw [not_le] at crossed
    -- The middle of the two results lies on the wrong side of both numbers.
    have low : nearest value + nearest other ≤ 2 * value := by
      rcases abs_cases (value - nearest value) with ⟨first, _⟩ | ⟨first, _⟩ <;>
        rcases abs_cases (value - nearest other) with ⟨second, _⟩ | ⟨second, _⟩ <;>
        linarith
    have high : 2 * other ≤ nearest value + nearest other := by
      rcases abs_cases (other - nearest value) with ⟨first, _⟩ | ⟨first, _⟩ <;>
        rcases abs_cases (other - nearest other) with ⟨second, _⟩ | ⟨second, _⟩ <;>
        linarith
    linarith
  · rw [same]

/-! ## One half more -/

/-- Between 2 ^ 23 and 2 ^ 24 it is the whole numbers that have 24 digits. -/
theorem nearest_eq_halfEven (least : 2 ^ 23 ≤ |value|) (most : |value| < 2 ^ 24) :
    nearest value = halfEven value := by
  have above := place_nonneg least
  have some : value ≠ 0 := by
    rintro rfl
    norm_num at least
  have bottom := le_abs_of_place some (by omega)
  have power : (2 : ℚ) ^ place value < 2 ^ (1 : ℤ) := by
    rw [zpow_one]
    linarith
  have below := (zpow_lt_zpow_iff_right₀ (by norm_num : (1 : ℚ) < 2)).mp power
  have last : place value = 0 := by omega
  rw [nearest, last, zpow_zero, div_one, mul_one]

/-- There a whole number and one half are a tie, which an odd number loses. -/
theorem nearest_add_half (least : 2 ^ 23 ≤ whole) (most : whole < 2 ^ 24) :
    nearest (whole + 1 / 2) = (whole + whole % 2 : ℤ) := by
  have least : (2 ^ 23 : ℚ) ≤ whole := by exact_mod_cast least
  have most : (whole : ℚ) + 1 ≤ 2 ^ 24 := by exact_mod_cast most
  rw [nearest_eq_halfEven, halfEven_add_half] <;> rw [abs_of_nonneg (by linarith)] <;> linarith

/-- Farther out a half is too little for a number of 24 digits. -/
theorem nearest_add_half_of_large (held : Representable (whole : ℚ)) (large : 2 ^ 24 ≤ whole) :
    nearest (whole + 1 / 2) = whole := by
  have large : (2 ^ 24 : ℚ) ≤ whole := by exact_mod_cast large
  have above := le_nearest held (by linarith : (whole : ℚ) ≤ whole + 1 / 2)
  have near := abs_sub_nearest_le_abs_sub ((whole : ℚ) + 1 / 2) held
  rw [add_sub_cancel_left, abs_le, abs_of_nonneg (by norm_num)] at near
  -- Both are even, and they are less than two apart.
  obtain ⟨digits, same⟩ := held.exists_multiple 1 (by
    rw [abs_of_nonneg (by linarith)]
    norm_num at large ⊢
    linarith)
  obtain ⟨digits', same'⟩ := (representable_nearest ((whole : ℚ) + 1 / 2)).exists_multiple 1 (by
    rw [abs_of_nonneg (by linarith)]
    norm_num at large above ⊢
    linarith)
  rw [zpow_one] at same same'
  have order : (digits : ℚ) ≤ digits' := by linarith
  have order : digits ≤ digits' := by exact_mod_cast order
  have apart : (digits' : ℚ) < digits + 1 := by linarith
  have apart : digits' < digits + 1 := by exact_mod_cast apart
  rw [same', same, Int.le_antisymm (Int.lt_add_one_iff.mp apart) order]

/-! ## Error -/

/-- What is not too small for 24 digits need not be compared with the smallest such number. -/
theorem two_pow_le_of_thousandth_le (large : 1 / 1000 ≤ bound) : 2 ^ (-126 : ℤ) ≤ bound :=
  le_trans (by norm_num) large

/-- The rounding is off by the 2 ^ 24th part of any bound for the number. -/
theorem abs_sub_nearest_le_of_le (large : 2 ^ (-126 : ℤ) ≤ bound) (small : |value| ≤ bound) :
    |value - nearest value| ≤ bound / 2 ^ 24 := by
  rcases eq_or_ne value 0 with rfl | some
  · rw [nearest_zero, sub_self, abs_zero]
    exact div_nonneg ((abs_nonneg _).trans small) (by norm_num)
  refine (abs_sub_nearest_le value).trans ?_
  rcases (lowest_place_le value).lt_or_eq with above | lowest
  · have least := le_abs_of_place some above
    rw [le_div_iff₀ (by norm_num)]
    calc 2 ^ place value / 2 * 2 ^ 24 = 2 ^ 23 * 2 ^ place value := by ring
      _ ≤ |value| := least
      _ ≤ bound := small
  · rw [← lowest, le_div_iff₀ (by norm_num)]
    refine le_trans (le_of_eq ?_) large
    norm_num [zpow_neg]

end Rounding

end KineticScroll
