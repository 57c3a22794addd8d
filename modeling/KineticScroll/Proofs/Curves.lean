import KineticScroll.Motion.Glide
import KineticScroll.Proofs.Arithmetic

/-!
# Shares of the way

The part of its time that a glide has spent, and the part of its way that a curve
makes of it, are numbers from zero to one.  Rounding does not take them beyond:
zero and one need not be rounded, and products and what is lacking to one lie
between them.  Only the polynomial of the smooth curve may come to more than one,
by so little that it is rounded back.
-/

namespace KineticScroll

open Rounding

namespace Rounding

variable {value : ℚ}

/-- The middle of one and the next number is rounded to one, which has an even last digit. -/
theorem nearest_above_one : nearest (1 + 1 / 2 ^ 24) = 1 := by
  decide +kernel

/-- In the second half of the unit interval all numbers have their last digit at one place. -/
theorem Representable.three_sub_double (exact : Representable value) (half : 1 / 2 ≤ value)
    (most : value ≤ 1) : Representable (3 - 2 * value) := by
  obtain ⟨digits, rfl⟩ := exact.exists_multiple (-24) (by
    rw [abs_of_nonneg (by linarith)]
    exact le_trans (by norm_num) half)
  have many : (2 ^ 23 : ℚ) ≤ digits := by
    norm_num at half ⊢
    linarith
  have few : (digits : ℚ) ≤ 2 ^ 24 := by
    norm_num at most ⊢
    linarith
  have many : 2 ^ 23 ≤ digits := by exact_mod_cast many
  have few : digits ≤ 2 ^ 24 := by exact_mod_cast few
  refine ⟨3 * 2 ^ 23 - digits, -23, ?_, by norm_num, ?_⟩
  · rw [abs_le]
    constructor <;> linarith
  · push_cast
    norm_num
    ring

/-- The polynomial of the smooth curve, each product and sum rounded but the last. -/
theorem smooth_le {part : ℚ} (exact : Representable part) (nonneg : 0 ≤ part)
    (le_one : part ≤ 1) : nearest (part * part) * nearest (3 - 2 * part) ≤ 1 + 1 / 2 ^ 24 := by
  rcases le_or_gt part (1 / 2) with first | second
  · -- Here the square is so small that its factor may be as great as it can be.
    have quarter : Representable (1 / 4) := ⟨1, -2, by norm_num, by norm_num, by norm_num⟩
    have square : nearest (part * part) ≤ 1 / 4 := nearest_le quarter (by nlinarith)
    have three : Representable 3 := ⟨3, 0, by norm_num, by norm_num, by norm_num⟩
    have factor : nearest (3 - 2 * part) ≤ 3 := nearest_le three (by linarith)
    have nonneg' : 0 ≤ nearest (3 - 2 * part) := le_nearest representable_zero (by linarith)
    calc nearest (part * part) * nearest (3 - 2 * part) ≤ 1 / 4 * 3 :=
          mul_le_mul square factor nonneg' (by norm_num)
      _ ≤ 1 + 1 / 2 ^ 24 := by norm_num
  · -- Here the factor is exact, and only the square is rounded.
    rw [nearest_of_representable (exact.three_sub_double second.le le_one)]
    have quarter : 1 / 4 ≤ part * part := by nlinarith
    have size : |part * part| ≤ part * part := (abs_of_nonneg (mul_self_nonneg part)).le
    have error := abs_sub_nearest_le_of_le (two_pow_le_of_thousandth_le (by linarith)) size
    have square : nearest (part * part) ≤ part * part * (1 + 1 / 2 ^ 24) := by
      linarith [(abs_le.mp error).1]
    have exact_le : part * part * (3 - 2 * part) ≤ 1 := by
      nlinarith [mul_nonneg (sq_nonneg (1 - part)) (by linarith : 0 ≤ 1 + 2 * part)]
    calc nearest (part * part) * (3 - 2 * part)
        ≤ part * part * (1 + 1 / 2 ^ 24) * (3 - 2 * part) :=
          mul_le_mul_of_nonneg_right square (by linarith)
      _ = part * part * (3 - 2 * part) * (1 + 1 / 2 ^ 24) := by ring
      _ ≤ 1 * (1 + 1 / 2 ^ 24) := mul_le_mul_of_nonneg_right exact_le (by norm_num)
      _ = 1 + 1 / 2 ^ 24 := one_mul _

end Rounding

/-- A single from zero to one. -/
structure IsShare (single : Single) (share : ℚ) : Prop where
  value : single.value? = some share
  nonneg : 0 ≤ share
  le_one : share ≤ 1

namespace IsShare

variable {first second : Single} {x y : ℚ}

/-- What is rounded between zero and one stays between them. -/
theorem of_nearest (is : first.value? = some (nearest x)) (nonneg : 0 ≤ x)
    (le_one : nearest x ≤ 1) : IsShare first (nearest x) :=
  ⟨is, le_nearest representable_zero nonneg, le_one⟩

theorem mul (share : IsShare first x) (share' : IsShare second y) :
    IsShare (first * second) (nearest (x * y)) := by
  have nonneg := mul_nonneg share.nonneg share'.nonneg
  have le_one := mul_le_one₀ share.le_one share'.nonneg share'.le_one
  refine of_nearest (Single.value?_mul share.value share'.value ?_) nonneg
    (nearest_le representable_one le_one)
  rw [abs_of_nonneg nonneg]
  exact le_one.trans (by norm_num)

/-- What a share lacks to the whole. -/
theorem rest (share : IsShare first x) : IsShare (1 - first) (nearest (1 - x)) := by
  have nonneg : 0 ≤ 1 - x := sub_nonneg.mpr share.le_one
  have le_one : 1 - x ≤ 1 := sub_le_self 1 share.nonneg
  refine of_nearest (Single.value?_sub Single.value?_one share.value ?_) nonneg
    (nearest_le representable_one le_one)
  rw [abs_of_nonneg nonneg]
  exact le_one.trans (by norm_num)

end IsShare

/-! ## Curves -/

namespace Curve

variable {time : Single} {part : ℚ}

theorem value?_two : (2 : Single).value? = some 2 := by
  decide +kernel

theorem value?_three : (3 : Single).value? = some 3 := by
  decide +kernel

theorem smooth_isShare (share : IsShare time part) :
    IsShare (time * time * (3 - 2 * time))
      (nearest (nearest (part * part) * nearest (3 - 2 * part))) := by
  have exact := Single.representable share.value
  have nonneg := share.nonneg
  have le_one := share.le_one
  have square := share.mul share
  have twice : (2 * time).value? = some (2 * part) := by
    have is := Single.value?_mul value?_two share.value (by
      rw [abs_of_nonneg (by linarith)]
      linarith)
    rw [nearest_of_representable exact.double] at is
    exact is
  have slope : (3 - 2 * time).value? = some (nearest (3 - 2 * part)) := by
    apply Single.value?_sub value?_three twice
    rw [abs_of_nonneg (by linarith)]
    linarith
  have positive : 0 ≤ nearest (3 - 2 * part) := le_nearest representable_zero (by linarith)
  have product := mul_nonneg square.nonneg positive
  have bound := smooth_le exact nonneg le_one
  apply IsShare.of_nearest
  · apply Single.value?_mul square.value slope
    rw [abs_of_nonneg product]
    exact bound.trans (by norm_num)
  · exact product
  · rw [← nearest_above_one]
    exact nearest_mono bound

/-- A curve leads from nothing to no more than the whole. -/
theorem bend_isShare (curve : Curve) (share : IsShare time part) :
    ∃ bent, IsShare (curve.bend time) bent ∧ (part = 0 → bent = 0) := by
  cases curve with
  | smoothStep =>
      refine ⟨_, smooth_isShare share, ?_⟩
      rintro rfl
      rw [mul_zero, nearest_zero, zero_mul, nearest_zero]
  | easeOut =>
      refine ⟨_, (share.rest.mul share.rest).rest, ?_⟩
      rintro rfl
      rw [sub_zero, nearest_of_representable representable_one, mul_one,
        nearest_of_representable representable_one, sub_self, nearest_zero]

end Curve

/-! ## Time -/

namespace Glide

variable {glide : Glide} {now : Millis}

/-- A glide that is under way has spent a share of its time, and none before its start. -/
theorem progress_isShare (underway : glide.isOver now = false) :
    ∃ part, IsShare (glide.progress now) part ∧ (now ≤ glide.start → part = 0) := by
  have spent : (Millis.elapsed glide.start now).toNat < glide.duration.toNat := by
    have early : ¬glide.duration ≤ Millis.elapsed glide.start now := of_decide_eq_false underway
    rw [UInt64.le_iff_toNat_le] at early
    omega
  unfold progress
  dsimp only
  generalize passed : Millis.elapsed glide.start now = elapsed at spent
  have is := Single.value?_ofMillis elapsed
  have is' := Single.value?_ofMillis glide.duration
  have positive : 0 ≤ nearest (elapsed.toNat : ℚ) :=
    le_nearest representable_zero (Nat.cast_nonneg _)
  have whole : 1 ≤ nearest (glide.duration.toNat : ℚ) := by
    apply le_nearest representable_one
    exact_mod_cast (by omega : 1 ≤ glide.duration.toNat)
  have less : nearest (elapsed.toNat : ℚ) ≤ nearest (glide.duration.toNat : ℚ) :=
    nearest_mono (by exact_mod_cast spent.le)
  have nonneg := div_nonneg positive (zero_le_one.trans whole)
  have le_one := div_le_one_of_le₀ less (zero_le_one.trans whole)
  have quotient := IsShare.of_nearest
    (Single.value?_div is is' (by linarith) (by
      rw [abs_of_nonneg nonneg]
      exact le_one.trans (by norm_num)))
    nonneg (nearest_le representable_one le_one)
  have clamped := Single.value?_clamp quotient.value Single.value?_zero Single.value?_one
    zero_le_one
  rw [min_eq_left quotient.le_one, max_eq_right quotient.nonneg] at clamped
  refine ⟨_, ⟨clamped, quotient.nonneg, quotient.le_one⟩, ?_⟩
  intro early
  have none : elapsed.toNat = 0 := by
    rw [UInt64.le_iff_toNat_le] at early
    rw [← passed, Millis.toNat_elapsed]
    omega
  rw [none, Nat.cast_zero, nearest_zero, zero_div, nearest_zero]

end Glide

end KineticScroll
