import KineticScroll.Proofs.Curves

/-!
# The segment of a glide

A glide is to start at its source, to end at its target and never to leave the
segment between them.  It ends at its target whatever its length is, for then
nothing is computed.  On the way positions are single precision numbers.  These
hold all pixels up to the 2 ^ 24th and fewer and fewer beyond, and as far as the
source, the target and the distance between them are held, the segment is never
left.  Otherwise a glide may start beside its source or come out of the segment,
by no more than what is lost when these three are rounded.

The pixels that tie when one half is added to them, the odd ones from 2 ^ 23 to
2 ^ 24, are held as well, but the way back to pixels moves them by one.  That is
a slip of the rounding to pixels and no limit of single precision.  What is said
here is said of glides from and to other pixels.
-/

namespace KineticScroll

open Rounding

namespace Single

/-- Rounding whole numbers makes no new ties. -/
theorem TiesAway.of_nearest {spot kept : ℤ} (rounded : nearest spot = kept)
    (ties : TiesAway kept) : TiesAway spot :=
  eq_of_nearest_intCast rounded ties.2.2 ▸ ties

end Single

namespace Glide

/-- The place that is computed at a part of the way, in exact numbers. -/
def along (source target : ℤ) (part : ℚ) : ℚ :=
  nearest (nearest source + nearest (nearest (nearest target - nearest source) * part))

variable {source target : ℤ} {part : ℚ}

theorem along_zero (source target : ℤ) : along source target 0 = nearest source := by
  rw [along, mul_zero, nearest_zero, add_zero,
    nearest_of_representable (representable_nearest _)]

variable {glide : Glide} {now : Millis}

/-- On the way the position is the pixel at a part of the way, and at none before the start. -/
theorem exists_positionAt (underway : glide.isOver now = false) :
    ∃ part, 0 ≤ part ∧ part ≤ 1 ∧ (now ≤ glide.start → part = 0) ∧
      (glide.positionAt now).toInt =
        Single.pixel (along glide.source.toInt glide.target.toInt part) := by
  obtain ⟨spent, share, early⟩ := progress_isShare underway
  obtain ⟨bent, bends, none⟩ := glide.curve.bend_isShare share
  refine ⟨bent, bends.nonneg, bends.le_one, none ∘ early, ?_⟩
  have source_is := Single.value?_ofPx glide.source
  have target_is := Single.value?_ofPx glide.target
  have first := Single.abs_nearest_px_le glide.source
  have last := Single.abs_nearest_px_le glide.target
  have apart : |nearest glide.target.toInt - nearest glide.source.toInt| ≤ 2 ^ 32 := by
    rw [abs_le] at first last ⊢
    constructor <;> linarith
  have distance := abs_nearest_le (representable_two_pow 32) apart
  have way : |nearest (nearest glide.target.toInt - nearest glide.source.toInt) * bent| ≤
      2 ^ 32 := by
    rw [abs_mul, abs_of_nonneg bends.nonneg]
    exact (mul_le_of_le_one_right (abs_nonneg _) bends.le_one).trans distance
  have way' := abs_nearest_le (representable_two_pow 32) way
  have sum : |nearest glide.source.toInt +
      nearest (nearest (nearest glide.target.toInt - nearest glide.source.toInt) * bent)| ≤
      2 ^ 33 := by
    rw [abs_le] at first way' ⊢
    constructor <;> linarith
  have distance_is := Single.value?_sub target_is source_is (apart.trans (by norm_num))
  have way_is := Single.value?_mul distance_is bends.value (way.trans (by norm_num))
  have sum_is := Single.value?_add source_is way_is (sum.trans (by norm_num))
  rw [positionAt, if_neg (by rw [underway]; exact Bool.false_ne_true)]
  exact Single.toInt_round sum_is
    ((abs_nearest_le (representable_two_pow 33) sum).trans (by norm_num))

theorem isOver_iff : glide.isOver now = true ↔
    glide.duration.toNat ≤ now.toNat - glide.start.toNat := by
  rw [isOver, decide_eq_true_iff, UInt64.le_iff_toNat_le, Millis.toNat_elapsed]

theorem isOver_create_of_early (source target : Px) (duration : Millis) (curve : Curve)
    {start : Millis} (early : now ≤ start) :
    (create source target start duration curve).isOver now = false := by
  have lasting := create_duration_pos source target start duration curve
  rw [← Bool.not_eq_true, isOver_iff]
  rw [UInt64.lt_iff_toNat_lt, UInt64.toNat_zero] at lasting
  rw [UInt64.le_iff_toNat_le] at early
  change ¬_ ≤ now.toNat - start.toNat
  omega

/-- A source that ties is held as well, but the glide stands one pixel farther out. -/
theorem positionAt_of_tiesAway (source target : Px) (duration : Millis) (curve : Curve)
    {start : Millis} (ties : Single.TiesAway source.toInt) (early : now ≤ start) :
    ((create source target start duration curve).positionAt now).toInt =
      source.toInt + source.toInt.sign := by
  obtain ⟨part, _, _, none, position⟩ :=
    exists_positionAt (isOver_create_of_early source target duration curve early)
  rw [none early] at position
  rw [position, along_zero]
  change Single.pixel (nearest source.toInt) = _
  rw [nearest_intCast ties.2.2.le, Single.pixel_of_tiesAway ties]

end Glide

end KineticScroll
