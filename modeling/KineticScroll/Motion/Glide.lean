import KineticScroll.Number.Single

/-!
# Glides

A glide carries a position from one pixel to another in a fixed time.  The
fraction of the time that has passed is bent by a curve, and the position is
the pixel nearest to that fraction of the way.
-/

namespace KineticScroll

/-- How progress along the way depends on progress in time. -/
inductive Curve where
  /-- Slow at both ends. -/
  | smoothStep
  /-- Fast at first, slowing to the end. -/
  | easeOut
deriving DecidableEq

namespace Curve

def bend (curve : Curve) (time : Single) : Single :=
  match curve with
  | .smoothStep => time * time * (3 - 2 * time)
  | .easeOut => 1 - (1 - time) * (1 - time)

end Curve

structure Glide where
  source : Px
  target : Px
  start : Millis
  duration : Millis
  curve : Curve
deriving DecidableEq

namespace Glide

/-- A glide lasts one millisecond at least. -/
def create (source target : Px) (start duration : Millis) (curve : Curve) : Glide :=
  ⟨source, target, start, max duration 1, curve⟩

def isOver (glide : Glide) (now : Millis) : Bool :=
  glide.duration ≤ Millis.elapsed glide.start now

/-- The part of the duration that has passed. -/
def progress (glide : Glide) (now : Millis) : Single :=
  let passed := Single.ofMillis (Millis.elapsed glide.start now)
  Single.clamp (passed / Single.ofMillis glide.duration) 0 1

def positionAt (glide : Glide) (now : Millis) : Px :=
  if glide.isOver now then
    glide.target
  else
    let bent := glide.curve.bend (glide.progress now)
    let source := Single.ofPx glide.source
    let target := Single.ofPx glide.target
    Single.round (source + (target - source) * bent)

/-- A glide on the same curve from where this one is now. -/
def redirect (glide : Glide) (now : Millis) (target : Px) (duration : Millis) : Glide :=
  create (glide.positionAt now) target now duration glide.curve

/-! ## Laws -/

theorem positionAt_of_isOver {glide : Glide} {now : Millis} (ended : glide.isOver now = true) :
    glide.positionAt now = glide.target :=
  if_pos ended

theorem create_duration_pos (source target : Px) (start duration : Millis) (curve : Curve) :
    0 < (create source target start duration curve).duration := by
  show 0 < (if duration ≤ 1 then 1 else duration)
  split
  · decide
  · next longer =>
      rw [UInt64.lt_iff_toNat_lt]
      rw [UInt64.le_iff_toNat_le] at longer
      simp only [UInt64.toNat_zero, UInt64.toNat_one] at *
      omega

end Glide

end KineticScroll
