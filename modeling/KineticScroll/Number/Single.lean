import KineticScroll.Number.Clock
import KineticScroll.Number.Pixel

/-!
# Single precision

Velocities and positions between pixels are single precision numbers, every
operation rounded to the nearest.  Pixels and times are converted to the
nearest single; the way back drops the fraction, stops at the ends of the
pixel range and takes a number that is none to zero.
-/

namespace KineticScroll

abbrev Single := Float32

namespace Single

def ofPx (value : Px) : Single :=
  ⟨Float32.Model.ofInt32 value⟩

def ofMillis (time : Millis) : Single :=
  time.toFloat32

/-- The pixel next to the value towards zero. -/
def truncate (value : Single) : Px :=
  value.toModel.toInt32

/-- Add one half away from zero, then drop the fraction. -/
def round (value : Single) : Px :=
  if 0 ≤ value then truncate (value + 0.5) else truncate (value - 0.5)

def speed (velocity : Single) : Single :=
  if velocity < 0 then -velocity else velocity

/-- A value that compares with neither end is left alone. -/
def clamp (value lowest highest : Single) : Single :=
  if value < lowest then lowest
  else if highest < value then highest
  else value

end Single

/-- Pixels per millisecond along both axes. -/
structure Velocity where
  x : Single
  y : Single
deriving DecidableEq

namespace Velocity

def zero : Velocity :=
  ⟨0, 0⟩

end Velocity

end KineticScroll
