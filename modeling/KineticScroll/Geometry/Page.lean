import KineticScroll.Number.Pixel

/-!
# Pages

Paged content comes to rest at whole multiples of the page size.  The page of
an offset is the one it lies on, and the next one when the offset with its
velocity added has passed the middle of that page.
-/

namespace KineticScroll

namespace Page

/-- The page size: a given interval, or the height of the viewport when it is zero. -/
def size (interval : UInt32) (viewportHeight : Px) : Px :=
  if interval = 0 then viewportHeight else Px.saturate interval.toNat

/-- The page that an offset lies on, counted from zero. -/
def index (offset size : Px) : Px :=
  Int32.ofInt (offset.toInt.fdiv size.toInt)

/-- The offset of a page to come to rest at.  Pages of no size leave the offset alone. -/
def target (offset velocity size : Px) : Except Fault Px :=
  if size ≤ 0 then
    .ok offset
  else
    let page := index offset size
    let middle := Px.satAdd (Px.satMul page size) (size / 2)
    if middle < Px.satAdd offset velocity then
      (Px.add page 1).map fun next => Px.satMul next size
    else
      .ok (Px.satMul page size)

end Page

end KineticScroll
