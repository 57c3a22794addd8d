import KineticScroll.Geometry.Rect

/-!
# The visible part of a pane

What surrounds a pane decides how much of it can be seen.  The visible part is
given in the coordinates of the scrolled content: the clip of the parent is cut
to the frame of the pane, taken relative to the corner of the frame, and moved
by the scroll offset.
-/

namespace KineticScroll

structure Offset where
  x : Px
  y : Px
deriving DecidableEq

inductive Surroundings where
  /-- Outside every window. -/
  | detached
  /-- In a parent that shows its children whole. -/
  | unclipped
  /-- In a parent that shows `clip` of itself; both rectangles are in its coordinates. -/
  | clipping (clip frame : Rect)
deriving DecidableEq

namespace Surroundings

def visible (surroundings : Surroundings) (offset : Offset) (width height : Px) :
    Except Fault Rect :=
  match surroundings with
  | .detached => .ok Rect.empty
  | .unclipped => do
      let right ← Px.add offset.x width
      let bottom ← Px.add offset.y height
      return ⟨offset.x, offset.y, right, bottom⟩
  | .clipping clip frame =>
      match clip.overlap? frame with
      | none => .ok Rect.empty
      | some common => do
          let toCornerX ← Px.neg frame.left
          let toCornerY ← Px.neg frame.top
          let inPane ← common.shift toCornerX toCornerY
          inPane.shift offset.x offset.y

end Surroundings

end KineticScroll
