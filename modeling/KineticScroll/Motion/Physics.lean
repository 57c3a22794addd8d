import KineticScroll.Number.Clock
import KineticScroll.Number.Pixel

/-!
# Scroll physics

A pane leaves the motion after a release to physics that its host supplies.
Physics is started with a fling or with a glide over a known distance, then
advanced to the time of each frame and asked for its position.
-/

namespace KineticScroll

/-- A release at some position and speed, in pixels per second, between two bounds. -/
structure Launch where
  startX : Px
  startY : Px
  velocity : Px
  lowest : Px
  highest : Px
  /-- How far the motion may run past a bound before it turns back. -/
  overscroll : Px
deriving DecidableEq

class ScrollPhysics (σ : Type) where
  fling : σ → Launch → Millis → Except Fault σ
  /-- Move from a position by a distance. -/
  glide : σ → Px → Px → Millis → σ
  /-- Advance to a time.  False when the motion had finished before the call. -/
  advance : σ → Millis → Bool × σ
  position : σ → Px
  /-- Where the motion is going to end. -/
  destination : σ → Px
  isIdle : σ → Bool
  /-- Stop at the present position. -/
  halt : σ → σ
  /-- Whether flings keep to the bounds of their launch. -/
  keepsBounds : σ → Bool

end KineticScroll
