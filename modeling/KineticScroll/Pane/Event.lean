import KineticScroll.Geometry.Layout
import KineticScroll.Geometry.Visibility
import KineticScroll.Number.Single

/-!
# What passes between a pane and its host

The host sends touches.  The pane sends events to a listener and commands that
the host has to carry out.  The host may also supply a velocity speedometer, fed
with every touch, and a performance meter, switched on while the content is
dragged or settles; each is known here by what it has been told so far.
-/

namespace KineticScroll

inductive EventKind where
  | dragBegin
  | scroll
  | dragEnd
  | momentumBegin
  | momentumEnd
deriving DecidableEq

structure PaneEvent where
  kind : EventKind
  offset : Offset
  velocity : Velocity
  content : ContentSize
  layoutWidth : Px
  layoutHeight : Px
deriving DecidableEq

/-- An event, and whether somebody was listening to it. -/
structure Emission where
  heard : Bool
  event : PaneEvent
deriving DecidableEq

inductive Command where
  /-- Be at this offset now. -/
  | jump (target : Offset)
  /-- Move to this offset in some time. -/
  | glide (target : Offset)
  /-- Fling at this velocity, in pixels per second. -/
  | fling (velocity : Px)
  | flashIndicators
deriving DecidableEq

inductive TouchPhase where
  | down
  | move
  | up
  | cancel
deriving DecidableEq

namespace TouchPhase

/-- Whether the finger leaves the screen. -/
def lifts : TouchPhase → Bool
  | .down => false
  | .move => false
  | .up => true
  | .cancel => true

end TouchPhase

structure Touch where
  phase : TouchPhase
  x : Single
  y : Single
  time : Millis
deriving DecidableEq

inductive SpeedometerCall where
  | clear
  | observe (touch : Touch)
deriving DecidableEq

/-- A rule that finds a velocity from the calls made so far. -/
structure Speedometer where
  calls : List SpeedometerCall
  rule : List SpeedometerCall → Velocity

namespace Speedometer

def velocity (speedometer : Speedometer) : Velocity :=
  speedometer.rule speedometer.calls

/-- Take a touch.  The first touch of a gesture clears what came before. -/
def observe (speedometer : Speedometer) (touch : Touch) : Speedometer :=
  let fresh := if touch.phase = .down then [SpeedometerCall.clear] else []
  { speedometer with calls := speedometer.calls ++ fresh ++ [.observe touch] }

end Speedometer

inductive MeterCall where
  | enable (tag : String)
  | disable (tag : String)
deriving DecidableEq

end KineticScroll
