import KineticScroll.Alarms
import KineticScroll.Culling
import KineticScroll.Motion.Animation
import KineticScroll.Movement
import KineticScroll.Pane.Event
import KineticScroll.Pane.Settings
import KineticScroll.Settling

/-!
# The pane

A pane is one vertical scroll container with a single piece of content, as its
host has described it, together with the gesture, the motion and the settle
sequence that are under way and everything that it has sent out.
-/

namespace KineticScroll

structure PaneState where
  offset : Offset
  dragging : Bool
  flinging : Bool
  /-- Something has moved since the last poll. -/
  active : Bool
deriving DecidableEq

namespace PaneState

def initial : PaneState :=
  ⟨⟨0, 0⟩, false, false, false⟩

end PaneState

structure Pane (σ : Type) where
  settings : Settings
  platform : Platform
  state : PaneState
  viewport : Viewport
  content : Option ContentSize
  surroundings : Surroundings
  movements : MovementFilter
  extent : Extent
  animation : Animation σ
  settling : Settling
  culling : Culling
  alarms : Alarms
  speedometer : Option Speedometer
  /-- The calls to the performance meter, if there is one. -/
  meter : Option (List MeterCall)
  /-- Commands that the host has not taken yet. -/
  commands : List Command
  /-- Every event so far. -/
  emissions : List Emission

namespace Pane

variable {σ : Type}

def create [ScrollPhysics σ] (settings : Settings) (platform : Platform) (physics : Option σ) :
    Pane σ where
  settings := settings
  platform := platform
  state := .initial
  viewport := .zero
  content := none
  surroundings := .detached
  movements := .initial
  extent := .zero
  animation := .adopt physics
  settling := .idle
  culling := Culling.off.switch settings.culling
  alarms := .empty
  speedometer := none
  meter := none
  commands := []
  emissions := []

def withSpeedometer (pane : Pane σ) (rule : List SpeedometerCall → Velocity) : Pane σ :=
  { pane with speedometer := some ⟨[], rule⟩ }

def withMeter (pane : Pane σ) : Pane σ :=
  { pane with meter := some [] }

/-! ## Questions -/

def offset (pane : Pane σ) : Offset :=
  pane.state.offset

def isSettling (pane : Pane σ) : Bool :=
  pane.settling.isOpen

def isRunning [ScrollPhysics σ] (pane : Pane σ) : Bool :=
  pane.animation.isRunning

def awaitsFrame (pane : Pane σ) : Bool :=
  !pane.alarms.isEmpty

/-- Why the physics of the pane is not in use. -/
def physicsGap? (pane : Pane σ) : Option Unavailable :=
  pane.animation.gap?.map .physics

def visibleRect (pane : Pane σ) : Except Unavailable Rect :=
  pane.culling.visibleRect

/-- The visible rectangle, for callers that have switched culling on. -/
def demandVisibleRect (pane : Pane σ) : Except Fault Rect :=
  pane.visibleRect.mapError .unavailable

/-- The area below content that is shorter than the viewport, if it is to be filled. -/
def endFill? (pane : Pane σ) : Option Rect :=
  match pane.content with
  | none => none
  | some content =>
      if pane.settings.endFillColor ≠ Settings.transparent ∧
          content.height < pane.viewport.height then
        some ⟨0, content.height, pane.viewport.width, pane.viewport.height⟩
      else
        none

/-- Geometry and scroll state in one value. -/
structure Snapshot where
  viewport : Viewport
  content : Option ContentSize
  state : PaneState
  limit : Px
deriving DecidableEq

def snapshot (pane : Pane σ) : Snapshot :=
  ⟨pane.viewport, pane.content, pane.state, pane.extent.limit⟩

/-! ## Sending -/

/-- An event of that kind as things stand. -/
def eventNow (pane : Pane σ) (kind : EventKind) (velocity : Velocity) : PaneEvent where
  kind := kind
  offset := pane.offset
  velocity := velocity
  content := pane.content.getD .zero
  layoutWidth := pane.viewport.width
  layoutHeight := pane.viewport.height

def emit (pane : Pane σ) (kind : EventKind) (velocity : Velocity) : Pane σ :=
  let emission := ⟨pane.settings.listening, pane.eventNow kind velocity⟩
  { pane with emissions := pane.emissions ++ [emission] }

/-- Emit a momentum event where the settings ask for them. -/
def emitMomentum (pane : Pane σ) (kind : EventKind) : Pane σ :=
  if pane.settings.momentumEvents then pane.emit kind .zero else pane

def push (pane : Pane σ) (command : Command) : Pane σ :=
  { pane with commands := pane.commands ++ [command] }

def collectCommands (pane : Pane σ) : List Command × Pane σ :=
  (pane.commands, { pane with commands := [] })

def flashIndicators (pane : Pane σ) : Pane σ :=
  pane.push .flashIndicators

/-- The tag under which the meter is called, if there is a meter and a tag. -/
def meterTag? (pane : Pane σ) : Option String :=
  if pane.meter.isSome then pane.settings.meterTag? else none

def callMeter (pane : Pane σ) (call : String → MeterCall) : Pane σ :=
  match pane.settings.meterTag? with
  | none => pane
  | some tag => { pane with meter := pane.meter.map (· ++ [call tag]) }

def setAlarm (pane : Pane σ) (wakeup : Wakeup) (now delay : Millis) : Pane σ :=
  { pane with alarms := pane.alarms.set wakeup now delay }

/-- Set the alarm for the next step of a motion, on the next frame. -/
def scheduleStep (pane : Pane σ) (generation : UInt64) (now : Millis) : Pane σ :=
  pane.setAlarm (.step generation) now 0

/-- Set the alarm for the next poll of a settle sequence. -/
def schedulePoll (pane : Pane σ) (sequence : UInt64) (now : Millis) : Pane σ :=
  pane.setAlarm (.poll sequence) now pane.settings.pollDelay

end Pane

end KineticScroll
