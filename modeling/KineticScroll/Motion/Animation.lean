import KineticScroll.Geometry.Layout
import KineticScroll.Geometry.Page
import KineticScroll.Geometry.Visibility
import KineticScroll.Motion.Physics

/-!
# Animation

An animation owns the physics of a pane and numbers every motion it starts.  A
step carries the number of its motion, so a step left over from an earlier
motion finds that its number has passed and does nothing.

Flings run without a lower end: the content may still grow.  A motion that
reaches the present end before it is over is stopped there.
-/

namespace KineticScroll

/-- What decides how a release becomes motion. -/
structure Release where
  restsOnPages : Bool
  pageSize : Px
  offset : Offset
  viewport : Viewport
  turnsVelocity : Bool
deriving DecidableEq

namespace Release

/-- The launch of a free fling: no end below, and half a window of overscroll. -/
def launch (release : Release) (velocity : Px) : Except Fault Launch := do
  let window ← release.viewport.windowHeight
  return {
    startX := release.offset.x
    startY := release.offset.y
    velocity := if release.turnsVelocity then Px.satNeg velocity else velocity
    lowest := 0
    highest := Px.greatest
    overscroll := max (window / 2) 0 }

end Release

inductive Response where
  /-- Glide to a page. -/
  | page (target : Px)
  /-- Fling on the physics of the pane. -/
  | free (launch : Launch)
  /-- Leave the fling to the host. -/
  | host (velocity : Px)
deriving DecidableEq

/-- What one step of a motion has come to. -/
structure Advance where
  position : Px
  finished : Bool
deriving DecidableEq

structure Animation (σ : Type) where
  physics : Except PhysicsGap σ
  generation : UInt64

namespace Animation

variable {σ : Type}

def gap? (animation : Animation σ) : Option PhysicsGap :=
  match animation.physics with
  | .ok _ => none
  | .error gap => some gap

def hasPhysics (animation : Animation σ) : Bool :=
  match animation.physics with
  | .ok _ => true
  | .error _ => false

theorem hasPhysics_eq_isNone_gap (animation : Animation σ) :
    animation.hasPhysics = animation.gap?.isNone := by
  unfold hasPhysics gap?
  cases animation.physics <;> rfl

/-- Paged content glides to a page; other content is flung, by whoever has physics. -/
def respond (animation : Animation σ) (velocity : Px) (release : Release) :
    Except Fault Response :=
  if release.restsOnPages then
    (Page.target release.offset.y velocity release.pageSize).map .page
  else if animation.hasPhysics then
    (release.launch velocity).map .free
  else
    .ok (.host velocity)

/-- Give the motion just started on this physics the next number. -/
def started (animation : Animation σ) (physics : σ) : Option UInt64 × Animation σ :=
  let generation := animation.generation + 1
  (some generation, ⟨.ok physics, generation⟩)

variable [ScrollPhysics σ]

/-- Only physics that keeps to the bounds of a launch is taken. -/
def adopt (candidate : Option σ) : Animation σ :=
  match candidate with
  | none => ⟨.error .missing, 0⟩
  | some physics =>
      if ScrollPhysics.keepsBounds physics then ⟨.ok physics, 0⟩
      else ⟨.error .incompatible, 0⟩

/-- Start a fling.  The number is that of the motion, if there is physics to run it. -/
def startFling (animation : Animation σ) (launch : Launch) (now : Millis) :
    Except Fault (Option UInt64 × Animation σ) :=
  match animation.physics with
  | .error _ => .ok (none, animation)
  | .ok physics => (ScrollPhysics.fling physics launch now).map animation.started

def startGlide (animation : Animation σ) (source target : Px) (now : Millis) :
    Option UInt64 × Animation σ :=
  match animation.physics with
  | .error _ => (none, animation)
  | .ok physics =>
      animation.started (ScrollPhysics.glide physics source (Px.satSub target source) now)

/-- Advance the motion of that number, if it is the present one and still running. -/
def step (animation : Animation σ) (generation : UInt64) (now : Millis) :
    Option Advance × Animation σ :=
  if generation = animation.generation then
    match animation.physics with
    | .error _ => (none, animation)
    | .ok physics =>
        let (running, advanced) := ScrollPhysics.advance physics now
        let stepped := { animation with physics := .ok advanced }
        if running then
          (some ⟨ScrollPhysics.position advanced, ScrollPhysics.isIdle advanced⟩, stepped)
        else
          (none, stepped)
  else
    (none, animation)

/-- Whether this physics still has some way to go. -/
def isUnderway (physics : σ) : Bool :=
  !ScrollPhysics.isIdle physics &&
    ScrollPhysics.position physics != ScrollPhysics.destination physics

/-- Stop a motion that has reached the end before it is over. -/
def stopAtEnd (animation : Animation σ) (position limit : Px) : Px × Animation σ :=
  match animation.physics with
  | .error _ => (position, animation)
  | .ok physics =>
      if isUnderway physics && limit ≤ position then
        (limit, { animation with physics := .ok (ScrollPhysics.halt physics) })
      else
        (position, animation)

/-- Stop whatever is running and let its number pass. -/
def abort (animation : Animation σ) : Animation σ :=
  { physics := animation.physics.map fun physics =>
      if ScrollPhysics.isIdle physics then physics else ScrollPhysics.halt physics
    generation := animation.generation + 1 }

def isRunning (animation : Animation σ) : Bool :=
  match animation.physics with
  | .ok physics => !ScrollPhysics.isIdle physics
  | .error _ => false

/-! ## Laws -/

/-- A step of another motion than the present one does nothing. -/
theorem step_of_ne {animation : Animation σ} {generation : UInt64}
    (stale : generation ≠ animation.generation) (now : Millis) :
    animation.step generation now = (none, animation) :=
  if_neg stale

theorem step_generation (animation : Animation σ) (generation : UInt64) (now : Millis) :
    (animation.step generation now).2.generation = animation.generation := by
  unfold step
  split
  · cases animation.physics with
    | error gap => rfl
    | ok physics =>
        dsimp only
        split <;> rfl
  · rfl

theorem stopAtEnd_generation (animation : Animation σ) (position limit : Px) :
    (animation.stopAtEnd position limit).2.generation = animation.generation := by
  unfold stopAtEnd
  cases animation.physics with
  | error gap => rfl
  | ok physics =>
      dsimp only
      split <;> rfl

theorem abort_generation (animation : Animation σ) :
    animation.abort.generation = animation.generation + 1 :=
  rfl

end Animation

end KineticScroll
