import KineticScroll.Motion.Glide
import KineticScroll.Motion.Physics

/-!
# Decaying motion

The stock physics multiplies the velocity of a fling by the friction once per
millisecond.  The fling may run past its bounds by the overscroll of the
request; once it comes to rest outside them it springs back on a glide.
-/

namespace KineticScroll

namespace Decay

def defaultFriction : Single := 0.997

/-- Below this speed, in pixels per millisecond, a fling is at rest. -/
def restSpeed : Single := 0.02

def springBackTime : Millis := 200

def glideTime : Millis := 250

end Decay

/-- A fling in flight, between pixels. -/
structure Flight where
  position : Single
  velocity : Single
  bounds : Span
  overscroll : Px
  lastTime : Millis
deriving DecidableEq

namespace Flight

def isAtRest (flight : Flight) : Bool :=
  Single.speed flight.velocity < Decay.restSpeed

def lowest (flight : Flight) : Single :=
  Single.ofPx flight.bounds.lowest - Single.ofPx flight.overscroll

def highest (flight : Flight) : Single :=
  Single.ofPx flight.bounds.highest + Single.ofPx flight.overscroll

/-- One millisecond: move, slow down, and stop dead at the end of the overscroll. -/
def step (friction : Single) (flight : Flight) : Flight :=
  let moved := flight.position + flight.velocity
  if flight.highest < moved ∨ moved < flight.lowest then
    { flight with
      position := Single.clamp moved flight.lowest flight.highest
      velocity := 0 }
  else
    { flight with position := moved, velocity := flight.velocity * friction }

/-- So many milliseconds, or fewer when the flight comes to rest before. -/
def steps (friction : Single) : Nat → Flight → Flight
  | 0, flight => flight
  | count + 1, flight =>
      let next := flight.step friction
      if next.isAtRest then next else steps friction count next

/-- The flight at a later time. -/
def advance (friction : Single) (flight : Flight) (now : Millis) : Flight :=
  let passed := Millis.elapsed flight.lastTime now
  { flight.steps friction passed.toNat with lastTime := now }

end Flight

inductive Motion where
  | still
  | flight (flight : Flight)
  | glide (glide : Glide)
deriving DecidableEq

/-- Physics with a constant friction per millisecond. -/
structure Decay where
  friction : Single
  keepsBounds : Bool
  motion : Motion
  position : Px
  destination : Px
deriving DecidableEq

namespace Decay

def initial : Decay :=
  ⟨defaultFriction, true, .still, 0, 0⟩

/-- Frictions outside one half to 0.9999 are brought to the nearer end. -/
def withFriction (decay : Decay) (friction : Single) : Decay :=
  { decay with friction := Single.clamp friction 0.5 0.9999 }

def withKeepsBounds (decay : Decay) (keepsBounds : Bool) : Decay :=
  { decay with keepsBounds := keepsBounds }

/-- Where a fling without bounds would come to rest: the sum of its steps. -/
def restingPoint (decay : Decay) (start : Px) (velocity : Single) : Single :=
  Single.ofPx start + velocity * decay.friction / (1 - decay.friction)

/-- Come to rest within the bounds, at once or on a glide back to them. -/
def settle (decay : Decay) (bounds : Span) (now : Millis) : Decay :=
  let target := bounds.clamp decay.position
  { decay with
    destination := target
    motion :=
      if target = decay.position then .still
      else .glide (Glide.create decay.position target now springBackTime .easeOut) }

def flingBetween (decay : Decay) (launch : Launch) (bounds : Span) (now : Millis) :
    Decay :=
  let velocity := Single.ofPx launch.velocity / 1000
  let placed := { decay with position := launch.startY }
  if Single.speed velocity < restSpeed then
    placed.settle bounds now
  else
    { placed with
      destination := bounds.clamp (Single.round (decay.restingPoint launch.startY velocity))
      motion := .flight
        { position := Single.ofPx launch.startY
          velocity := velocity
          bounds := bounds
          overscroll := max launch.overscroll 0
          lastTime := now } }

def fling (decay : Decay) (launch : Launch) (now : Millis) : Except Fault Decay :=
  (Span.between launch.lowest launch.highest).map fun bounds =>
    decay.flingBetween launch bounds now

def glideBy (decay : Decay) (start distance : Px) (now : Millis) : Decay :=
  let target := Px.satAdd start distance
  { decay with
    position := start
    destination := target
    motion :=
      if distance = 0 then .still
      else .glide (Glide.create start target now glideTime .smoothStep) }

def isIdle (decay : Decay) : Bool :=
  match decay.motion with
  | .still => true
  | _ => false

def advance (decay : Decay) (now : Millis) : Bool × Decay :=
  match decay.motion with
  | .still => (false, decay)
  | .glide glide =>
      (true,
        { decay with
          position := glide.positionAt now
          motion := if glide.isOver now then .still else .glide glide })
  | .flight flight =>
      let later := flight.advance decay.friction now
      let moved := { decay with position := Single.round later.position }
      (true,
        if later.isAtRest then moved.settle later.bounds now
        else { moved with motion := .flight later })

def halt (decay : Decay) : Decay :=
  { decay with motion := .still, destination := decay.position }

instance : ScrollPhysics Decay where
  fling := fling
  glide := glideBy
  advance := advance
  position := Decay.position
  destination := Decay.destination
  isIdle := isIdle
  halt := halt
  keepsBounds := Decay.keepsBounds

/--
Advance every `interval` from `now` on until the motion has finished or so many
frames have run.  The positions are those of the frames that moved.
-/
def play (decay : Decay) (now interval : Millis) : Nat → List Px × Millis × Decay
  | 0 => ([], now, decay)
  | frames + 1 =>
      if decay.isIdle then
        ([], now, decay)
      else
        let next := Millis.later now interval
        let (moved, advanced) := decay.advance next
        let (positions, final) := play advanced next interval frames
        (if moved then advanced.position :: positions else positions, final)

/-! ## Laws -/

theorem isIdle_iff (decay : Decay) : decay.isIdle = true ↔ decay.motion = .still := by
  unfold isIdle
  cases decay.motion <;> simp

/-- Advancing says whether there was motion. -/
theorem advance_fst (decay : Decay) (now : Millis) : (decay.advance now).1 = !decay.isIdle := by
  unfold advance isIdle
  cases decay.motion <;> rfl

theorem advance_of_isIdle {decay : Decay} (idle : decay.isIdle = true) (now : Millis) :
    decay.advance now = (false, decay) := by
  unfold advance
  rw [(isIdle_iff decay).mp idle]

theorem halt_isIdle (decay : Decay) : decay.halt.isIdle = true :=
  rfl

theorem halt_position (decay : Decay) : decay.halt.position = decay.position :=
  rfl

end Decay

end KineticScroll
