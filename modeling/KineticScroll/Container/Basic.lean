import KineticScroll.Motion.Decay
import KineticScroll.Pane.Operation

/-!
# The native container

A container stands for the scroll view of a platform.  It carries out the
commands of its pane, runs the motions that the pane leaves to the host on
decaying physics of its own, and reports where they take the content.
-/

namespace KineticScroll

structure Container (σ : Type) where
  pane : Pane σ
  native : Decay
  position : Offset
  indicatorFlashes : UInt32

namespace Container

def around {σ : Type} (pane : Pane σ) : Container σ :=
  ⟨pane, .initial, ⟨0, 0⟩, 0⟩

/-- A container whose pane runs its own motions on decaying physics. -/
def create (settings : Settings) (platform : Platform) : Container Decay :=
  around (Pane.create settings platform (some Decay.initial))

variable {σ : Type}

/-- Whether any motion still needs frames. -/
def needsFrames (container : Container σ) : Bool :=
  !container.native.isIdle || container.pane.awaitsFrame

/-! ## Commands -/

def jump (container : Container σ) (target : Offset) : Container σ :=
  { container with native := container.native.halt, position := target }

def glide (container : Container σ) (y : Px) (now : Millis) :
    Except Fault (Container σ) := do
  let distance ← Px.sub y container.position.y
  return { container with
    native := container.native.glideBy container.position.y distance now }

/-- The platform's own fling keeps to the present extent. -/
def fling (container : Container σ) (velocity : Px) (now : Millis) :
    Except Fault (Container σ) := do
  let native ← container.native.fling
    { startX := container.position.x
      startY := container.position.y
      velocity := velocity
      lowest := 0
      highest := container.pane.extent.limit
      overscroll := 0 } now
  return { container with native := native }

def flash (container : Container σ) : Except Fault (Container σ) :=
  if container.indicatorFlashes.toNat + 1 < UInt32.size then
    .ok { container with indicatorFlashes := container.indicatorFlashes + 1 }
  else
    .error (.overflow .add)

def carryOut (now : Millis) (container : Container σ) :
    Command → Except Fault (Container σ)
  | .jump target => .ok (container.jump target)
  | .glide target => container.glide target.y now
  | .fling velocity => container.fling velocity now
  | .flashIndicators => container.flash

/-- Carry out everything that the pane has asked for. -/
def obey (container : Container σ) (now : Millis) : Except Fault (Container σ) :=
  let (commands, pane) := container.pane.collectCommands
  commands.foldlM (carryOut now) { container with pane := pane }

/-- Move, and tell the pane. -/
def moveTo (container : Container σ) (position : Offset) (now : Millis) :
    Except Fault (Container σ) := do
  let (_, pane) ← container.pane.reportPosition position now
  return { container with pane := pane, position := position }

/-- Let the pane change, and carry out what it asks for. -/
def after (container : Container σ) (pane : Except Fault (Pane σ)) (now : Millis) :
    Except Fault (Container σ) := do
  let changed ← pane
  { container with pane := changed }.obey now

/-! ## Layout -/

def layOut (container : Container σ) (viewport : Viewport) (now : Millis) :
    Except Fault (Container σ) :=
  container.after (container.pane.layOut viewport now) now

/-- Content of this size, whether or not there was content before. -/
def layOutContent (container : Container σ) (content : ContentSize) (now : Millis) :
    Except Fault (Container σ) :=
  container.after (container.pane.setContent content now) now

/-! ## Gestures -/

/-- A touch at the origin: the container follows the finger by other means. -/
def touchAt (phase : TouchPhase) (time : Millis) : Touch :=
  ⟨phase, 0, 0, time⟩

variable [ScrollPhysics σ]

def press (container : Container σ) (now : Millis) : Bool × Container σ :=
  let (_, touched) := container.pane.touch (touchAt .down now)
  let (accepted, pane) := touched.grab
  let native := if accepted then container.native.halt else container.native
  (accepted, { container with pane := pane, native := native })

def drag (container : Container σ) (y : Px) (now : Millis) : Except Fault (Container σ) :=
  if container.pane.state.dragging then
    let (_, pane) := container.pane.touch (touchAt .move now)
    { container with pane := pane }.moveTo ⟨container.position.x, y⟩ now
  else
    .ok container

/-- Lift the finger.  A velocity other than zero turns into a fling. -/
def lift (container : Container σ) (velocity : Px) (now : Millis) :
    Except Fault (Container σ) :=
  let (accepted, pane) := container.pane.touch (touchAt .up now)
  container.after (if accepted && velocity != 0 then pane.fling velocity now else .ok pane) now

def flashIndicators (container : Container σ) : Except Fault (Container σ) :=
  container.after (.ok container.pane.flashIndicators) 0

/-! ## Frames -/

/-- Advance the motion that the container runs itself. -/
def advanceNative (container : Container σ) (now : Millis) : Except Fault (Container σ) :=
  let (moved, native) := container.native.advance now
  let advanced := { container with native := native }
  if moved then advanced.moveTo ⟨container.position.x, native.position⟩ now
  else .ok advanced

def frame (container : Container σ) (now : Millis) : Except Fault (Container σ) := do
  let advanced ← container.advanceNative now
  advanced.after (advanced.pane.frame now) now

/--
Run a frame every `interval` from `now` on until nothing moves or so many
frames have run.  The result holds the position after each frame.
-/
def play (container : Container σ) (now interval : Millis) :
    Nat → Except Fault (List Px × Millis × Container σ)
  | 0 => .ok ([], now, container)
  | frames + 1 =>
      if container.needsFrames then do
        let next := Millis.later now interval
        let framed ← container.frame next
        let (positions, final) ← framed.play next interval frames
        return (framed.position.y :: positions, final)
      else
        .ok ([], now, container)

end Container

end KineticScroll
