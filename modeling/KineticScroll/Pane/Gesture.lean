import KineticScroll.Pane.Position

/-!
# Gestures

A drag takes over from whatever moves the content.  Its release, and a fling,
open a settle sequence; a fling that follows its release joins the sequence
already open.  Nothing here happens while scrolling is disabled.
-/

namespace KineticScroll

namespace Pane

variable {σ : Type} [ScrollPhysics σ]

/-! ## Glides -/

/-- Note what became of starting a motion, and set the alarm for its first step. -/
def follow (pane : Pane σ) (started : Option UInt64 × Animation σ) (now : Millis) : Pane σ :=
  let pane := { pane with animation := started.2 }
  match started.1 with
  | none => pane
  | some generation => pane.scheduleStep generation now

/-- Glide on the physics of the pane, or leave it to the host when there is none. -/
def startGlide (pane : Pane σ) (y : Px) (now : Millis) : Pane σ :=
  if pane.animation.hasPhysics then
    pane.follow (pane.animation.startGlide pane.offset.y y now) now
  else
    pane.push (.glide ⟨pane.offset.x, y⟩)

/-- Glide to the resting place nearest to an offset, unless the content is there. -/
def glideTo (pane : Pane σ) (y : Px) (now : Millis) : Except Fault (Pane σ) := do
  let target ← pane.restingPlace y
  return if target = pane.offset.y then pane else pane.startGlide target now

/-- Glide to the page of the present offset. -/
def glideToPage (pane : Pane σ) (velocity : Px) (now : Millis) : Except Fault (Pane σ) := do
  let target ← Page.target pane.offset.y velocity (pane.settings.pageSize pane.viewport.height)
  pane.glideTo target now

/-! ## Settling -/

/-- Open a settle sequence, unless one is open. -/
def startSettling (pane : Pane σ) (cause : SettleCause) (now : Millis) : Pane σ :=
  let (opened, settling) := pane.settling.start
  match opened with
  | none => pane
  | some sequence =>
      let settled := { pane with
        settling := settling
        state := { pane.state with active := cause.countsAsMoving } }
      ((settled.emitMomentum .momentumBegin).callMeter .enable).schedulePoll sequence now

/-- End the open settle sequence, if there is one, before its polls do. -/
def cutSettling (pane : Pane σ) : Pane σ :=
  if pane.isSettling then
    let cut := { pane with
      settling := pane.settling.close
      state := { pane.state with flinging := false } }
    (cut.emitMomentum .momentumEnd).callMeter .disable
  else
    pane

/-! ## Dragging -/

def takeHold (pane : Pane σ) : Pane σ :=
  let free := { pane with animation := pane.animation.abort }.cutSettling
  let dragged := { free with state := { free.state with dragging := true } }
  (dragged.emit .dragBegin .zero).callMeter .enable

/-- The host gives the touch to the pane.  The answer says whether it is taken. -/
def grab (pane : Pane σ) : Bool × Pane σ :=
  if pane.settings.scrollEnabled then (true, pane.takeHold) else (false, pane)

/-- Whether a release is worth a settle sequence. -/
def settlesAfterDrag (pane : Pane σ) : Bool :=
  pane.settings.momentumEvents || pane.settings.pagingEnabled || pane.meterTag?.isSome

def releaseVelocity (pane : Pane σ) : Velocity :=
  match pane.speedometer with
  | none => .zero
  | some speedometer => speedometer.velocity

def letGo (pane : Pane σ) (now : Millis) : Pane σ :=
  let ended := pane.emit .dragEnd pane.releaseVelocity
  let released := { ended with state := { ended.state with dragging := false } }.callMeter .disable
  if released.settlesAfterDrag then released.startSettling .drag now else released

/-- Take a touch.  A finger that lifts ends the drag. -/
def touch (pane : Pane σ) (touch : Touch) : Bool × Pane σ :=
  if pane.settings.scrollEnabled then
    let observed := { pane with
      speedometer := pane.speedometer.map fun speedometer => speedometer.observe touch }
    if touch.phase.lifts && pane.state.dragging then
      (true, observed.letGo touch.time)
    else
      (true, observed)
  else
    (false, pane)

/-! ## Flinging -/

def release (pane : Pane σ) : Release where
  restsOnPages := pane.settings.restsOnPages
  pageSize := pane.settings.pageSize pane.viewport.height
  offset := pane.offset
  viewport := pane.viewport
  turnsVelocity := pane.settings.inversion.appliesTo pane.platform

/-- Whether a free fling is worth a settle sequence. -/
def settlesAfterFling (pane : Pane σ) : Bool :=
  pane.settings.momentumEvents || pane.meterTag?.isSome

def settleFling (pane : Pane σ) (now : Millis) : Pane σ :=
  if pane.settlesAfterFling then
    { pane with state := { pane.state with flinging := true } }.startSettling .fling now
  else
    pane

def carryOut (pane : Pane σ) (response : Response) (now : Millis) : Except Fault (Pane σ) :=
  match response with
  | .page target => (pane.emit .scroll pane.movements.velocity).glideTo target now
  | .free launch => do
      let started ← pane.animation.startFling launch now
      return (pane.follow started now).settleFling now
  | .host velocity => .ok ((pane.push (.fling velocity)).settleFling now)

/-- Turn the velocity of a release, in pixels per second, into motion. -/
def fling (pane : Pane σ) (velocity : Px) (now : Millis) : Except Fault (Pane σ) :=
  if pane.settings.scrollEnabled then do
    let response ← pane.animation.respond velocity pane.release
    pane.carryOut response now
  else
    .ok pane

end Pane

end KineticScroll
