import KineticScroll.Pane.Gesture

/-!
# Frames

A frame answers the alarms that are due, in the order in which they were set.
Alarms set meanwhile wait for a later frame.  A step stops a motion that has
reached the end of the content before it is over; a settle sequence that ends
brings the content back into its extent.
-/

namespace KineticScroll

namespace Pane

variable {σ : Type} [ScrollPhysics σ]

/-- Where a step of the motion puts the content. -/
def landing (pane : Pane σ) (frame : Advance) : Except Fault (Px × Animation σ) := do
  let (position, animation) := pane.animation.stopAtEnd frame.position pane.extent.limit
  if frame.finished && pane.content.isSome then
    let clamped ← pane.extent.clamp position
    return (clamped, animation)
  else
    return (position, animation)

/-- Show one frame of the motion, and set the alarm for the next while it runs. -/
def showFrame (pane : Pane σ) (generation : UInt64) (frame : Advance) (now : Millis) :
    Except Fault (Pane σ) := do
  let (position, animation) ← pane.landing frame
  let moved ← { pane with animation := animation }.jumpTo position now
  return if !frame.finished && moved.isRunning then moved.scheduleStep generation now else moved

def runStep (pane : Pane σ) (generation : UInt64) (now : Millis) : Except Fault (Pane σ) :=
  let (frame, animation) := pane.animation.step generation now
  let stepped := { pane with animation := animation }
  match frame with
  | none => .ok stepped
  | some frame => stepped.showFrame generation frame now

/-- Bring content that lies outside its extent back.  That is no movement to wait for. -/
def returnToExtent (pane : Pane σ) (now : Millis) : Except Fault (Pane σ) :=
  if pane.content.isSome then do
    let target ← pane.extent.clamp pane.offset.y
    if target = pane.offset.y then
      return pane
    else
      let moved ← pane.jumpTo target now
      return { moved with state := { moved.state with active := false } }
  else
    .ok pane

def finishSettling (pane : Pane σ) (now : Millis) : Except Fault (Pane σ) := do
  let returned ←
    { pane with state := { pane.state with flinging := false } }.returnToExtent now
  return (returned.emitMomentum .momentumEnd).callMeter .disable

def actOn (pane : Pane σ) (decision : Verdict) (sequence : UInt64) (now : Millis) :
    Except Fault (Pane σ) :=
  match decision with
  | .moving => .ok (pane.schedulePoll sequence now)
  | .snap => (pane.glideToPage 0 now).map fun snapped => snapped.schedulePoll sequence now
  | .settled => pane.finishSettling now

def runPoll (pane : Pane σ) (sequence : UInt64) (now : Millis) : Except Fault (Pane σ) :=
  let (decision, settling) :=
    pane.settling.poll sequence pane.state.active pane.settings.pagingEnabled
  match decision with
  | none => .ok pane
  | some decision =>
      { pane with
        settling := settling
        state := { pane.state with active := false } }.actOn decision sequence now

/-- Answer one alarm. -/
def wake (now : Millis) (pane : Pane σ) : Wakeup → Except Fault (Pane σ)
  | .poll sequence => pane.runPoll sequence now
  | .step generation => pane.runStep generation now

/-- Run everything due at a time. -/
def frame (pane : Pane σ) (now : Millis) : Except Fault (Pane σ) :=
  let (due, alarms) := pane.alarms.ring now
  due.foldlM (wake now) { pane with alarms := alarms }

end Pane

end KineticScroll
