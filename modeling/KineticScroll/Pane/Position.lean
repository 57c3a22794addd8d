import KineticScroll.Pane.Basic

/-!
# Position and layout

Every change of position, whoever causes it, passes the movement filter, so a
host that echoes a jump of the pane causes no second event.  A change of layout
finds the extent anew and jumps back when the content has become too short.
-/

namespace KineticScroll

namespace Pane

variable {σ : Type}

/-! ## Culling -/

def refreshCulling (pane : Pane σ) : Except Fault (Pane σ) := do
  let culling ← pane.culling.update pane.surroundings pane.offset
    pane.viewport.width pane.viewport.height
  return { pane with culling := culling }

/-- Replace the settings.  Culling that has been switched takes effect at once. -/
def configure (pane : Pane σ) (settings : Settings) : Except Fault (Pane σ) :=
  let configured := { pane with
    settings := settings
    culling := pane.culling.switch settings.culling }
  if pane.culling.switches settings.culling then configured.refreshCulling
  else .ok configured

def enterWindow (pane : Pane σ) (surroundings : Surroundings) : Except Fault (Pane σ) :=
  { pane with surroundings := surroundings }.refreshCulling

/-- Note new surroundings; the next update of the visible rectangle uses them. -/
def setSurroundings (pane : Pane σ) (surroundings : Surroundings) : Pane σ :=
  { pane with surroundings := surroundings }

def linkContent (pane : Pane σ) (content : CulledContent) : Pane σ :=
  { pane with culling := pane.culling.link content }

/-- The host lets go of the content that takes part in culling. -/
def contentLeft (pane : Pane σ) : Pane σ :=
  pane.linkContent pane.culling.content.leave

/-! ## Position -/

/-- Take over a movement that has passed the filter. -/
def moveTo (pane : Pane σ) (movement : Movement) : Except Fault (PaneEvent × Pane σ) := do
  let moved := { pane with
    state := { pane.state with offset := movement.offset, active := true } }
  let seen ← moved.refreshCulling
  return (seen.eventNow .scroll movement.velocity, seen.emit .scroll movement.velocity)

/-- Take a position that the host reports.  A repeat of the last one changes nothing. -/
def reportPosition (pane : Pane σ) (position : Offset) (now : Millis) :
    Except Fault (Option PaneEvent × Pane σ) := do
  let (movement, movements) ← pane.movements.report position now
  match movement with
  | none => return (none, pane)
  | some movement =>
      let (event, moved) ← { pane with movements := movements }.moveTo movement
      return (some event, moved)

/-- Move the content and tell the host to follow. -/
def jumpTo (pane : Pane σ) (y : Px) (now : Millis) : Except Fault (Pane σ) := do
  let target := ⟨pane.offset.x, y⟩
  let (_, moved) ← (pane.push (.jump target)).reportPosition target now
  return moved

/-- The resting place nearest to an offset.  Without content only the start is known. -/
def restingPlace (pane : Pane σ) (y : Px) : Except Fault Px :=
  if pane.content.isSome then pane.extent.clamp y else .ok (max y 0)

/-! ## Layout -/

/-- Find the extent anew, and jump back if the content no longer reaches. -/
def fitExtent (pane : Pane σ) (now : Millis) : Except Fault (Pane σ) := do
  let extent ← Extent.measure pane.content pane.viewport
  let measured := { pane with extent := extent }
  if pane.content.isSome then
    match extent.overrun? pane.offset.y with
    | none => return measured
    | some limit => measured.jumpTo limit now
  else
    return measured

def layOut (pane : Pane σ) (viewport : Viewport) (now : Millis) : Except Fault (Pane σ) := do
  let resized := pane.viewport.width ≠ viewport.width ∨ pane.viewport.height ≠ viewport.height
  let placed := { pane with viewport := viewport }
  let seen ← if resized then placed.refreshCulling else .ok placed
  seen.fitExtent now

def setContent (pane : Pane σ) (content : ContentSize) (now : Millis) :
    Except Fault (Pane σ) :=
  { pane with content := some content }.fitExtent now

/-- A new size of the content, if there is content. -/
def resizeContent (pane : Pane σ) (content : ContentSize) (now : Millis) :
    Except Fault (Pane σ) :=
  if pane.content.isSome then pane.setContent content now else .ok pane

def removeContent (pane : Pane σ) : Pane σ :=
  { pane with
    content := none
    culling := pane.culling.link .absent
    extent := .zero }

end Pane

end KineticScroll
