import KineticScroll.Pane.Frame

/-!
# Operations

Everything that a host can do to a pane, as one type, so that a history of a
pane is a list of operations.
-/

namespace KineticScroll

namespace Pane

inductive Operation where
  | configure (change : Settings → Settings)
  | layOut (viewport : Viewport) (now : Millis)
  | setContent (content : ContentSize) (now : Millis)
  | resizeContent (content : ContentSize) (now : Millis)
  | removeContent
  | linkContent
  | unlinkContent
  | contentLeft
  | enterWindow (surroundings : Surroundings)
  | setSurroundings (surroundings : Surroundings)
  | refreshCulling
  | reportPosition (position : Offset) (now : Millis)
  | grab
  | touch (touch : Touch)
  | fling (velocity : Px) (now : Millis)
  | frame (now : Millis)
  | flashIndicators
  | collectCommands

/-- What an operation answers. -/
inductive Reply where
  | done
  | taken (accepted : Bool)
  | moved (event : Option PaneEvent)
  | commands (commands : List Command)

variable {σ : Type} [ScrollPhysics σ]

def perform (pane : Pane σ) : Operation → Except Fault (Reply × Pane σ)
  | .configure change => (pane.configure (change pane.settings)).map (.done, ·)
  | .layOut viewport now => (pane.layOut viewport now).map (.done, ·)
  | .setContent content now => (pane.setContent content now).map (.done, ·)
  | .resizeContent content now => (pane.resizeContent content now).map (.done, ·)
  | .removeContent => .ok (.done, pane.removeContent)
  | .linkContent => .ok (.done, pane.linkContent (.present []))
  | .unlinkContent => .ok (.done, pane.linkContent .absent)
  | .contentLeft => .ok (.done, pane.contentLeft)
  | .enterWindow surroundings => (pane.enterWindow surroundings).map (.done, ·)
  | .setSurroundings surroundings => .ok (.done, pane.setSurroundings surroundings)
  | .refreshCulling => pane.refreshCulling.map (.done, ·)
  | .reportPosition position now =>
      (pane.reportPosition position now).map fun (event, moved) => (.moved event, moved)
  | .grab =>
      let (accepted, dragged) := pane.grab
      .ok (.taken accepted, dragged)
  | .touch touch =>
      let (accepted, touched) := pane.touch touch
      .ok (.taken accepted, touched)
  | .fling velocity now => (pane.fling velocity now).map (.done, ·)
  | .frame now => (pane.frame now).map (.done, ·)
  | .flashIndicators => .ok (.done, pane.flashIndicators)
  | .collectCommands =>
      let (commands, emptied) := pane.collectCommands
      .ok (.commands commands, emptied)

/-- Perform a list of operations, one after the other. -/
def run (pane : Pane σ) : List Operation → Except Fault (Pane σ)
  | [] => .ok pane
  | operation :: rest => do
      let (_, next) ← pane.perform operation
      next.run rest

end Pane

end KineticScroll
