import KineticScroll.Container.Basic

/-!
# Operations of a container

Everything that can happen to a container, as one type; what is done to its
pane behind its back is one of them.
-/

namespace KineticScroll

namespace Container

inductive Operation where
  | layOut (viewport : Viewport) (now : Millis)
  | layOutContent (content : ContentSize) (now : Millis)
  | press (now : Millis)
  | drag (y : Px) (now : Millis)
  | lift (velocity : Px) (now : Millis)
  | flashIndicators
  | frame (now : Millis)
  | onPane (operation : Pane.Operation)

inductive Reply where
  | done
  | taken (accepted : Bool)
  | positioned (position : Offset)
  | ofPane (reply : Pane.Reply)

variable {σ : Type} [ScrollPhysics σ]

def perform (container : Container σ) : Operation → Except Fault (Reply × Container σ)
  | .layOut viewport now => (container.layOut viewport now).map (.done, ·)
  | .layOutContent content now => (container.layOutContent content now).map (.done, ·)
  | .press now =>
      let (accepted, dragged) := container.press now
      .ok (.taken accepted, dragged)
  | .drag y now => (container.drag y now).map (.done, ·)
  | .lift velocity now => (container.lift velocity now).map (.done, ·)
  | .flashIndicators => container.flashIndicators.map (.done, ·)
  | .frame now => (container.frame now).map fun framed => (.positioned framed.position, framed)
  | .onPane operation =>
      (container.pane.perform operation).map fun (reply, pane) =>
        (.ofPane reply, { container with pane := pane })

def run (container : Container σ) : List Operation → Except Fault (Container σ)
  | [] => .ok container
  | operation :: rest => do
      let (_, next) ← container.perform operation
      next.run rest

end Container

end KineticScroll
