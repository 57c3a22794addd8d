import KineticScroll.Geometry.Visibility

/-!
# Culling

While culling is on, a pane keeps the rectangle that can be seen of it and
hands every new one to its content, which can then leave out what lies outside.
The content belongs to the host and may go away at any time; the link to
content that has gone is cut at the next update.
-/

namespace KineticScroll

/-- Content that takes part in culling. -/
inductive CulledContent where
  | absent
  /-- Present, with every rectangle it was handed, the latest at the end. -/
  | present (received : List Rect)
  /-- Linked, but gone. -/
  | gone
deriving DecidableEq

namespace CulledContent

def isLinked : CulledContent → Bool
  | .absent => false
  | .present _ => true
  | .gone => true

def receive (rect : Rect) : CulledContent → CulledContent
  | .absent => .absent
  | .present received => .present (received ++ [rect])
  | .gone => .absent

/-- The host lets go of the content. -/
def leave : CulledContent → CulledContent
  | .absent => .absent
  | .present _ => .gone
  | .gone => .gone

end CulledContent

structure Culling where
  /-- The visible rectangle, kept only while culling is on. -/
  rect : Option Rect
  content : CulledContent
deriving DecidableEq

namespace Culling

def off : Culling :=
  ⟨none, .absent⟩

def isOn (culling : Culling) : Bool :=
  culling.rect.isSome

/-- Whether switching to that state would change anything. -/
def switches (culling : Culling) (enabled : Bool) : Bool :=
  culling.isOn != enabled

def switch (culling : Culling) (enabled : Bool) : Culling :=
  if culling.switches enabled then
    { culling with rect := if enabled then some Rect.empty else none }
  else
    culling

def link (culling : Culling) (content : CulledContent) : Culling :=
  { culling with content := content }

def visibleRect (culling : Culling) : Except Unavailable Rect :=
  match culling.rect with
  | some rect => .ok rect
  | none => .error .visibleRect

/-- Keep a new rectangle and hand it on. -/
def reveal (culling : Culling) (rect : Rect) : Culling :=
  ⟨some rect, culling.content.receive rect⟩

/-- Find the visible rectangle anew.  Nothing happens while culling is off. -/
def update (culling : Culling) (surroundings : Surroundings) (offset : Offset)
    (width height : Px) : Except Fault Culling :=
  if culling.isOn then
    (surroundings.visible offset width height).map culling.reveal
  else
    .ok culling

/-! ## Laws -/

theorem switch_isOn (culling : Culling) (enabled : Bool) :
    (culling.switch enabled).isOn = enabled := by
  unfold switch switches
  cases on : culling.isOn <;> cases enabled <;> simp_all [isOn]

theorem switch_content (culling : Culling) (enabled : Bool) :
    (culling.switch enabled).content = culling.content := by
  unfold switch
  split <;> rfl

theorem update_isOn {culling updated : Culling} {surroundings : Surroundings} {offset : Offset}
    {width height : Px}
    (done : culling.update surroundings offset width height = .ok updated) :
    updated.isOn = culling.isOn := by
  unfold update at done
  split at done
  · next on =>
      cases visible : surroundings.visible offset width height with
      | error fault => simp [visible, Except.map] at done
      | ok rect =>
          simp only [visible, Except.map, Except.ok.injEq] at done
          rw [← done, on]
          rfl
  · injection done with same
    rw [same]

end Culling

end KineticScroll
