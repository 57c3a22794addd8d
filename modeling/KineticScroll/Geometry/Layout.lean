import KineticScroll.Number.Pixel

/-!
# Layout

A pane shows content through a viewport.  Vertical padding narrows the window
that the content passes, and the extent is how far the content can be moved
before its end reaches the end of the window.
-/

namespace KineticScroll

structure Viewport where
  width : Px
  height : Px
  paddingTop : Px
  paddingBottom : Px
deriving DecidableEq

structure ContentSize where
  width : Px
  height : Px
deriving DecidableEq

namespace Viewport

def zero : Viewport :=
  ⟨0, 0, 0, 0⟩

def windowHeight (viewport : Viewport) : Except Fault Px := do
  let belowPadding ← Px.sub viewport.height viewport.paddingTop
  Px.sub belowPadding viewport.paddingBottom

/-- The greatest offset at which content of the given height still fills the window. -/
def greatestOffset (viewport : Viewport) (contentHeight : Px) : Except Fault Px := do
  let window ← viewport.windowHeight
  return max (Px.satSub contentHeight window) 0

end Viewport

namespace ContentSize

def zero : ContentSize :=
  ⟨0, 0⟩

end ContentSize

/-- The offsets that a pane may come to rest at reach from zero to this limit. -/
structure Extent where
  limit : Px
deriving DecidableEq

namespace Extent

def zero : Extent :=
  ⟨0⟩

/-- Without content nothing can be moved. -/
def measure (content : Option ContentSize) (viewport : Viewport) : Except Fault Extent :=
  match content with
  | some size => (viewport.greatestOffset size.height).map Extent.mk
  | none => .ok zero

/-- Where an offset past the end has to go back to. -/
def overrun? (extent : Extent) (offset : Px) : Option Px :=
  if extent.limit < offset then some extent.limit else none

def clamp (extent : Extent) (offset : Px) : Except Fault Px :=
  Px.clamp offset 0 extent.limit

/-! ## Laws -/

/-- No extent ends before its start. -/
theorem measure_nonneg {content : Option ContentSize} {viewport : Viewport} {extent : Extent}
    (measured : measure content viewport = .ok extent) : 0 ≤ extent.limit := by
  cases content with
  | none =>
      injection measured with same
      rw [← same]
      decide
  | some size =>
      cases window : viewport.windowHeight with
      | error fault =>
          simp [measure, Viewport.greatestOffset, window, bind, Except.bind, Except.map] at measured
      | ok height =>
          simp only [measure, Viewport.greatestOffset, window, bind, Except.bind, pure,
            Except.pure, Except.map, Except.ok.injEq] at measured
          rw [← measured]
          show 0 ≤ (if Px.satSub size.height height ≤ 0 then 0 else Px.satSub size.height height)
          split
          · decide
          · simp_all only [Int32.le_iff_toInt_le]
            omega

theorem overrun?_eq_some_iff (extent : Extent) (offset limit : Px) :
    extent.overrun? offset = some limit ↔ extent.limit < offset ∧ limit = extent.limit := by
  simp [overrun?, eq_comm]

end Extent

end KineticScroll
