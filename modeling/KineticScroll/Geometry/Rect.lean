import KineticScroll.Number.Pixel

/-!
# Rectangles

A rectangle holds the points from its left and top edges up to, and without,
its right and bottom edges.  Edges in the wrong order or touching leave it
empty.
-/

namespace KineticScroll

structure Rect where
  left : Px
  top : Px
  right : Px
  bottom : Px
deriving DecidableEq

namespace Rect

def empty : Rect :=
  ⟨0, 0, 0, 0⟩

def isEmpty (rect : Rect) : Bool :=
  rect.right ≤ rect.left || rect.bottom ≤ rect.top

def width (rect : Rect) : Except Fault Px :=
  Px.sub rect.right rect.left

def height (rect : Rect) : Except Fault Px :=
  Px.sub rect.bottom rect.top

/-- The innermost of each pair of edges. -/
def meet (first second : Rect) : Rect where
  left := max first.left second.left
  top := max first.top second.top
  right := min first.right second.right
  bottom := min first.bottom second.bottom

/-- The common part of two rectangles, if there is one. -/
def overlap? (first second : Rect) : Option Rect :=
  let common := meet first second
  if common.isEmpty then none else some common

def shift (rect : Rect) (right down : Px) : Except Fault Rect := do
  let newLeft ← Px.add rect.left right
  let newTop ← Px.add rect.top down
  let newRight ← Px.add rect.right right
  let newBottom ← Px.add rect.bottom down
  return ⟨newLeft, newTop, newRight, newBottom⟩

/-- The point lies in the rectangle. -/
def Contains (rect : Rect) (x y : Int) : Prop :=
  (rect.left.toInt ≤ x ∧ x < rect.right.toInt) ∧
    (rect.top.toInt ≤ y ∧ y < rect.bottom.toInt)

/-! ## Laws -/

theorem isEmpty_iff (rect : Rect) :
    rect.isEmpty = true ↔
      rect.right.toInt ≤ rect.left.toInt ∨ rect.bottom.toInt ≤ rect.top.toInt := by
  simp [isEmpty, Int32.le_iff_toInt_le]

/-- A rectangle is empty just when no point lies in it. -/
theorem isEmpty_iff_forall_not_contains (rect : Rect) :
    rect.isEmpty = true ↔ ∀ x y, ¬ rect.Contains x y := by
  rw [isEmpty_iff]
  unfold Contains
  constructor
  · intro crossed x y inside
    omega
  · intro none_inside
    have corner := none_inside rect.left.toInt rect.top.toInt
    omega

/-- The points of the meet are the common points. -/
theorem contains_meet_iff (first second : Rect) (x y : Int) :
    (meet first second).Contains x y ↔ first.Contains x y ∧ second.Contains x y := by
  unfold Contains meet
  simp only [Px.toInt_max, Px.toInt_min]
  omega

theorem overlap?_eq_none_iff (first second : Rect) :
    first.overlap? second = none ↔ ∀ x y, ¬ (first.Contains x y ∧ second.Contains x y) := by
  simp only [← contains_meet_iff, ← isEmpty_iff_forall_not_contains]
  simp [overlap?]

theorem overlap?_eq_some_iff (first second common : Rect) :
    first.overlap? second = some common ↔
      common = meet first second ∧ common.isEmpty = false := by
  unfold overlap?
  constructor
  · intro found
    dsimp only at found
    split at found
    · cases found
    · next filled =>
        injection found with same
        exact ⟨same.symm, by simpa [same] using filled⟩
  · rintro ⟨rfl, filled⟩
    simp [filled]

end Rect

end KineticScroll
