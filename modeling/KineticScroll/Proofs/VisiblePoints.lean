import KineticScroll.Geometry.Visibility
import KineticScroll.Proofs.Outcome

/-!
# The points that are seen

The visible rectangle is found from edges.  Which points lie in it can be said
without them: a point of the scrolled content is moved back by the scroll offset
into the pane, and is seen if it lies in the viewport there, or, moved on to the
corner of the frame, in the clip of the parent and in the frame.  An exclusive
edge, a rectangle turned inside out and one that only touches the other need no
rule of their own.
-/

namespace KineticScroll

/-- A rectangle that has been moved holds the points that it held before, moved as well. -/
theorem Rect.contains_of_shift {rect shifted : Rect} {right down : Px}
    (moved : rect.shift right down = .ok shifted) (x y : Int) :
    shifted.Contains x y ↔ rect.Contains (x - right.toInt) (y - down.toInt) := by
  obtain ⟨newLeft, left, moved⟩ := Outcome.bind_eq_ok_iff.mp moved
  obtain ⟨newTop, top, moved⟩ := Outcome.bind_eq_ok_iff.mp moved
  obtain ⟨newRight, farther, moved⟩ := Outcome.bind_eq_ok_iff.mp moved
  obtain ⟨newBottom, bottom, same⟩ := Outcome.bind_eq_ok_iff.mp moved
  cases same
  unfold Contains
  rw [Px.exact_eq_ok_iff.mp left, Px.exact_eq_ok_iff.mp top, Px.exact_eq_ok_iff.mp farther,
    Px.exact_eq_ok_iff.mp bottom]
  omega

theorem Rect.not_contains_empty (x y : Int) : ¬Rect.empty.Contains x y :=
  (Rect.isEmpty_iff_forall_not_contains Rect.empty).mp (by decide) x y

namespace Surroundings

/--
A point of the scrolled content is to be seen: in the viewport, or in what the
parent shows of itself and in the frame, once the scrolling has been undone.
-/
def ShowsPoint (surroundings : Surroundings) (offset : Offset) (width height : Px) (x y : Int) :
    Prop :=
  let inPaneX := x - offset.x.toInt
  let inPaneY := y - offset.y.toInt
  match surroundings with
  | .detached => False
  | .unclipped =>
      (0 ≤ inPaneX ∧ inPaneX < width.toInt) ∧ (0 ≤ inPaneY ∧ inPaneY < height.toInt)
  | .clipping clip frame =>
      clip.Contains (inPaneX + frame.left.toInt) (inPaneY + frame.top.toInt) ∧
        frame.Contains (inPaneX + frame.left.toInt) (inPaneY + frame.top.toInt)

variable {offset : Offset} {width height : Px} {clip frame rect : Rect}

/-- In a clipping parent nothing is found, or the common part is moved twice. -/
theorem visible_clipping_eq_ok
    (found : (clipping clip frame).visible offset width height = .ok rect) :
    clip.overlap? frame = none ∧ rect = Rect.empty ∨
      ∃ common toCornerX toCornerY inPane,
        clip.overlap? frame = some common ∧
        Px.neg frame.left = .ok toCornerX ∧ Px.neg frame.top = .ok toCornerY ∧
        common.shift toCornerX toCornerY = .ok inPane ∧
        inPane.shift offset.x offset.y = .ok rect := by
  unfold visible at found
  dsimp only at found
  split at found
  · next apart =>
      cases found
      exact .inl ⟨apart, rfl⟩
  · next common overlap =>
      obtain ⟨toCornerX, negated, found⟩ := Outcome.bind_eq_ok_iff.mp found
      obtain ⟨toCornerY, negatedDown, found⟩ := Outcome.bind_eq_ok_iff.mp found
      obtain ⟨inPane, inward, outward⟩ := Outcome.bind_eq_ok_iff.mp found
      exact .inr ⟨common, toCornerX, toCornerY, inPane, overlap, negated, negatedDown, inward,
        outward⟩

/-- The points of the visible rectangle are the points that are to be seen. -/
theorem contains_visible_iff {surroundings : Surroundings}
    (found : surroundings.visible offset width height = .ok rect) (x y : Int) :
    rect.Contains x y ↔ surroundings.ShowsPoint offset width height x y := by
  cases surroundings with
  | detached =>
      cases found
      exact iff_of_false (Rect.not_contains_empty x y) id
  | unclipped =>
      obtain ⟨right, added, found⟩ := Outcome.bind_eq_ok_iff.mp found
      obtain ⟨bottom, addedDown, same⟩ := Outcome.bind_eq_ok_iff.mp found
      cases same
      unfold Rect.Contains ShowsPoint
      rw [Px.exact_eq_ok_iff.mp added, Px.exact_eq_ok_iff.mp addedDown]
      dsimp only
      omega
  | clipping clip frame =>
      unfold ShowsPoint
      dsimp only
      rcases visible_clipping_eq_ok found with
        ⟨apart, rfl⟩ | ⟨common, toCornerX, toCornerY, inPane, overlap, negated, negatedDown,
          inward, outward⟩
      · exact iff_of_false (Rect.not_contains_empty x y)
          ((Rect.overlap?_eq_none_iff clip frame).mp apart _ _)
      · obtain ⟨rfl, _⟩ := (Rect.overlap?_eq_some_iff _ _ _).mp overlap
        rw [Rect.contains_of_shift outward, Rect.contains_of_shift inward,
          Rect.contains_meet_iff, Px.exact_eq_ok_iff.mp negated,
          Px.exact_eq_ok_iff.mp negatedDown, Int.sub_neg, Int.sub_neg]

/-- Only rectangles without a common point leave nothing, and these never overflow. -/
theorem visible_clipping_eq_empty_iff :
    (clipping clip frame).visible offset width height = .ok Rect.empty ↔
      ∀ x y, ¬(clip.Contains x y ∧ frame.Contains x y) := by
  rw [← Rect.overlap?_eq_none_iff]
  constructor
  · intro found
    rcases visible_clipping_eq_ok found with ⟨apart, _⟩ | ⟨common, _, _, _, overlap, _⟩
    · exact apart
    · -- A common point would be seen, but the empty rectangle holds none.
      rw [Rect.overlap?_eq_none_iff]
      intro x y shared
      have seen := contains_visible_iff found (x - frame.left.toInt + offset.x.toInt)
        (y - frame.top.toInt + offset.y.toInt)
      apply Rect.not_contains_empty _ _ (seen.mpr _)
      unfold ShowsPoint
      dsimp only
      rw [Int.add_sub_cancel, Int.add_sub_cancel, Int.sub_add_cancel, Int.sub_add_cancel]
      exact shared
  · intro apart
    rw [visible, apart]

/--
A point lies in the visible rectangle if and only if it is to be seen there.  In
a clipping parent the rectangle is the empty one if and only if the clip of the
parent and the frame have no common point, and then nothing overflows.
-/
theorem visible_exact :
    (∀ (surroundings : Surroundings) (offset : Offset) (width height : Px) (rect : Rect),
      surroundings.visible offset width height = .ok rect →
        ∀ x y, rect.Contains x y ↔ surroundings.ShowsPoint offset width height x y) ∧
    ∀ (clip frame : Rect) (offset : Offset) (width height : Px),
      (clipping clip frame).visible offset width height = .ok Rect.empty ↔
        ∀ x y, ¬(clip.Contains x y ∧ frame.Contains x y) :=
  ⟨fun _ _ _ _ _ found => contains_visible_iff found,
    fun _ _ _ _ _ => visible_clipping_eq_empty_iff⟩

/-- A frame that the parent cuts off on three sides, and one that only touches the clip. -/
theorem visible_exact_at_edges :
    (clipping ⟨20, 100, 300, 400⟩ ⟨10, 50, 310, 550⟩).visible ⟨0, 200⟩ 300 500 =
      .ok ⟨10, 250, 290, 550⟩ ∧
    (Rect.Contains ⟨10, 250, 290, 550⟩ 10 549 ↔
      (clipping ⟨20, 100, 300, 400⟩ ⟨10, 50, 310, 550⟩).ShowsPoint ⟨0, 200⟩ 300 500 10 549) ∧
    (Rect.Contains ⟨10, 250, 290, 550⟩ 10 550 ↔
      (clipping ⟨20, 100, 300, 400⟩ ⟨10, 50, 310, 550⟩).ShowsPoint ⟨0, 200⟩ 300 500 10 550) ∧
    Rect.Contains ⟨10, 250, 290, 550⟩ 10 549 ∧ ¬Rect.Contains ⟨10, 250, 290, 550⟩ 10 550 ∧
    (clipping ⟨0, 0, 100, 100⟩ ⟨100, 0, 200, 100⟩).visible ⟨0, 200⟩ 100 100 = .ok Rect.empty ∧
    ∀ x y, ¬(Rect.Contains ⟨0, 0, 100, 100⟩ x y ∧ Rect.Contains ⟨100, 0, 200, 100⟩ x y) := by
  have found : (clipping ⟨20, 100, 300, 400⟩ ⟨10, 50, 310, 550⟩).visible ⟨0, 200⟩ 300 500 =
      .ok ⟨10, 250, 290, 550⟩ := rfl
  have touching :
      (clipping ⟨0, 0, 100, 100⟩ ⟨100, 0, 200, 100⟩).visible ⟨0, 200⟩ 100 100 =
        .ok Rect.empty := rfl
  obtain ⟨points, empty⟩ := visible_exact
  exact ⟨found, points _ _ _ _ _ found 10 549, points _ _ _ _ _ found 10 550,
    by unfold Rect.Contains; decide, by unfold Rect.Contains; decide, touching,
    (empty _ _ _ _ _).mp touching⟩

end Surroundings

end KineticScroll
