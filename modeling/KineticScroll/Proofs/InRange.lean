import KineticScroll.Proofs.ContentEnd
import KineticScroll.Proofs.Pages
import KineticScroll.Proofs.RestingPlace
import KineticScroll.Proofs.StockPhysics
import KineticScroll.Proofs.VisibleRect

/-!
# Arithmetic that stays in range

Positions and sizes are added and subtracted with a fault where the result
leaves the range.  When the host keeps every size, rectangle and position that
it gives within a quarter of a billion pixels, and the physics reports no
position beyond that, no such fault ever comes: the content is then never moved
any further, and no sum or difference has more than a few of these as its terms.
-/

namespace KineticScroll

/-! ## Exact results -/

namespace Px

theorem exists_exact (operation : Arithmetic) {value : Int} (above : -2147483648 ≤ value)
    (below : value < 2147483648) :
    ∃ result, exact operation value = .ok result ∧ result.toInt = value := by
  have inside : least.toInt ≤ value ∧ value ≤ greatest.toInt :=
    ⟨above, Int.le_of_lt_add_one below⟩
  have computed : exact operation value = .ok (Int32.ofInt value) := if_pos inside
  exact ⟨_, computed, exact_eq_ok_iff.mp computed⟩

theorem exists_add {first second : Px} (above : -2147483648 ≤ first.toInt + second.toInt)
    (below : first.toInt + second.toInt < 2147483648) :
    ∃ sum, add first second = .ok sum ∧ sum.toInt = first.toInt + second.toInt :=
  exists_exact .add above below

theorem exists_sub {first second : Px} (above : -2147483648 ≤ first.toInt - second.toInt)
    (below : first.toInt - second.toInt < 2147483648) :
    ∃ difference, sub first second = .ok difference ∧
      difference.toInt = first.toInt - second.toInt :=
  exists_exact .subtract above below

theorem exists_neg {value : Px} (above : -2147483648 ≤ -value.toInt)
    (below : -value.toInt < 2147483648) :
    ∃ opposite, neg value = .ok opposite ∧ opposite.toInt = -value.toInt :=
  exists_exact .negate above below

/-- Up to two to the power of 28: what a host may give without any fault. -/
def Modest (value : Px) : Prop :=
  -268435456 ≤ value.toInt ∧ value.toInt ≤ 268435456

instance (value : Px) : Decidable (Modest value) :=
  inferInstanceAs (Decidable (_ ∧ _))

theorem Modest.of_nonneg {value bound : Px} (modest : Modest bound) (above : 0 ≤ value)
    (below : value ≤ bound) : Modest value := by
  have zero : (0 : Px).toInt = 0 := by decide
  rw [Int32.le_iff_toInt_le] at above below
  obtain ⟨_, most⟩ := modest
  exact ⟨by omega, by omega⟩

/-- All of these pixels are modest. -/
def AllModest (pixels : List Px) : Prop :=
  ∀ value ∈ pixels, Modest value

-- Only the pixels in the list are tried: there are too many of them to try every one.
instance (pixels : List Px) : Decidable (AllModest pixels) :=
  List.decidableBAll Modest pixels

end Px

/-! ## Layout -/

def Viewport.pixels (viewport : Viewport) : List Px :=
  [viewport.width, viewport.height, viewport.paddingTop, viewport.paddingBottom]

def ContentSize.pixels (size : ContentSize) : List Px :=
  [size.width, size.height]

def Rect.pixels (rect : Rect) : List Px :=
  [rect.left, rect.top, rect.right, rect.bottom]

def Surroundings.pixels : Surroundings → List Px
  | .detached => []
  | .unclipped => []
  | .clipping clip frame => clip.pixels ++ frame.pixels

def Offset.pixels (offset : Offset) : List Px :=
  [offset.x, offset.y]

theorem Viewport.exists_windowHeight {viewport : Viewport} (modest : Px.AllModest viewport.pixels) :
    ∃ window, viewport.windowHeight = .ok window := by
  simp only [Px.AllModest, pixels, List.forall_mem_cons, Px.Modest] at modest
  obtain ⟨_, height, top, bottom, _⟩ := modest
  obtain ⟨belowPadding, first, same⟩ := @Px.exists_sub viewport.height viewport.paddingTop
    (by omega) (by omega)
  obtain ⟨window, second, _⟩ := @Px.exists_sub belowPadding viewport.paddingBottom
    (by omega) (by omega)
  exact ⟨window, Outcome.bind_eq_ok_iff.mpr ⟨belowPadding, first, second⟩⟩

theorem Extent.exists_measure {viewport : Viewport} (modest : Px.AllModest viewport.pixels)
    (content : Option ContentSize) : ∃ extent, measure content viewport = .ok extent := by
  cases content with
  | none => exact ⟨zero, rfl⟩
  | some size =>
      obtain ⟨window, found⟩ := Viewport.exists_windowHeight modest
      exact ⟨_, Outcome.map_eq_ok_iff.mpr
        ⟨_, Outcome.bind_eq_ok_iff.mpr ⟨window, found, rfl⟩, rfl⟩⟩

/-- Offsets can be clamped into an extent, which moves none of them outwards. -/
theorem Extent.exists_clamp {extent : Extent} (ordered : 0 ≤ extent.limit) (y : Px) :
    ∃ within, extent.clamp y = .ok within ∧ (Px.Modest y → Px.Modest within) := by
  let span : Span := ⟨0, extent.limit, ordered⟩
  have between : Span.between 0 extent.limit = .ok span := dif_pos ordered
  refine ⟨span.clamp y, Outcome.map_eq_ok_iff.mpr ⟨span, between, rfl⟩, ?_⟩
  intro modest
  unfold Span.clamp
  split
  · exact (by decide : Px.Modest 0)
  · split
    · next past => exact modest.of_nonneg ordered (Int32.le_of_lt past)
    · exact modest

/-! ## Offsets -/

theorem Offset.allModest_iff (offset : Offset) :
    Px.AllModest offset.pixels ↔ Px.Modest offset.x ∧ Px.Modest offset.y := by
  simp [Px.AllModest, pixels]

/-- Edges up to a bound are moved by a distance up to another one. -/
theorem Rect.exists_shift {rect : Rect} {right down : Px} {bound way : Int}
    (edges : ∀ value ∈ rect.pixels, -bound ≤ value.toInt ∧ value.toInt ≤ bound)
    (across : -way ≤ right.toInt ∧ right.toInt ≤ way)
    (along : -way ≤ down.toInt ∧ down.toInt ≤ way) (small : bound + way < 2147483648) :
    ∃ shifted, rect.shift right down = .ok shifted ∧
      ∀ value ∈ shifted.pixels, -(bound + way) ≤ value.toInt ∧ value.toInt ≤ bound + way := by
  simp only [pixels, List.forall_mem_cons] at edges
  obtain ⟨newLeft, leftAdded, leftSame⟩ := @Px.exists_add rect.left right (by omega) (by omega)
  obtain ⟨newTop, topAdded, topSame⟩ := @Px.exists_add rect.top down (by omega) (by omega)
  obtain ⟨newRight, rightAdded, rightSame⟩ := @Px.exists_add rect.right right (by omega) (by omega)
  obtain ⟨newBottom, bottomAdded, bottomSame⟩ :=
    @Px.exists_add rect.bottom down (by omega) (by omega)
  refine ⟨⟨newLeft, newTop, newRight, newBottom⟩, ?_, ?_⟩
  · rw [shift, leftAdded, topAdded, rightAdded, bottomAdded]
    rfl
  · simp only [pixels, List.forall_mem_cons, List.not_mem_nil, false_implies, implies_true,
      and_true]
    omega

theorem Surroundings.exists_visible {surroundings : Surroundings} {offset : Offset}
    {width height : Px} (modest : Px.AllModest surroundings.pixels)
    (modestOffset : Px.AllModest offset.pixels)
    (modestWidth : Px.Modest width) (modestHeight : Px.Modest height) :
    ∃ rect, surroundings.visible offset width height = .ok rect := by
  rw [Offset.allModest_iff] at modestOffset
  simp only [Px.Modest] at modestOffset modestWidth modestHeight
  cases surroundings with
  | detached => exact ⟨_, rfl⟩
  | unclipped =>
      obtain ⟨right, added, _⟩ := @Px.exists_add offset.x width (by omega) (by omega)
      obtain ⟨bottom, addedDown, _⟩ := @Px.exists_add offset.y height (by omega) (by omega)
      refine ⟨⟨offset.x, offset.y, right, bottom⟩, ?_⟩
      rw [visible, added, addedDown]
      rfl
  | clipping clip frame =>
      cases overlap : clip.overlap? frame with
      | none => exact ⟨Rect.empty, by rw [visible, overlap]⟩
      | some common =>
          simp only [Px.AllModest, pixels, Rect.pixels, List.forall_mem_append,
            List.forall_mem_cons, Px.Modest] at modest
          obtain ⟨same, _⟩ := (Rect.overlap?_eq_some_iff _ _ _).mp overlap
          obtain ⟨toCornerX, negated, sameX⟩ := @Px.exists_neg frame.left (by omega) (by omega)
          obtain ⟨toCornerY, negatedDown, sameY⟩ := @Px.exists_neg frame.top (by omega) (by omega)
          -- The common part lies within the modest edges, and each shift widens their bound.
          have edges : ∀ value ∈ common.pixels,
              -268435456 ≤ value.toInt ∧ value.toInt ≤ 268435456 := by
            simp only [same, Rect.pixels, Rect.meet, List.forall_mem_cons, List.not_mem_nil,
              false_implies, implies_true, and_true, Px.toInt_max, Px.toInt_min]
            omega
          have cornerX : -268435456 ≤ toCornerX.toInt ∧ toCornerX.toInt ≤ 268435456 := by omega
          have cornerY : -268435456 ≤ toCornerY.toInt ∧ toCornerY.toInt ≤ 268435456 := by omega
          obtain ⟨inPane, shifted, wider⟩ := Rect.exists_shift edges cornerX cornerY (by decide)
          obtain ⟨rect, scrolled, _⟩ :=
            Rect.exists_shift wider modestOffset.1 modestOffset.2 (by decide)
          refine ⟨rect, ?_⟩
          rw [visible, overlap]
          exact Outcome.bind_eq_ok_iff.mpr ⟨toCornerX, negated, Outcome.bind_eq_ok_iff.mpr
            ⟨toCornerY, negatedDown, Outcome.bind_eq_ok_iff.mpr ⟨inPane, shifted, scrolled⟩⟩⟩

theorem Culling.exists_update (culling : Culling) {surroundings : Surroundings} {offset : Offset}
    {viewport : Viewport} (modest : Px.AllModest surroundings.pixels)
    (modestOffset : Px.AllModest offset.pixels)
    (modestViewport : Px.AllModest viewport.pixels) :
    ∃ updated, culling.update surroundings offset viewport.width viewport.height = .ok updated := by
  unfold update
  split
  · obtain ⟨rect, visible⟩ := Surroundings.exists_visible modest modestOffset
      (modestViewport viewport.width (by simp [Viewport.pixels]))
      (modestViewport viewport.height (by simp [Viewport.pixels]))
    exact ⟨_, Outcome.map_eq_ok_iff.mpr ⟨rect, visible, rfl⟩⟩
  · exact ⟨culling, rfl⟩

/-- The distance between two modest offsets can be told. -/
theorem MovementFilter.exists_report {filter : MovementFilter} {offset : Offset}
    (modest : Px.AllModest offset.pixels)
    (seen : ∀ last, filter.last = some last → Px.AllModest last.offset.pixels) (now : Millis) :
    ∃ outcome, filter.report offset now = .ok outcome := by
  cases last : filter.last with
  | none => exact ⟨_, by rw [report, last]⟩
  | some sighting =>
      by_cases same : sighting.offset = offset
      · exact ⟨_, report_of_last_eq (by rw [last, Option.map_some, same]) now⟩
      · have before := seen sighting last
        rw [Offset.allModest_iff] at modest before
        simp only [Px.Modest] at modest before
        obtain ⟨right, subtracted, _⟩ := @Px.exists_sub offset.x sighting.offset.x
          (by omega) (by omega)
        obtain ⟨down, subtractedDown, _⟩ := @Px.exists_sub offset.y sighting.offset.y
          (by omega) (by omega)
        have found : ∃ velocity, filter.velocitySince sighting offset now = .ok velocity := by
          unfold velocitySince
          dsimp only
          split
          · exact ⟨_, rfl⟩
          · rw [velocityBetween, subtracted, subtractedDown]
            exact ⟨_, rfl⟩
        obtain ⟨velocity, computed⟩ := found
        refine ⟨accept offset now velocity, ?_⟩
        rw [report, last]
        dsimp only
        rw [if_neg same, computed]
        rfl

/-! ## Physics -/

/-- Physics that can be flung whenever the bounds of the launch are in order. -/
class FlingablePhysics (σ : Type) [ScrollPhysics σ] : Prop where
  exists_fling (physics : σ) {launch : Launch} (ordered : launch.lowest ≤ launch.highest)
    (now : Millis) : ∃ flung, ScrollPhysics.fling physics launch now = .ok flung

instance : FlingablePhysics Decay where
  exists_fling decay _ ordered now := by
    obtain ⟨flung, launched, _⟩ := decay.exists_fling ordered now
    exact ⟨flung, launched⟩

instance : FlingablePhysics Stride where
  exists_fling _ _ _ _ := ⟨_, rfl⟩

theorem Animation.exists_startFling {σ : Type} [ScrollPhysics σ] [FlingablePhysics σ]
    (animation : Animation σ) {launch : Launch} (ordered : launch.lowest ≤ launch.highest)
    (now : Millis) : ∃ started, animation.startFling launch now = .ok started := by
  unfold startFling
  split
  · exact ⟨_, rfl⟩
  · next physics held =>
      obtain ⟨flung, launched⟩ := FlingablePhysics.exists_fling physics ordered now
      exact ⟨_, Outcome.map_eq_ok_iff.mpr ⟨flung, launched, rfl⟩⟩

/-- A free fling has no end below, so its bounds are in order. -/
theorem Animation.exists_respond {σ : Type} (animation : Animation σ) (velocity : Px)
    {release : Release} (modest : Px.AllModest release.viewport.pixels) :
    ∃ response, animation.respond velocity release = .ok response ∧
      ∀ launch, response = .free launch → launch.lowest ≤ launch.highest := by
  unfold respond
  split
  · obtain ⟨page, found⟩ := Page.exists_target release.offset.y velocity release.pageSize
    exact ⟨.page page, Outcome.map_eq_ok_iff.mpr ⟨page, found, rfl⟩, nofun⟩
  · split
    · obtain ⟨window, found⟩ := Viewport.exists_windowHeight modest
      refine ⟨_, Outcome.map_eq_ok_iff.mpr
        ⟨_, Outcome.bind_eq_ok_iff.mpr ⟨window, found, rfl⟩, rfl⟩, ?_⟩
      rintro _ ⟨⟩
      have ordered : (0 : Px) ≤ Px.greatest := by decide
      exact ordered
    · exact ⟨_, rfl, nofun⟩

namespace Pane

variable {σ : Type}

/-! ## Moderate panes -/

/-- The sizes that a pane has been given are modest, and its offset is one they lead to. -/
structure Moderate (pane : Pane σ) : Prop where
  viewport : Px.AllModest pane.viewport.pixels
  content : ∀ size, pane.content = some size → Px.AllModest size.pixels
  surroundings : Px.AllModest pane.surroundings.pixels
  offset : Px.AllModest pane.offset.pixels
  located : Located pane

namespace Moderate

variable {pane next : Pane σ}

theorem keep (moderate : Moderate pane) (layout : SameLayout pane next)
    (surroundings : next.surroundings = pane.surroundings)
    (offset : Px.AllModest next.offset.pixels) (located : Located next) : Moderate next := by
  refine ⟨?_, ?_, ?_, offset, located⟩
  · rw [layout.viewport]
    exact moderate.viewport
  · rw [layout.content]
    exact moderate.content
  · rw [surroundings]
    exact moderate.surroundings

/-- What leaves layout and view alone leaves a pane moderate. -/
theorem keep_view (moderate : Moderate pane) (layout : SameLayout pane next)
    (view : next.view = pane.view) (movements : next.movements = pane.movements) :
    Moderate next := by
  have offset : next.offset = pane.offset := congrArg View.offset view
  refine moderate.keep layout (congrArg View.surroundings view) ?_ ?_
  · rw [offset]
    exact moderate.offset
  · rw [Located, sightedOffset, offset, movements]
    exact moderate.located

theorem recull (moderate : Moderate pane) (culling : Culling) :
    Moderate { pane with culling := culling } :=
  moderate.keep ⟨rfl, rfl, rfl⟩ rfl moderate.offset moderate.located

theorem modestY (moderate : Moderate pane) : Px.Modest pane.offset.y :=
  ((Offset.allModest_iff _).mp moderate.offset).2

theorem seen (moderate : Moderate pane) (last : Sighting)
    (sighted : pane.movements.last = some last) :
    Px.AllModest last.offset.pixels := by
  have located : pane.offset = last.offset := by
    rw [moderate.located, sightedOffset, sighted]
    rfl
  rw [← located]
  exact moderate.offset

end Moderate

theorem Moderate.exists_refreshCulling {pane : Pane σ} (moderate : Moderate pane) :
    ∃ next, pane.refreshCulling = .ok next ∧ Moderate next := by
  obtain ⟨culling, updated⟩ := pane.culling.exists_update moderate.surroundings moderate.offset
    moderate.viewport
  exact ⟨_, Outcome.bind_eq_ok_iff.mpr ⟨culling, updated, rfl⟩, moderate.recull culling⟩

theorem Moderate.exists_configure {pane : Pane σ} (moderate : Moderate pane) (settings : Settings) :
    ∃ next, pane.configure settings = .ok next ∧ Moderate next := by
  unfold configure
  dsimp only
  have configured : Moderate { pane with
      settings := settings, culling := pane.culling.switch settings.culling } :=
    moderate.keep ⟨rfl, rfl, rfl⟩ rfl moderate.offset moderate.located
  split
  · exact configured.exists_refreshCulling
  · exact ⟨_, rfl, configured⟩

/-! ## Moving -/

theorem Moderate.exists_reportPosition {pane : Pane σ} (moderate : Moderate pane)
    {position : Offset} (modest : Px.AllModest position.pixels) (now : Millis) :
    ∃ event next, pane.reportPosition position now = .ok (event, next) ∧ Moderate next := by
  obtain ⟨⟨movement, movements⟩, filtered⟩ :=
    MovementFilter.exists_report modest moderate.seen now
  have taken : ∃ outcome, pane.reportPosition position now = .ok outcome := by
    cases movement with
    | none => exact ⟨_, Outcome.bind_eq_ok_iff.mpr ⟨_, filtered, rfl⟩⟩
    | some movement =>
        have there : Px.AllModest movement.offset.pixels := by
          rw [MovementFilter.report_offset filtered]
          exact modest
        obtain ⟨culling, updated⟩ :=
          pane.culling.exists_update moderate.surroundings there moderate.viewport
        have moved : ∃ outcome, moveTo { pane with movements := movements } movement =
            .ok outcome :=
          ⟨_, Outcome.bind_eq_ok_iff.mpr
            ⟨_, Outcome.bind_eq_ok_iff.mpr ⟨culling, updated, rfl⟩, rfl⟩⟩
        obtain ⟨outcome, moved⟩ := moved
        exact ⟨_, Outcome.bind_eq_ok_iff.mpr ⟨_, filtered,
          Outcome.bind_eq_ok_iff.mpr ⟨outcome, moved, rfl⟩⟩⟩
  obtain ⟨⟨event, next⟩, reported⟩ := taken
  have arrives := reportPosition_arrives reported
  refine ⟨event, next, reported, moderate.keep (reportPosition_moves reported).sameLayout
    (reportPosition_watches reported).surroundings ?_ (arrives.located moderate.located)⟩
  rw [arrives.offset_eq moderate.located]
  exact modest

theorem Moderate.exists_jumpTo {pane : Pane σ} (moderate : Moderate pane) {y : Px}
    (modest : Px.Modest y) (now : Millis) :
    ∃ next, pane.jumpTo y now = .ok next ∧ Moderate next := by
  have asked : Moderate (pane.push (.jump ⟨pane.offset.x, y⟩)) :=
    moderate.keep ⟨rfl, rfl, rfl⟩ rfl moderate.offset moderate.located
  have target : Px.AllModest (Offset.pixels ⟨pane.offset.x, y⟩) :=
    (Offset.allModest_iff _).mpr ⟨((Offset.allModest_iff _).mp moderate.offset).1, modest⟩
  obtain ⟨event, next, reported, arrived⟩ := asked.exists_reportPosition target now
  exact ⟨next, Outcome.bind_eq_ok_iff.mpr ⟨_, reported, rfl⟩, arrived⟩

/-! ## Layout -/

/-- A new layout of modest sizes is measured, and content that overruns it is taken back. -/
theorem Moderate.exists_fitExtent {pane : Pane σ} (moderate : Moderate pane) (now : Millis) :
    ∃ next, pane.fitExtent now = .ok next ∧ Moderate next := by
  obtain ⟨extent, found⟩ := Extent.exists_measure moderate.viewport pane.content
  have measured : Moderate { pane with extent := extent } :=
    ⟨moderate.viewport, moderate.content, moderate.surroundings, moderate.offset, moderate.located⟩
  unfold fitExtent
  rw [found]
  dsimp only [bind, Except.bind]
  split
  · split
    · exact ⟨_, rfl, measured⟩
    · next limit overran =>
        obtain ⟨past, rfl⟩ := (extent.overrun?_eq_some_iff _ _).mp overran
        have modest := moderate.modestY.of_nonneg (Extent.measure_nonneg found)
          (Int32.le_of_lt past)
        exact measured.exists_jumpTo modest now
  · exact ⟨_, rfl, measured⟩

theorem Moderate.exists_layOut {pane : Pane σ} (moderate : Moderate pane) {viewport : Viewport}
    (modest : Px.AllModest viewport.pixels) (now : Millis) :
    ∃ next, pane.layOut viewport now = .ok next ∧ Moderate next := by
  have placed : Moderate { pane with viewport := viewport } :=
    ⟨modest, moderate.content, moderate.surroundings, moderate.offset, moderate.located⟩
  unfold layOut
  dsimp only
  split
  · obtain ⟨seen, refreshed, kept⟩ := placed.exists_refreshCulling
    obtain ⟨next, fitted, fits⟩ := kept.exists_fitExtent now
    exact ⟨next, Outcome.bind_eq_ok_iff.mpr ⟨seen, refreshed, fitted⟩, fits⟩
  · exact placed.exists_fitExtent now

theorem Moderate.exists_setContent {pane : Pane σ} (moderate : Moderate pane)
    {content : ContentSize} (modest : Px.AllModest content.pixels) (now : Millis) :
    ∃ next, pane.setContent content now = .ok next ∧ Moderate next := by
  have placed : Moderate { pane with content := some content } := by
    refine ⟨moderate.viewport, ?_, moderate.surroundings, moderate.offset, moderate.located⟩
    rintro size ⟨⟩
    exact modest
  exact placed.exists_fitExtent now

/-! ## Motion -/

variable [ScrollPhysics σ]

theorem Moderate.exists_glideTo {pane : Pane σ} (moderate : Moderate pane)
    (measured : Measured pane) (y : Px) (now : Millis) :
    ∃ next, pane.glideTo y now = .ok next ∧ Moderate next := by
  have rests : ∃ target, pane.restingPlace y = .ok target := by
    unfold restingPlace
    split
    · obtain ⟨target, clamped, _⟩ := Extent.exists_clamp (Extent.measure_nonneg measured) y
      exact ⟨target, clamped⟩
    · exact ⟨_, rfl⟩
  obtain ⟨target, found⟩ := rests
  have glides : ∃ next, pane.glideTo y now = .ok next :=
    ⟨_, Outcome.bind_eq_ok_iff.mpr ⟨target, found, rfl⟩⟩
  obtain ⟨next, glided⟩ := glides
  exact ⟨next, glided, moderate.keep_view (glideTo_steers glided).sameLayout (glideTo_view glided).1
    (glideTo_defers glided).movements⟩

theorem Moderate.exists_glideToPage {pane : Pane σ} (moderate : Moderate pane)
    (measured : Measured pane) (velocity : Px) (now : Millis) :
    ∃ next, pane.glideToPage velocity now = .ok next ∧ Moderate next := by
  obtain ⟨target, found⟩ := Page.exists_target pane.offset.y velocity
    (pane.settings.pageSize pane.viewport.height)
  obtain ⟨next, glided, kept⟩ := moderate.exists_glideTo measured target now
  exact ⟨next, Outcome.bind_eq_ok_iff.mpr ⟨target, found, glided⟩, kept⟩

theorem Moderate.exists_carryOut [FlingablePhysics σ] {pane : Pane σ} (moderate : Moderate pane)
    (measured : Measured pane) {response : Response}
    (ordered : ∀ launch, response = .free launch → launch.lowest ≤ launch.highest)
    (now : Millis) : ∃ next, pane.carryOut response now = .ok next := by
  cases response with
  | page target =>
      have told : Moderate (pane.emit .scroll pane.movements.velocity) :=
        moderate.keep_view ⟨rfl, rfl, rfl⟩ rfl rfl
      obtain ⟨next, glided, _⟩ := told.exists_glideTo measured target now
      exact ⟨next, glided⟩
  | free launch =>
      obtain ⟨started, begun⟩ := pane.animation.exists_startFling (ordered launch rfl) now
      exact ⟨_, Outcome.bind_eq_ok_iff.mpr ⟨started, begun, rfl⟩⟩
  | host velocity => exact ⟨_, rfl⟩

theorem Moderate.exists_fling [FlingablePhysics σ] {pane : Pane σ} (moderate : Moderate pane)
    (measured : Measured pane) (velocity : Px) (now : Millis) :
    ∃ next, pane.fling velocity now = .ok next ∧ Moderate next := by
  have flings : ∃ next, pane.fling velocity now = .ok next := by
    unfold Pane.fling
    split
    · have viewport : Px.AllModest pane.release.viewport.pixels := moderate.viewport
      obtain ⟨response, responded, ordered⟩ :=
        pane.animation.exists_respond velocity viewport
      obtain ⟨next, done⟩ := moderate.exists_carryOut measured ordered now
      exact ⟨next, Outcome.bind_eq_ok_iff.mpr ⟨response, responded, done⟩⟩
    · exact ⟨pane, rfl⟩
  obtain ⟨next, flung⟩ := flings
  have view := fling_view flung
  have offset : next.offset = pane.offset := congrArg View.offset view
  refine ⟨next, flung, moderate.keep (fling_sameLayout flung) (congrArg View.surroundings view) ?_
    ((fling_guides flung).located moderate.located)⟩
  rw [offset]
  exact moderate.offset

/-! ## Frames -/

/-- The position that the physics reports when it is advanced to answer an alarm. -/
def report? (pane : Pane σ) (now : Millis) : Wakeup → Option Px
  | .poll _ => none
  | .step generation => (pane.animation.step generation now).1.map Advance.position

/-- The positions that the physics reports while these wake-ups are answered. -/
def wakeReports (now : Millis) : Pane σ → List Wakeup → List Px
  | _, [] => []
  | pane, wakeup :: rest =>
      (pane.report? now wakeup).toList ++
        match pane.wake now wakeup with
        | .error _ => []
        | .ok next => next.wakeReports now rest

def Operation.reports (pane : Pane σ) : Operation → List Px
  | .frame now =>
      { pane with alarms := (pane.alarms.ring now).2 }.wakeReports now (pane.alarms.ring now).1
  | _ => []

/-- The positions that the physics reports in the course of these operations. -/
def reports : Pane σ → List Operation → List Px
  | _, [] => []
  | pane, operation :: rest =>
      operation.reports pane ++
        match pane.perform operation with
        | .error _ => []
        | .ok (_, next) => next.reports rest

theorem Measured.exists_landing {pane : Pane σ} (measured : Measured pane) {frame : Advance}
    (modest : Px.Modest frame.position) :
    ∃ landed, pane.landing frame = .ok landed ∧ Px.Modest landed.1 := by
  have stops : Px.Modest
      (pane.animation.stopAtEnd frame.position pane.extent.limit).1 := by
    unfold Animation.stopAtEnd
    split
    · exact modest
    · split
      · next past =>
          have reached := of_decide_eq_true (Bool.and_eq_true_iff.mp past).2
          exact modest.of_nonneg (Extent.measure_nonneg measured) reached
      · exact modest
  unfold landing
  split
  next position animation stopped =>
    rw [stopped] at stops
    split
    · obtain ⟨within, clamped, kept⟩ :=
        Extent.exists_clamp (Extent.measure_nonneg measured) position
      exact ⟨(within, animation), Outcome.bind_eq_ok_iff.mpr ⟨within, clamped, rfl⟩, kept stops⟩
    · exact ⟨(position, animation), rfl, stops⟩

theorem Moderate.exists_runStep {pane : Pane σ} (moderate : Moderate pane)
    (measured : Measured pane) {generation : UInt64} {now : Millis}
    (modest : Px.AllModest (pane.report? now (.step generation)).toList) :
    ∃ next, pane.runStep generation now = .ok next ∧ Moderate next := by
  cases stepped : pane.animation.step generation now with
  | mk frame animation =>
      rw [report?, stepped] at modest
      have advanced : Moderate { pane with animation := animation } :=
        moderate.keep_view ⟨rfl, rfl, rfl⟩ rfl rfl
      unfold runStep
      rw [stepped]
      cases frame with
      | none => exact ⟨_, rfl, advanced⟩
      | some frame =>
          have position : Px.Modest frame.position := modest _ (by simp)
          have extent : Measured { pane with animation := animation } := measured
          obtain ⟨⟨y, left⟩, landed, within⟩ := extent.exists_landing position
          have carried : Moderate { pane with animation := left } :=
            moderate.keep_view ⟨rfl, rfl, rfl⟩ rfl rfl
          obtain ⟨moved, jumped, arrived⟩ := carried.exists_jumpTo within now
          refine ⟨_, Outcome.bind_eq_ok_iff.mpr ⟨_, landed, Outcome.bind_eq_ok_iff.mpr
            ⟨moved, jumped, rfl⟩⟩, ?_⟩
          split
          · exact arrived.keep_view ⟨rfl, rfl, rfl⟩ rfl rfl
          · exact arrived

omit [ScrollPhysics σ] in
theorem Moderate.exists_returnToExtent {pane : Pane σ} (moderate : Moderate pane)
    (measured : Measured pane) (now : Millis) :
    ∃ next, pane.returnToExtent now = .ok next ∧ Moderate next := by
  unfold returnToExtent
  split
  · obtain ⟨target, clamped, kept⟩ :=
      Extent.exists_clamp (Extent.measure_nonneg measured) pane.offset.y
    rw [clamped]
    by_cases there : target = pane.offset.y
    · exact ⟨pane, if_pos there, moderate⟩
    · obtain ⟨moved, jumped, arrived⟩ := moderate.exists_jumpTo (kept moderate.modestY) now
      refine ⟨{ moved with state := { moved.state with active := false } }, ?_,
        arrived.keep_view ⟨rfl, rfl, rfl⟩ rfl rfl⟩
      refine (if_neg there).trans ?_
      rw [jumped]
      rfl
  · exact ⟨pane, rfl, moderate⟩

omit [ScrollPhysics σ] in
theorem Moderate.exists_finishSettling {pane : Pane σ} (moderate : Moderate pane)
    (measured : Measured pane) (now : Millis) :
    ∃ next, pane.finishSettling now = .ok next ∧ Moderate next := by
  have closed : Moderate { pane with state := { pane.state with flinging := false } } :=
    moderate.keep_view ⟨rfl, rfl, rfl⟩ rfl rfl
  obtain ⟨returned, placed, back⟩ := closed.exists_returnToExtent measured now
  refine ⟨_, Outcome.bind_eq_ok_iff.mpr ⟨returned, placed, rfl⟩, ?_⟩
  exact back.keep_view (announce_sameLayout returned _ _) (announce_view returned _ _)
    (announce_stays returned .momentumEnd .disable).movements

theorem Moderate.exists_runPoll {pane : Pane σ} (moderate : Moderate pane)
    (measured : Measured pane) (number : UInt64) (now : Millis) :
    ∃ next, pane.runPoll number now = .ok next ∧ Moderate next := by
  cases polled : pane.settling.poll number pane.state.active pane.settings.pagingEnabled with
  | mk decision settling =>
      unfold runPoll
      rw [polled]
      have seen : Moderate { pane with
          settling := settling, state := { pane.state with active := false } } :=
        moderate.keep_view ⟨rfl, rfl, rfl⟩ rfl rfl
      cases decision with
      | none => exact ⟨pane, rfl, moderate⟩
      | some decision =>
          cases decision with
          | moving => exact ⟨_, rfl, seen.keep_view ⟨rfl, rfl, rfl⟩ rfl rfl⟩
          | snap =>
              obtain ⟨snapped, glided, kept⟩ := seen.exists_glideToPage measured 0 now
              exact ⟨_, Outcome.map_eq_ok_iff.mpr ⟨snapped, glided, rfl⟩,
                kept.keep_view ⟨rfl, rfl, rfl⟩ rfl rfl⟩
          | settled => exact seen.exists_finishSettling measured now

/-- What is left of a frame can be answered without a fault. -/
structure Answerable (now : Millis) (pane : Pane σ) (rest : List Wakeup) : Prop where
  moderate : Moderate pane
  measured : Measured pane
  reports : Px.AllModest (pane.wakeReports now rest)

theorem Answerable.exists_wake {pane : Pane σ} {now : Millis} {wakeup : Wakeup}
    {rest : List Wakeup} (answerable : Answerable now pane (wakeup :: rest)) :
    ∃ next, pane.wake now wakeup = .ok next ∧ Answerable now next rest := by
  obtain ⟨moderate, measured, reports⟩ := answerable
  rw [wakeReports] at reports
  have answered : ∃ next, pane.wake now wakeup = .ok next ∧ Moderate next := by
    cases wakeup with
    | poll number => exact moderate.exists_runPoll measured number now
    | step generation =>
        exact moderate.exists_runStep measured fun value among =>
          reports value (List.mem_append_left _ among)
  obtain ⟨next, woken, kept⟩ := answered
  refine ⟨next, woken, kept, (wake_answer woken).sameLayout.measured measured, ?_⟩
  rw [woken] at reports
  exact fun value among => reports value (List.mem_append_right _ among)

theorem Moderate.exists_frame {pane : Pane σ} (moderate : Moderate pane)
    (measured : Measured pane) {now : Millis}
    (reports : Px.AllModest ((Operation.frame now).reports pane)) :
    ∃ next, pane.frame now = .ok next ∧ Moderate next := by
  have rung : Answerable now { pane with alarms := (pane.alarms.ring now).2 }
      (pane.alarms.ring now).1 :=
    ⟨moderate.keep_view ⟨rfl, rfl, rfl⟩ rfl rfl, measured, reports⟩
  obtain ⟨next, framed, answerable⟩ := Outcome.exists_foldlM (Answerable now)
    (fun answerable => answerable.exists_wake) rung
  exact ⟨next, framed, answerable.moderate⟩

/-! ## Operations -/

/-- The sizes, rectangles and positions that the host gives with an operation. -/
def Operation.pixels : Operation → List Px
  | .layOut viewport _ => viewport.pixels
  | .setContent content _ => content.pixels
  | .resizeContent content _ => content.pixels
  | .enterWindow surroundings => surroundings.pixels
  | .setSurroundings surroundings => surroundings.pixels
  | .reportPosition position _ => position.pixels
  | _ => []

theorem Moderate.exists_perform [FlingablePhysics σ] {pane : Pane σ} (moderate : Moderate pane)
    (measured : Measured pane) {operation : Operation} (modest : Px.AllModest operation.pixels)
    (reports : Px.AllModest (operation.reports pane)) :
    ∃ reply next, pane.perform operation = .ok (reply, next) ∧ Moderate next := by
  have replies {outcome : Except Fault (Pane σ)}
      (succeeds : ∃ next, outcome = .ok next ∧ Moderate next) :
      ∃ reply next, outcome.map (Reply.done, ·) = .ok (reply, next) ∧ Moderate next := by
    obtain ⟨next, done, kept⟩ := succeeds
    exact ⟨.done, next, Outcome.map_eq_ok_iff.mpr ⟨next, done, rfl⟩, kept⟩
  cases operation with
  | configure change => exact replies (moderate.exists_configure _)
  | layOut viewport now => exact replies (moderate.exists_layOut modest now)
  | setContent content now => exact replies (moderate.exists_setContent modest now)
  | resizeContent content now =>
      refine replies ?_
      unfold resizeContent
      split
      · exact moderate.exists_setContent modest now
      · exact ⟨pane, rfl, moderate⟩
  | removeContent =>
      refine ⟨_, _, rfl, moderate.viewport, nofun, moderate.surroundings, moderate.offset,
        moderate.located⟩
  | linkContent => exact ⟨_, _, rfl, moderate.recull _⟩
  | unlinkContent => exact ⟨_, _, rfl, moderate.recull _⟩
  | contentLeft => exact ⟨_, _, rfl, moderate.recull _⟩
  | enterWindow surroundings =>
      have entered : Moderate { pane with surroundings := surroundings } :=
        ⟨moderate.viewport, moderate.content, modest, moderate.offset, moderate.located⟩
      exact replies entered.exists_refreshCulling
  | setSurroundings surroundings =>
      exact ⟨_, _, rfl, moderate.viewport, moderate.content, modest, moderate.offset,
        moderate.located⟩
  | refreshCulling => exact replies moderate.exists_refreshCulling
  | reportPosition position now =>
      obtain ⟨event, next, reported, kept⟩ :=
        moderate.exists_reportPosition modest now
      exact ⟨_, next, Outcome.map_eq_ok_iff.mpr ⟨_, reported, rfl⟩, kept⟩
  | grab =>
      have grabbed : pane.grab = (pane.grab.1, pane.grab.2) := rfl
      exact ⟨_, _, rfl, moderate.keep_view (grab_sameLayout grabbed) (grab_view grabbed)
        (grab_stays grabbed).movements⟩
  | touch touch =>
      have touched : pane.touch touch = ((pane.touch touch).1, (pane.touch touch).2) := rfl
      exact ⟨_, _, rfl, moderate.keep_view (touch_sameLayout touched) (touch_view touched)
        (touch_stays touched).movements⟩
  | fling velocity now => exact replies (moderate.exists_fling measured velocity now)
  | frame now => exact replies (moderate.exists_frame measured reports)
  | flashIndicators => exact ⟨_, _, rfl, moderate.keep_view ⟨rfl, rfl, rfl⟩ rfl rfl⟩
  | collectCommands => exact ⟨_, _, rfl, moderate.keep_view ⟨rfl, rfl, rfl⟩ rfl rfl⟩

theorem Moderate.exists_run [FlingablePhysics σ] {pane : Pane σ} {operations : List Operation}
    (moderate : Moderate pane) (measured : Measured pane)
    (modest : ∀ operation ∈ operations, Px.AllModest operation.pixels)
    (reports : Px.AllModest (pane.reports operations)) :
    ∃ final, pane.run operations = .ok final := by
  induction operations generalizing pane with
  | nil => exact ⟨pane, rfl⟩
  | cons operation rest ih =>
      rw [Pane.reports] at reports
      obtain ⟨reply, next, performed, kept⟩ := moderate.exists_perform measured
        (modest operation List.mem_cons_self)
        fun value among => reports value (List.mem_append_left _ among)
      rw [performed] at reports
      obtain ⟨final, ran⟩ := ih kept (perform_measured performed measured)
        (fun other among => modest other (List.mem_cons_of_mem _ among))
        fun value among => reports value (List.mem_append_right _ among)
      exact ⟨final, Outcome.bind_eq_ok_iff.mpr ⟨_, performed, ran⟩⟩

theorem Fresh.moderate {pane : Pane σ} (fresh : Fresh pane) : Moderate pane := by
  have zero : Px.Modest 0 := by decide
  induction fresh with
  | create =>
      refine ⟨?_, nofun, nofun, ?_, rfl⟩
      · show Px.AllModest [0, 0, 0, 0]
        simp [Px.AllModest, zero]
      · show Px.AllModest [0, 0]
        simp [Px.AllModest, zero]
  | withSpeedometer _ _ ih => exact ih.keep_view ⟨rfl, rfl, rfl⟩ rfl rfl
  | withMeter _ ih => exact ih.keep_view ⟨rfl, rfl, rfl⟩ rfl rfl

/--
As long as the host gives modest sizes, rectangles and positions and the physics
reports modest positions, nothing that is done to a pane ever faults, whatever
the velocities, times and settings: every operation gives its result, and so
does the demand for the visible rectangle where culling is on.
-/
theorem Fresh.never_faults [FlingablePhysics σ] {start : Pane σ} {operations : List Operation}
    (fresh : Fresh start) (modest : ∀ operation ∈ operations, Px.AllModest operation.pixels)
    (reports : Px.AllModest (start.reports operations)) :
    ∃ final, start.run operations = .ok final ∧
      (final.settings.culling = true → ∃ rect, final.demandVisibleRect = .ok rect) := by
  obtain ⟨final, ran⟩ := fresh.moderate.exists_run fresh.measured modest reports
  refine ⟨final, ran, ?_⟩
  intro enabled
  have isOn : final.culling.isOn = final.settings.culling :=
    ((course_history ran).shows fresh).1.isOn
  rw [enabled] at isOn
  obtain ⟨rect, held⟩ := Option.isSome_iff_exists.mp isOn
  refine ⟨rect, ?_⟩
  rw [demandVisibleRect, visibleRect, Culling.visibleRect, held]
  rfl

/-- Sizes, rectangles and positions at both ends of what is modest, and a fling between them. -/
def stretched : List Operation :=
  [.configure fun settings => { settings with culling := true, momentumEvents := true },
    .enterWindow (.clipping ⟨-268435456, -268435456, 268435456, 268435456⟩
      ⟨-268435456, -268435456, 268435456, 268435456⟩),
    .layOut ⟨268435456, -268435456, 268435456, 268435456⟩ 0, .setContent ⟨0, 268435456⟩ 0,
    .reportPosition ⟨268435456, -268435456⟩ 10, .reportPosition ⟨-268435456, 268435456⟩ 5,
    .grab, .touch ⟨.up, 0, 0, 20⟩, .fling (-2147483648) 20, .frame 21, .frame 23]

theorem Fresh.never_faults_stretched :
    ∃ (start final : Pane Decay) (rect : Rect),
      Fresh start ∧ (∀ operation ∈ stretched, Px.AllModest operation.pixels) ∧
      Px.AllModest (start.reports stretched) ∧ (start.reports stretched).length = 2 ∧
      start.run stretched = .ok final ∧ final.extent.limit = 1073741824 ∧
      final.demandVisibleRect = .ok rect := by
  let start : Pane Decay := Pane.create .standard .standard (some .initial)
  have fresh : Fresh start := .create _ _ _
  have modest : ∀ operation ∈ stretched, Px.AllModest operation.pixels := by decide +kernel
  have reports : Px.AllModest (start.reports stretched) := by decide +kernel
  have several : (start.reports stretched).length = 2 := by decide +kernel
  have came : (start.run stretched).map (fun final =>
      (final.settings.culling, final.extent.limit)) = .ok (true, 1073741824) := by decide +kernel
  obtain ⟨final, ran, demanded⟩ := fresh.never_faults modest reports
  rw [ran] at came
  obtain ⟨_, same, known⟩ := Outcome.map_eq_ok_iff.mp came
  cases same
  simp only [Prod.mk.injEq] at known
  obtain ⟨rect, shown⟩ := demanded known.1
  exact ⟨start, final, rect, fresh, modest, reports, several, ran, known.2, shown⟩

end Pane

end KineticScroll
