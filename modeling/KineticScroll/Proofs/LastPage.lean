import KineticScroll.Proofs.InRange
import KineticScroll.Proofs.Pages

/-!
# Content that ends within a page

A release takes paged content to a page, or to the end of the content where that
comes first.  Once the content has got there, the settle sequence asks for the
page of its offset again, without a velocity.  That leaves the content where it
is, save in one case: the content ends in the first half of its last page.  Then
the end is nearer to the start of that page, and the content goes back there.
-/

namespace KineticScroll

/-- The value of the span nearest to another one, as a whole number. -/
theorem Extent.toInt_clamp {extent : Extent} {y within : Px} (ordered : 0 ≤ extent.limit)
    (clamped : extent.clamp y = .ok within) :
    within.toInt = max 0 (min y.toInt extent.limit.toInt) := by
  obtain ⟨span, between, same⟩ := Outcome.map_eq_ok_iff.mp clamped
  have bounds : Span.between 0 extent.limit = .ok ⟨0, extent.limit, ordered⟩ := dif_pos ordered
  rw [bounds] at between
  cases between
  have zero : (0 : Px).toInt = 0 := by decide
  rw [← same]
  unfold Span.clamp
  simp only [Int32.lt_iff_toInt_lt, Int32.le_iff_toInt_le, zero] at ordered ⊢
  split
  · omega
  · split <;> omega

namespace Page

/-- Content with this limit ends in the first half of its last page, or in its middle. -/
structure EndsEarly (limit size : Px) : Prop where
  cut : 0 < limit.toInt % size.toInt
  short : limit.toInt % size.toInt ≤ size.toInt / 2

/-! ## Offsets within the extent -/

/-- The first page starts at zero, so pages of content start at pixels. -/
theorem start_nonneg {offset size : Px} (above : 0 ≤ offset) (sized : 0 < size) :
    0 ≤ offset.toInt / size.toInt * size.toInt := by
  have positive := Int.le_of_lt (toInt_pos sized)
  rw [Int32.le_iff_toInt_le] at above
  exact Int.mul_nonneg (Int.ediv_nonneg above positive) positive

/-- An offset within the extent lands at the start of its page, or at its end if there is one. -/
theorem exists_landing {offset size : Px} {extent : Extent} (velocity : Px) (above : 0 ≤ offset)
    (below : offset ≤ extent.limit) (sized : 0 < size) :
    ∃ page landed, target offset velocity size = .ok page ∧ extent.clamp page = .ok landed ∧
      landed.toInt =
        edgeWithin extent.limit.toInt offset.toInt velocity.toInt size.toInt := by
  have ordered : 0 ≤ extent.limit := Int32.le_trans above below
  have positive := toInt_pos sized
  have start := start_nonneg above sized
  have behind := (start_le_lt_finish offset.toInt positive).1
  have least : Px.least.toInt ≤ 0 := by decide
  have greatest := Px.le_greatest extent.limit
  obtain ⟨page, found⟩ := exists_target offset velocity size
  obtain ⟨landed, clamped, _⟩ := Extent.exists_clamp ordered page
  refine ⟨page, landed, found, clamped, ?_⟩
  rw [Int32.le_iff_toInt_le] at below
  rw [Extent.toInt_clamp ordered clamped, toInt_target sized (Int.le_trans least start) found]
  unfold edgeWithin
  split <;> omega

/-- A landing is within the extent again, at the start of a page or at the end of the content. -/
theorem landing_at_start_or_end {offset velocity size landed limit : Px} (above : 0 ≤ offset)
    (below : offset ≤ limit) (sized : 0 < size)
    (lands : landed.toInt = edgeWithin limit.toInt offset.toInt velocity.toInt size.toInt) :
    0 ≤ landed ∧ landed ≤ limit ∧ (landed.toInt % size.toInt = 0 ∨ landed = limit) := by
  have positive := toInt_pos sized
  have start := start_nonneg above sized
  have behind := (start_le_lt_finish offset.toInt positive).1
  have zero : (0 : Px).toInt = 0 := by decide
  simp only [Int32.le_iff_toInt_le, ← Int32.toInt_inj, zero] at above below ⊢
  unfold edgeWithin at lands
  split at lands
  · refine ⟨by omega, by omega, ?_⟩
    rcases Int.le_total (offset.toInt / size.toInt * size.toInt + size.toInt) limit.toInt with
      whole | cut
    · left
      rw [lands, Int.min_eq_left whole, Int.add_emod_right, Int.mul_emod_left]
    · right
      rw [lands, Int.min_eq_right cut]
  · refine ⟨by omega, by omega, .inl ?_⟩
    rw [lands, Int.mul_emod_left]

/-- Where the start of a page, or the end of the content, lands without velocity. -/
theorem landing_again {landed size again limit : Px} (sized : 0 < size)
    (settled : landed.toInt % size.toInt = 0 ∨ landed = limit)
    (lands : again.toInt = edgeWithin limit.toInt landed.toInt (0 : Px).toInt size.toInt) :
    (¬ (landed = limit ∧ EndsEarly limit size) → again = landed) ∧
      (landed = limit → EndsEarly limit size →
        again.toInt = limit.toInt / size.toInt * size.toInt) := by
  have positive := toInt_pos sized
  have parts := Int.ediv_mul_add_emod landed.toInt size.toInt
  have rest := Int.emod_lt_of_pos landed.toInt positive
  have some := Int.emod_nonneg landed.toInt (Int.ne_of_gt positive)
  have greatest := Px.le_greatest landed
  have zero : (0 : Px).toInt = 0 := by decide
  rw [zero, edgeWithin] at lands
  constructor
  · intro stays
    rw [← Int32.toInt_inj, lands]
    rcases settled with whole | rfl
    · rw [if_neg (by omega)]
      omega
    · by_cases cut : landed.toInt % size.toInt = 0
      · rw [if_neg (by omega)]
        omega
      · have late : ¬ landed.toInt % size.toInt ≤ size.toInt / 2 :=
          fun short => stays ⟨rfl, ⟨by omega, short⟩⟩
        rw [if_pos (by omega)]
        omega
  · rintro rfl early
    have short := early.short
    rw [lands, if_neg (by omega)]

end Page

/-! ## Panes -/

namespace Pane

variable {σ : Type} [ScrollPhysics σ]

/-- A pane with content that has this extent and pages of this size. -/
structure Paged (pane : Pane σ) (extent : Extent) (size : Px) : Prop where
  attached : pane.content.isSome = true
  extent : pane.extent = extent
  size : pane.settings.pageSize pane.viewport.height = size

/-- A glide goes to the nearest offset within the extent, unless the content is there. -/
theorem glideTo_of_clamp {pane : Pane σ} {page landed : Px} (attached : pane.content.isSome = true)
    (clamped : pane.extent.clamp page = .ok landed) (now : Millis) :
    pane.glideTo page now =
      .ok (if landed = pane.offset.y then pane else pane.startGlide landed now) := by
  have rests : pane.restingPlace page = .ok landed := (if_pos attached).trans clamped
  rw [glideTo, rests]
  rfl

theorem Paged.glideToPage {pane : Pane σ} {extent : Extent} {size velocity page landed : Px}
    (paged : pane.Paged extent size)
    (found : Page.target pane.offset.y velocity size = .ok page)
    (clamped : extent.clamp page = .ok landed) (now : Millis) :
    pane.glideToPage velocity now =
      .ok (if landed = pane.offset.y then pane else pane.startGlide landed now) := by
  rw [← paged.size] at found
  rw [← paged.extent] at clamped
  rw [Pane.glideToPage, found]
  exact glideTo_of_clamp paged.attached clamped now

/-- A fling that rests on pages tells of itself and then glides in the same way. -/
theorem Paged.fling {pane : Pane σ} {extent : Extent} {size velocity page landed : Px}
    (paged : pane.Paged extent size) (enabled : pane.settings.scrollEnabled = true)
    (rests : pane.settings.restsOnPages = true)
    (found : Page.target pane.offset.y velocity size = .ok page)
    (clamped : extent.clamp page = .ok landed) (now : Millis) :
    pane.fling velocity now =
      .ok (if landed = pane.offset.y then pane.emit .scroll pane.movements.velocity
        else (pane.emit .scroll pane.movements.velocity).startGlide landed now) := by
  rw [← paged.size] at found
  rw [← paged.extent] at clamped
  have responds : pane.animation.respond velocity pane.release = .ok (.page page) := by
    have onPages : pane.release.restsOnPages = true := rests
    rw [Animation.respond, if_pos onPages]
    exact Outcome.map_eq_ok_iff.mpr ⟨page, found, rfl⟩
  rw [Pane.fling, if_pos enabled, responds]
  exact @glideTo_of_clamp _ _ (pane.emit .scroll pane.movements.velocity) _ _ paged.attached
    clamped now

/--
From an offset within the extent, a release at any velocity takes paged content
to one place, by a fling or by the poll of a settle sequence.  A further poll,
which knows no velocity, leaves it there, save at the end of content that ends in
the first half of a page: from there it takes the content to the start of that
page.
-/
theorem snapped_stays {extent : Extent} {offset velocity size : Px} (above : 0 ≤ offset)
    (below : offset ≤ extent.limit) (sized : 0 < size) :
    ∃ page landed next again,
      Page.target offset velocity size = .ok page ∧ extent.clamp page = .ok landed ∧
      Page.target landed 0 size = .ok next ∧ extent.clamp next = .ok again ∧
      (¬ (landed = extent.limit ∧ Page.EndsEarly extent.limit size) → again = landed) ∧
      (landed = extent.limit → Page.EndsEarly extent.limit size →
        again.toInt = extent.limit.toInt / size.toInt * size.toInt) ∧
      ∀ (pane : Pane σ) (now : Millis), pane.Paged extent size →
        (pane.offset.y = offset →
          pane.glideToPage velocity now =
            .ok (if landed = offset then pane else pane.startGlide landed now)) ∧
        (pane.offset.y = offset → pane.settings.scrollEnabled = true →
          pane.settings.restsOnPages = true →
          pane.fling velocity now =
            .ok (if landed = offset then pane.emit .scroll pane.movements.velocity
              else (pane.emit .scroll pane.movements.velocity).startGlide landed now)) ∧
        (pane.offset.y = landed →
          pane.glideToPage 0 now =
            .ok (if again = landed then pane else pane.startGlide again now)) := by
  obtain ⟨page, landed, found, clamped, lands⟩ := Page.exists_landing velocity above below sized
  obtain ⟨aboveLanded, belowLanded, settled⟩ :=
    Page.landing_at_start_or_end above below sized lands
  obtain ⟨next, again, foundNext, clampedNext, landsAgain⟩ :=
    Page.exists_landing 0 aboveLanded belowLanded sized
  obtain ⟨stays, returns⟩ := Page.landing_again sized settled landsAgain
  refine ⟨page, landed, next, again, found, clamped, foundNext, clampedNext, stays, returns, ?_⟩
  intro pane now paged
  refine ⟨?_, ?_, ?_⟩
  · rintro rfl
    exact paged.glideToPage found clamped now
  · rintro rfl enabled rests
    exact paged.fling enabled rests found clamped now
  · rintro rfl
    exact paged.glideToPage foundNext clampedNext now

/-- Content that ends in the second half of its last page, seen before the middle of that page. -/
def beforeLateEnd : List Operation :=
  [.layOut ⟨300, 500, 0, 0⟩ 0, .setContent ⟨300, 980⟩ 0, .reportPosition ⟨0, 430⟩ 0]

theorem snapped_stays_at_late_end :
    ∃ pane : Pane Stride, pane.Paged ⟨480⟩ 100 ∧ pane.offset.y = 430 ∧
      (0 : Px) ≤ 430 ∧ (430 : Px) ≤ 480 ∧ (0 : Px) < 100 ∧
      pane.settings.scrollEnabled = true ∧ pane.settings.restsOnPages = true ∧
      ¬ Page.EndsEarly 480 100 ∧
      pane.fling 60 0 =
        .ok ((pane.emit .scroll pane.movements.velocity).startGlide 480 0) ∧
      ∃ next again, Page.target 480 0 100 = .ok next ∧ Extent.clamp ⟨480⟩ next = .ok again ∧
        again = 480 := by
  let start : Pane Stride :=
    create { Settings.standard with pagingEnabled := true, snapInterval := 100 } .standard
      (some (.create 200))
  have came : (start.run beforeLateEnd).map (fun pane => decide
      (pane.content.isSome = true ∧ pane.extent = ⟨480⟩ ∧
        pane.settings.pageSize pane.viewport.height = 100 ∧ pane.offset.y = 430 ∧
        pane.settings.scrollEnabled = true ∧ pane.settings.restsOnPages = true)) = .ok true := by
    decide +kernel
  obtain ⟨pane, _, same⟩ := Outcome.map_eq_ok_iff.mp came
  obtain ⟨attached, extent, size, height, enabled, rests⟩ := of_decide_eq_true same
  have paged : pane.Paged ⟨480⟩ 100 := ⟨attached, extent, size⟩
  have late : ¬ Page.EndsEarly 480 100 := fun early => absurd early.short (by decide)
  obtain ⟨page, landed, next, again, found, clamped, foundNext, clampedNext, stays, _, glides⟩ :=
    @snapped_stays Stride _ ⟨480⟩ 430 60 100 (by decide) (by decide) (by decide)
  have first : Page.target 430 60 100 = .ok 500 := rfl
  rw [first] at found
  cases found
  have end480 : Extent.clamp ⟨480⟩ 500 = .ok 480 := rfl
  rw [end480] at clamped
  cases clamped
  obtain ⟨_, flung, _⟩ := glides pane 0 paged
  exact ⟨pane, paged, height, by decide, by decide, by decide, enabled, rests, late,
    flung height enabled rests, next, again, foundNext, clampedNext,
    stays fun ends => late ends.2⟩

/-- A fling to the end of content that ends in the first half of a page, and frames to get there. -/
def flungToEarlyEnd : List Operation :=
  [.layOut ⟨300, 500, 0, 0⟩ 0, .setContent ⟨300, 700⟩ 0, .grab, .touch ⟨.up, 0, 0, 0⟩,
    .fling 1000 0, .frame 16, .frame 32]

/-- Content that has been flung to such an end, and lies there, is taken back by the next poll. -/
theorem snapped_back_from_early_end :
    (0 : Px) ≤ 200 ∧ (0 : Px) < 500 ∧
    Page.target 0 1000 500 = .ok 500 ∧ Extent.clamp ⟨200⟩ 500 = .ok 200 ∧
    Page.target 200 0 500 = .ok 0 ∧ Extent.clamp ⟨200⟩ 0 = .ok 0 ∧ (0 : Px) ≠ 200 ∧
    ∃ (start landed final : Pane Stride) (turns : List (Turn Stride)),
      Fresh start ∧ Course start turns landed ∧ landed.Paged ⟨200⟩ 500 ∧
      landed.offset = ⟨0, 200⟩ ∧ landed.isRunning = false ∧ landed.isSettling = true ∧
      landed.run ([48, 64, 80, 96, 112, 128].map .frame) = .ok final ∧
      final.offset = ⟨0, 0⟩ ∧ final.isRunning = false ∧ final.isSettling = false := by
  let start : Pane Stride :=
    create { Settings.standard with pagingEnabled := true } .standard (some (.create 200))
  have fresh : Fresh start := .create _ _ _
  have came : (start.run flungToEarlyEnd).map (fun pane => decide
      (pane.content.isSome = true ∧ pane.extent = ⟨200⟩ ∧
        pane.settings.pageSize pane.viewport.height = 500 ∧ pane.offset = ⟨0, 200⟩ ∧
        pane.isRunning = false ∧ pane.isSettling = true)) = .ok true := by decide +kernel
  have returned : (start.run flungToEarlyEnd >>= fun pane =>
      pane.run ([48, 64, 80, 96, 112, 128].map .frame)).map (fun pane =>
        (pane.offset, pane.isRunning, pane.isSettling)) = .ok (⟨0, 0⟩, false, false) := by
    decide +kernel
  obtain ⟨landed, ran, same⟩ := Outcome.map_eq_ok_iff.mp came
  obtain ⟨attached, extent, size, place, still, settling⟩ := of_decide_eq_true same
  rw [ran] at returned
  obtain ⟨final, framed, same⟩ := Outcome.map_eq_ok_iff.mp returned
  simp only [Prod.mk.injEq] at same
  obtain ⟨back, stopped, settled⟩ := same
  exact ⟨by decide, by decide, rfl, rfl, rfl, rfl, by decide, start, landed, final, _, fresh,
    course_history ran, ⟨attached, extent, size⟩, place, still, settling, framed, back, stopped,
    settled⟩

end Pane

end KineticScroll
