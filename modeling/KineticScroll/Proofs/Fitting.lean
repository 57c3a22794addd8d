import KineticScroll.Proofs.Agreement
import KineticScroll.Proofs.LawfulPhysics

/-!
# Fitting the extent to the layout

The extent of a pane is measured from the layout and kept.  Four operations
change the layout, and each of them measures anew; everything else leaves both
alone, so the extent is always the one that the present layout has.  Content
that has become too short is taken to its new end by one jump and one scroll
event, whatever has happened to the pane before.
-/

namespace KineticScroll

namespace Extent

/-- The greatest offset of a layout in exact numbers, up to the greatest pixel there is. -/
def reach (content : Option ContentSize) (viewport : Viewport) : Int :=
  match content with
  | none => 0
  | some size =>
      let window :=
        viewport.height.toInt - viewport.paddingTop.toInt - viewport.paddingBottom.toInt
      max 0 (min (size.height.toInt - window) Px.greatest.toInt)

theorem toInt_windowHeight {viewport : Viewport} {window : Px}
    (found : viewport.windowHeight = .ok window) :
    window.toInt =
      viewport.height.toInt - viewport.paddingTop.toInt - viewport.paddingBottom.toInt := by
  obtain ⟨belowPadding, first, second⟩ := Outcome.bind_eq_ok_iff.mp found
  have firstExact := Px.exact_eq_ok_iff.mp first
  have secondExact := Px.exact_eq_ok_iff.mp second
  omega

/-- What has been measured is the reach of the layout. -/
theorem toInt_limit_of_measure {content : Option ContentSize} {viewport : Viewport}
    {extent : Extent} (measured : measure content viewport = .ok extent) :
    extent.limit.toInt = reach content viewport := by
  cases content with
  | none =>
      cases measured
      rfl
  | some size =>
      obtain ⟨limit, greatest, same⟩ := Outcome.map_eq_ok_iff.mp measured
      cases same
      obtain ⟨window, found, same⟩ := Outcome.bind_eq_ok_iff.mp greatest
      cases same
      have exact := toInt_windowHeight found
      have saturated := Px.toInt_saturate_eq (size.height.toInt - window.toInt)
      have least : Px.least.toInt = -2147483648 := by decide
      have zero : (0 : Px).toInt = 0 := by decide
      rw [Px.toInt_max, Px.satSub, saturated]
      dsimp only [reach]
      omega

end Extent

namespace Pane

variable {σ : Type}

/-! ## The same layout -/

structure SameLayout (before after : Pane σ) : Prop where
  viewport : after.viewport = before.viewport
  content : after.content = before.content
  extent : after.extent = before.extent

theorem SameLayout.refl (pane : Pane σ) : SameLayout pane pane :=
  ⟨rfl, rfl, rfl⟩

theorem SameLayout.trans {first second third : Pane σ} (begun : SameLayout first second)
    (ended : SameLayout second third) : SameLayout first third :=
  ⟨ended.viewport.trans begun.viewport, ended.content.trans begun.content,
    ended.extent.trans begun.extent⟩

theorem Moves.sameLayout {before after : Pane σ} (moves : Moves before after) :
    SameLayout before after :=
  ⟨moves.viewport, moves.content, moves.extent⟩

theorem announce_sameLayout (pane : Pane σ) (kind : EventKind) (call : String → MeterCall) :
    SameLayout pane ((pane.emitMomentum kind).callMeter call) := by
  unfold emitMomentum callMeter
  split <;> split <;> exact ⟨rfl, rfl, rfl⟩

theorem callMeter_sameLayout (pane : Pane σ) (call : String → MeterCall) :
    SameLayout pane (pane.callMeter call) := by
  unfold callMeter
  split <;> exact ⟨rfl, rfl, rfl⟩

theorem startSettling_sameLayout (pane : Pane σ) (cause : SettleCause) (now : Millis) :
    SameLayout pane (pane.startSettling cause now) := by
  unfold startSettling
  dsimp only
  split
  · exact .refl pane
  · have announced := announce_sameLayout
      { pane with
        settling := pane.settling.start.2
        state := { pane.state with active := cause.countsAsMoving } }
      .momentumBegin .enable
    exact ⟨announced.viewport, announced.content, announced.extent⟩

theorem cutSettling_sameLayout (pane : Pane σ) : SameLayout pane pane.cutSettling := by
  unfold cutSettling
  split
  · have announced := announce_sameLayout
      { pane with
        settling := pane.settling.close
        state := { pane.state with flinging := false } }
      .momentumEnd .disable
    exact ⟨announced.viewport, announced.content, announced.extent⟩
  · exact .refl pane

theorem letGo_sameLayout (pane : Pane σ) (now : Millis) : SameLayout pane (pane.letGo now) := by
  unfold letGo
  dsimp only
  have told := callMeter_sameLayout
    { pane.emit .dragEnd pane.releaseVelocity with
      state := { (pane.emit .dragEnd pane.releaseVelocity).state with dragging := false } }
    .disable
  have released : SameLayout pane _ := ⟨told.viewport, told.content, told.extent⟩
  split
  · exact released.trans (startSettling_sameLayout _ .drag now)
  · exact released

theorem touch_sameLayout {pane next : Pane σ} {touch : Touch} {accepted : Bool}
    (touched : pane.touch touch = (accepted, next)) : SameLayout pane next := by
  rcases touch_eq_observed_or_letGo touched with ⟨_, speedometer, rfl⟩ | ⟨_, _, speedometer, rfl⟩
  · exact ⟨rfl, rfl, rfl⟩
  · have released := letGo_sameLayout { pane with speedometer := speedometer } touch.time
    exact ⟨released.viewport, released.content, released.extent⟩

theorem settleFling_sameLayout (pane : Pane σ) (now : Millis) :
    SameLayout pane (pane.settleFling now) := by
  rcases settleFling_cases pane now with same | settled
  · rw [same]
    exact .refl pane
  · rw [settled]
    have begun := startSettling_sameLayout pane.flung .fling now
    exact ⟨begun.viewport, begun.content, begun.extent⟩

theorem configure_sameLayout {pane next : Pane σ} {settings : Settings}
    (configured : pane.configure settings = .ok next) : SameLayout pane next := by
  obtain ⟨culling, rfl⟩ := configure_eq_ok configured
  exact ⟨rfl, rfl, rfl⟩

/-! ## Measuring -/

/-- The extent is the one that the layout has. -/
def Measured (pane : Pane σ) : Prop :=
  Extent.measure pane.content pane.viewport = .ok pane.extent

theorem SameLayout.measured {before after : Pane σ} (same : SameLayout before after)
    (measured : Measured before) : Measured after := by
  rw [Measured, same.content, same.viewport, same.extent]
  exact measured

theorem fitExtent_measured {pane next : Pane σ} {now : Millis}
    (fitted : pane.fitExtent now = .ok next) : Measured next := by
  obtain ⟨extent, found, placed⟩ := Outcome.bind_eq_ok_iff.mp fitted
  have measured : Measured { pane with extent := extent } := found
  split at placed
  · split at placed
    · cases placed
      exact measured
    · exact (jumpTo_moves placed).sameLayout.measured measured
  · cases placed
    exact measured

/-! ## Content that has become too short -/

/-- A position other than the one seen last is taken over, and one scroll event tells of it. -/
theorem reportPosition_of_unseen {pane next : Pane σ} {position : Offset} {now : Millis}
    {event : Option PaneEvent}
    (unseen : pane.movements.last.map Sighting.offset ≠ some position)
    (reported : pane.reportPosition position now = .ok (event, next)) :
    next.offset = position ∧ next.commands = pane.commands ∧
      ∃ sent, event = some sent ∧ sent.kind = .scroll ∧ sent.offset = position ∧
        next.emissions = pane.emissions ++ [⟨pane.settings.listening, sent⟩] := by
  obtain ⟨⟨movement, movements⟩, filtered, taken⟩ := Outcome.bind_eq_ok_iff.mp reported
  obtain ⟨rfl, last⟩ := MovementFilter.report_of_last_ne unseen filtered
  obtain ⟨⟨sent, moved⟩, arrived, same⟩ := Outcome.bind_eq_ok_iff.mp taken
  cases same
  obtain ⟨viewed, refreshed, same⟩ := Outcome.bind_eq_ok_iff.mp arrived
  cases same
  obtain ⟨culling, rfl⟩ := refreshCulling_eq_ok refreshed
  exact ⟨rfl, rfl, _, rfl, rfl, rfl, rfl⟩

/-- The content is taken to an offset: one jump asks the host to follow, one scroll event tells. -/
structure Relocates (pane : Pane σ) (target : Offset) (next : Pane σ) : Prop where
  offset : next.offset = target
  commands : next.commands = pane.commands ++ [.jump target]
  sent : ∃ event, event.kind = .scroll ∧ event.offset = target ∧
    next.emissions = pane.emissions ++ [⟨pane.settings.listening, event⟩]

/-- A jump away from where the content was seen last is no repeat. -/
theorem jumpTo_relocates {pane next : Pane σ} {y : Px} {now : Millis} (located : Located pane)
    (away : y ≠ pane.offset.y) (jumped : pane.jumpTo y now = .ok next) :
    Relocates pane ⟨pane.offset.x, y⟩ next := by
  let asked := pane.push (.jump ⟨pane.offset.x, y⟩)
  have unseen : asked.movements.last.map Sighting.offset ≠ some ⟨pane.offset.x, y⟩ := by
    intro seen
    have there : pane.movements.last.map Sighting.offset = some ⟨pane.offset.x, y⟩ := seen
    rw [Located, sightedOffset, there] at located
    exact away (congrArg Offset.y located).symm
  obtain ⟨⟨event, moved⟩, reported, same⟩ := Outcome.bind_eq_ok_iff.mp jumped
  cases same
  obtain ⟨offset, commands, sent, _, kind, there, emissions⟩ :=
    reportPosition_of_unseen unseen reported
  exact ⟨offset, commands, sent, kind, there, emissions⟩

/--
The extent has been fitted to a new layout.  Content past the new end is taken
there, other content is left where it is; drag, settle sequence and alarms stay.
-/
structure Refits (pane next : Pane σ) : Prop where
  within : next.offset.y ≤ next.extent.limit
  overrun : next.extent.limit < pane.offset.y →
    Relocates pane ⟨pane.offset.x, next.extent.limit⟩ next
  reaches : pane.offset.y ≤ next.extent.limit →
    next.offset = pane.offset ∧ next.commands = pane.commands ∧ next.emissions = pane.emissions
  dragging : next.state.dragging = pane.state.dragging
  flinging : next.state.flinging = pane.state.flinging
  settling : next.settling = pane.settling
  alarms : next.alarms = pane.alarms

theorem fitExtent_refits {pane next : Pane σ} {now : Millis} (located : Located pane)
    (fitted : pane.fitExtent now = .ok next) (attached : next.content.isSome = true) :
    Refits pane next := by
  have drifts := fitExtent_drifts fitted
  obtain ⟨extent, _, placed⟩ := Outcome.bind_eq_ok_iff.mp fitted
  split at placed
  · split at placed
    · next noOverrun =>
        cases placed
        have short : ¬ extent.limit < pane.offset.y := by
          intro past
          rw [(extent.overrun?_eq_some_iff _ _).mpr ⟨past, rfl⟩] at noOverrun
          cases noOverrun
        exact ⟨Int32.not_lt.mp short, fun past => absurd past short, fun _ => ⟨rfl, rfl, rfl⟩,
          drifts.dragging, drifts.flinging, drifts.settling, drifts.alarms⟩
    · next limit overran =>
        obtain ⟨past, rfl⟩ := (extent.overrun?_eq_some_iff _ _).mp overran
        have away : extent.limit ≠ pane.offset.y := Int32.ne_of_lt past
        have measured : Located { pane with extent := extent } := located
        have relocates := jumpTo_relocates measured away placed
        have same : next.extent = extent := (jumpTo_moves placed).extent
        refine ⟨?_, ?_, ?_, drifts.dragging, drifts.flinging, drifts.settling, drifts.alarms⟩
        · rw [relocates.offset, same]
          exact Int32.le_refl _
        · rw [same]
          exact fun _ => ⟨relocates.offset, relocates.commands, relocates.sent⟩
        · rw [same]
          exact fun reached => absurd past (Int32.not_lt.mpr reached)
  · next detached =>
      cases placed
      exact absurd attached detached

/-! ## Operations -/

variable [ScrollPhysics σ]

theorem grab_sameLayout {pane next : Pane σ} {accepted : Bool}
    (grabbed : pane.grab = (accepted, next)) : SameLayout pane next := by
  unfold Pane.grab at grabbed
  split at grabbed
  · cases grabbed
    have cut := cutSettling_sameLayout { pane with animation := pane.animation.abort }
    unfold takeHold
    dsimp only
    generalize cutSettling { pane with animation := pane.animation.abort } = free at cut ⊢
    have told := callMeter_sameLayout
      (emit { free with state := { free.state with dragging := true } } .dragBegin .zero) .enable
    have dragged : SameLayout free _ := ⟨told.viewport, told.content, told.extent⟩
    exact SameLayout.trans ⟨cut.viewport, cut.content, cut.extent⟩ dragged
  · cases grabbed
    exact .refl pane

theorem Steers.sameLayout {pane next : Pane σ} {now : Millis} (steers : Steers pane now next) :
    SameLayout pane next := by
  cases steers with
  | move moves => exact moves.sameLayout
  | start moves starts =>
      cases starts
      exact ⟨moves.viewport, moves.content, moves.extent⟩

theorem fling_sameLayout {pane next : Pane σ} {velocity : Px} {now : Millis}
    (flung : pane.fling velocity now = .ok next) : SameLayout pane next := by
  rcases fling_eq_ok flung with ⟨_, flings⟩ | rfl
  · cases flings with
    | page glided =>
        have steered := (glideTo_steers glided).sameLayout
        exact ⟨steered.viewport, steered.content, steered.extent⟩
    | @free launch started present begun =>
        have steers : Steers pane now (pane.follow started now) :=
          .start (.refl pane) (follow_startFling_starts present begun)
        exact steers.sameLayout.trans (settleFling_sameLayout _ now)
    | @host speed absent =>
        have settled := settleFling_sameLayout (pane.push (.fling speed)) now
        exact ⟨settled.viewport, settled.content, settled.extent⟩
  · exact .refl next

theorem Answer.sameLayout {pane next : Pane σ} {wakeup : Wakeup} {now : Millis}
    (answer : Answer now pane wakeup next) : SameLayout pane next := by
  cases answer with
  | staleStep => exact .refl pane
  | noPhysics => exact .refl pane
  | spent => exact ⟨rfl, rfl, rfl⟩
  | shown held advanced lands jumped =>
      have moves := jumpTo_moves jumped
      split <;> exact ⟨moves.viewport, moves.content, moves.extent⟩
  | stalePoll => exact .refl pane
  | moving => exact ⟨rfl, rfl, rfl⟩
  | snap current quiet paging unsnapped glided =>
      have steered := (glideToPage_steers glided).sameLayout
      exact ⟨steered.viewport, steered.content, steered.extent⟩
  | settled current quiet unpaged placed =>
      have moves := returnToExtent_moves placed
      have returned : SameLayout pane _ := ⟨moves.viewport, moves.content, moves.extent⟩
      exact returned.trans (announce_sameLayout _ .momentumEnd .disable)

theorem frame_sameLayout {pane next : Pane σ} {now : Millis} (framed : pane.frame now = .ok next) :
    SameLayout pane next :=
  frame_keeps (SameLayout pane) framed ⟨rfl, rfl, rfl⟩ fun answer same =>
    same.trans answer.sameLayout

/-- The operations that change the layout and leave the content attached if it was. -/
def Operation.laysOut : Operation → Bool
  | .layOut _ _ => true
  | .setContent _ _ => true
  | .resizeContent _ _ => true
  | _ => false

/-- Such an operation notes the new layout and then fits the extent to it. -/
theorem perform_fits {pane next : Pane σ} {operation : Operation} {reply : Reply}
    (laysOut : operation.laysOut = true) (performed : pane.perform operation = .ok (reply, next))
    (attached : next.content.isSome = true) :
    ∃ viewport content culling now,
      { pane with viewport := viewport, content := content, culling := culling }.fitExtent now =
        .ok next := by
  cases perform_performs performed with
  | @layOut viewport now _ laid =>
      obtain ⟨culling, fitted⟩ := layOut_eq_ok laid
      exact ⟨viewport, pane.content, culling, now, fitted⟩
  | @setContent content now _ set => exact ⟨pane.viewport, some content, pane.culling, now, set⟩
  | @resizeContent content now _ resized =>
      rcases resizeContent_eq_ok resized with set | ⟨detached, rfl⟩
      · exact ⟨pane.viewport, some content, pane.culling, now, set⟩
      -- Without content nothing is laid out, and none is attached afterwards.
      · exact absurd attached detached
  | _ => cases laysOut

/-- Whatever is done, the extent is the one that the layout has. -/
theorem perform_measured {pane next : Pane σ} {operation : Operation} {reply : Reply}
    (performed : pane.perform operation = .ok (reply, next)) (measured : Measured pane) :
    Measured next := by
  cases perform_performs performed with
  | configure configured => exact (configure_sameLayout configured).measured measured
  | layOut laid =>
      obtain ⟨culling, fitted⟩ := layOut_eq_ok laid
      exact fitExtent_measured fitted
  | setContent set => exact fitExtent_measured set
  | resizeContent resized =>
      rcases resizeContent_eq_ok resized with set | ⟨_, rfl⟩
      · exact fitExtent_measured set
      · exact measured
  | enterWindow entered => exact (refreshCulling_moves entered).sameLayout.measured measured
  | refreshCulling refreshed => exact (refreshCulling_moves refreshed).sameLayout.measured measured
  | reportPosition reported => exact (reportPosition_moves reported).sameLayout.measured measured
  | grab grabbed => exact (grab_sameLayout grabbed).measured measured
  | touch touched => exact (touch_sameLayout touched).measured measured
  | fling flung => exact (fling_sameLayout flung).measured measured
  | frame framed => exact (frame_sameLayout framed).measured measured
  | removeContent => rfl
  | _ => exact measured

theorem Fresh.measured {pane : Pane σ} (fresh : Fresh pane) : Measured pane := by
  induction fresh with
  | create => rfl
  | withSpeedometer _ _ ih => exact ih
  | withMeter _ ih => exact ih

theorem Course.measured {start pane : Pane σ} {turns : List (Turn σ)} (fresh : Fresh start)
    (course : Course start turns pane) : Measured pane := by
  induction course with
  | start => exact fresh.measured
  | turn _ performed ih => exact perform_measured performed ih

/--
The extent of a pane is always the reach of its layout.  A change of layout that
leaves content attached leaves it within the new extent; it sends one jump and
one scroll event when the content had to be taken back, and nothing otherwise.
-/
theorem Course.extent_follows_layout {start pane : Pane σ} {turns : List (Turn σ)}
    (fresh : Fresh start) (course : Course start turns pane) :
    pane.extent.limit.toInt = Extent.reach pane.content pane.viewport ∧
    0 ≤ pane.extent.limit ∧
    ∀ operation reply next, operation.laysOut = true →
      pane.perform operation = .ok (reply, next) → next.content.isSome = true →
        Refits pane next := by
  have measured := course.measured fresh
  refine ⟨Extent.toInt_limit_of_measure measured, Extent.measure_nonneg measured, ?_⟩
  intro operation reply next laysOut performed attached
  obtain ⟨viewport, content, culling, now, fitted⟩ := perform_fits laysOut performed attached
  have located : Located pane := course.located fresh
  have placed : Located { pane with viewport := viewport, content := content, culling := culling } :=
    located
  have refits := fitExtent_refits placed fitted attached
  refine ⟨refits.within, ?_, refits.reaches, refits.dragging, refits.flinging, refits.settling,
    refits.alarms⟩
  intro past
  have relocates := refits.overrun past
  exact ⟨relocates.offset, relocates.commands, relocates.sent⟩

/-- A drag towards the end of content in a padded viewport. -/
def draggedDown : List Operation :=
  [.layOut ⟨300, 500, 10, 20⟩ 0, .setContent ⟨300, 1000⟩ 0, .grab, .reportPosition ⟨0, 400⟩ 10]

theorem Course.extent_follows_layout_shrunk :
    ∃ (start pane next : Pane Stride) (turns : List (Turn Stride)) (reply : Reply),
      Fresh start ∧ Course start turns pane ∧ pane.state.dragging = true ∧
      pane.offset = ⟨0, 400⟩ ∧ pane.extent.limit = 530 ∧
      pane.perform (.resizeContent ⟨300, 600⟩ 20) = .ok (reply, next) ∧
      next.content.isSome = true ∧ next.extent.limit = 130 ∧ next.commands = [.jump ⟨0, 130⟩] ∧
      pane.extent.limit.toInt = Extent.reach pane.content pane.viewport ∧
      0 ≤ pane.extent.limit ∧ Refits pane next := by
  let start : Pane Stride := create .standard .standard (some (.create 40))
  have fresh : Fresh start := .create _ _ _
  have came : (start.run draggedDown).map (fun pane =>
      (pane.state.dragging, pane.offset, pane.extent.limit)) =
      .ok (true, ⟨0, 400⟩, 530) := by decide +kernel
  have shrank : (start.run draggedDown >>= fun pane =>
      pane.perform (.resizeContent ⟨300, 600⟩ 20)).map (fun outcome =>
        (outcome.2.content.isSome, outcome.2.extent.limit, outcome.2.commands)) =
      .ok (true, 130, [.jump ⟨0, 130⟩]) := by decide +kernel
  obtain ⟨pane, ran, same⟩ := Outcome.map_eq_ok_iff.mp came
  simp only [Prod.mk.injEq] at same
  obtain ⟨dragging, offset, limit⟩ := same
  rw [ran] at shrank
  obtain ⟨⟨reply, next⟩, performed, same⟩ := Outcome.map_eq_ok_iff.mp shrank
  simp only [Prod.mk.injEq] at same
  obtain ⟨attached, shorter, sent⟩ := same
  have course := course_history ran
  have shrunk : pane.perform (.resizeContent ⟨300, 600⟩ 20) = .ok (reply, next) := performed
  obtain ⟨reach, above, refits⟩ := Course.extent_follows_layout fresh course
  exact ⟨start, pane, next, _, reply, fresh, course, dragging, offset, limit, shrunk, attached,
    shorter, sent, reach, above, refits _ reply next rfl shrunk attached⟩

end Pane

end KineticScroll
