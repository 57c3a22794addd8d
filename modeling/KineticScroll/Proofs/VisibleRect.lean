import KineticScroll.Proofs.Fitting
import Mathlib.Data.List.DropRight

/-!
# The visible rectangle

A pane keeps its visible rectangle and finds it anew when something that it
depends on has changed.  Only the surroundings may change without that: the host
says when they are to be looked at.  So the rectangle is always the one to be
seen of the present offset and viewport, in the surroundings looked at last, and
content that has been handed rectangles was handed this one last.
-/

namespace KineticScroll

namespace Culling

/-- Content that has been handed rectangles was handed the present one last. -/
def Handed (culling : Culling) : Prop :=
  ∀ rect, culling.rect = some rect → ∀ received, culling.content = .present received →
    received ≠ [] → received.getLast? = some rect

theorem reveal_handed (culling : Culling) (rect : Rect) : (culling.reveal rect).Handed := by
  rintro _ ⟨⟩ received given _
  cases held : culling.content with
  | absent => simp [reveal, CulledContent.receive, held] at given
  | gone => simp [reveal, CulledContent.receive, held] at given
  | present earlier =>
      simp only [reveal, CulledContent.receive, held, CulledContent.present.injEq] at given
      rw [← given, List.getLast?_concat]

/-- Content that is linked anew has not been handed anything. -/
theorem link_handed {culling : Culling} {content : CulledContent}
    (unheard : ∀ received, content = .present received → received = []) :
    (culling.link content).Handed :=
  fun _ _ received given heard => absurd (unheard received given) heard

/-- While culling is on, an update keeps what can be seen and hands it on. -/
theorem update_eq_ok {culling updated : Culling} {surroundings : Surroundings} {offset : Offset}
    {width height : Px}
    (done : culling.update surroundings offset width height = .ok updated) :
    culling.rect = none ∧ updated = culling ∨
      ∃ rect, surroundings.visible offset width height = .ok rect ∧
        updated = culling.reveal rect := by
  unfold update at done
  split at done
  · obtain ⟨rect, visible, same⟩ := Outcome.map_eq_ok_iff.mp done
    exact .inr ⟨rect, visible, same.symm⟩
  · next isOff =>
      cases done
      exact .inl ⟨by simpa [isOn] using isOff, rfl⟩

end Culling

/-- What the visible rectangle of a pane is found from, with what culling has kept. -/
structure View where
  enabled : Bool
  surroundings : Surroundings
  offset : Offset
  width : Px
  height : Px
  culling : Culling

/--
A rectangle is kept just while culling is enabled.  It is the one to be seen in
these surroundings, and the one that the content was handed last.
-/
structure View.Shows (view : View) (surroundings : Surroundings) : Prop where
  isOn : view.culling.isOn = view.enabled
  visible : ∀ rect, view.culling.rect = some rect →
    surroundings.visible view.offset view.width view.height = .ok rect
  handed : view.culling.Handed

/-- Other content leaves the rectangle as it is. -/
theorem View.Shows.link {view : View} {surroundings : Surroundings} {content : CulledContent}
    (shows : view.Shows surroundings)
    (unheard : ∀ received, content = .present received → received = []) :
    { view with culling := view.culling.link content }.Shows surroundings :=
  ⟨shows.isOn, shows.visible, Culling.link_handed unheard⟩

namespace Pane

variable {σ : Type}

def view (pane : Pane σ) : View where
  enabled := pane.settings.culling
  surroundings := pane.surroundings
  offset := pane.offset
  width := pane.viewport.width
  height := pane.viewport.height
  culling := pane.culling

/-! ## The same view -/

theorem emitMomentum_view (pane : Pane σ) (kind : EventKind) :
    (pane.emitMomentum kind).view = pane.view := by
  unfold emitMomentum
  split <;> rfl

theorem callMeter_view (pane : Pane σ) (call : String → MeterCall) :
    (pane.callMeter call).view = pane.view := by
  unfold callMeter
  split <;> rfl

theorem announce_view (pane : Pane σ) (kind : EventKind) (call : String → MeterCall) :
    ((pane.emitMomentum kind).callMeter call).view = pane.view := by
  rw [callMeter_view, emitMomentum_view]

theorem startSettling_view (pane : Pane σ) (cause : SettleCause) (now : Millis) :
    (pane.startSettling cause now).view = pane.view := by
  unfold startSettling
  dsimp only
  split
  · rfl
  · exact announce_view
      { pane with
        settling := pane.settling.start.2
        state := { pane.state with active := cause.countsAsMoving } }
      .momentumBegin .enable

theorem cutSettling_view (pane : Pane σ) : pane.cutSettling.view = pane.view := by
  unfold cutSettling
  split
  · exact announce_view
      { pane with
        settling := pane.settling.close
        state := { pane.state with flinging := false } }
      .momentumEnd .disable
  · rfl

theorem letGo_view (pane : Pane σ) (now : Millis) : (pane.letGo now).view = pane.view := by
  unfold letGo
  dsimp only
  have told := callMeter_view
    { pane.emit .dragEnd pane.releaseVelocity with
      state := { (pane.emit .dragEnd pane.releaseVelocity).state with dragging := false } }
    .disable
  split
  · rw [startSettling_view, told]
    rfl
  · rw [told]
    rfl

theorem touch_view {pane next : Pane σ} {touch : Touch} {accepted : Bool}
    (touched : pane.touch touch = (accepted, next)) : next.view = pane.view := by
  rcases touch_eq_observed_or_letGo touched with ⟨_, speedometer, rfl⟩ | ⟨_, _, speedometer, rfl⟩
  · rfl
  · exact letGo_view { pane with speedometer := speedometer } touch.time

theorem follow_view (pane : Pane σ) (started : Option UInt64 × Animation σ) (now : Millis) :
    (pane.follow started now).view = pane.view ∧
      (pane.follow started now).kinds = pane.kinds := by
  unfold follow
  dsimp only
  split <;> exact ⟨rfl, rfl⟩

theorem settleFling_view (pane : Pane σ) (now : Millis) :
    (pane.settleFling now).view = pane.view := by
  rcases settleFling_cases pane now with same | settled
  · rw [same]
  · rw [settled, startSettling_view]
    rfl

section

variable [ScrollPhysics σ]

theorem grab_view {pane next : Pane σ} {accepted : Bool}
    (grabbed : pane.grab = (accepted, next)) : next.view = pane.view := by
  unfold Pane.grab at grabbed
  split at grabbed
  · cases grabbed
    have cut := cutSettling_view { pane with animation := pane.animation.abort }
    unfold takeHold
    dsimp only
    generalize cutSettling { pane with animation := pane.animation.abort } = free at cut ⊢
    rw [callMeter_view]
    exact cut
  · cases grabbed
    rfl

theorem startGlide_view (pane : Pane σ) (y : Px) (now : Millis) :
    (pane.startGlide y now).view = pane.view ∧ (pane.startGlide y now).kinds = pane.kinds := by
  unfold startGlide
  split
  · exact follow_view pane _ now
  · exact ⟨rfl, rfl⟩

/-- Content that is about to glide has not been moved, and no event tells of the glide. -/
theorem glideTo_view {pane next : Pane σ} {y : Px} {now : Millis}
    (glided : pane.glideTo y now = .ok next) :
    next.view = pane.view ∧ next.kinds = pane.kinds := by
  obtain ⟨target, _, same⟩ := Outcome.bind_eq_ok_iff.mp glided
  cases same
  split
  · exact ⟨rfl, rfl⟩
  · exact startGlide_view pane target now

theorem fling_view {pane next : Pane σ} {velocity : Px} {now : Millis}
    (flung : pane.fling velocity now = .ok next) : next.view = pane.view := by
  rcases fling_eq_ok flung with ⟨_, flings⟩ | rfl
  · cases flings with
    | page glided =>
        have told : (pane.emit .scroll pane.movements.velocity).view = pane.view := rfl
        rw [(glideTo_view glided).1, told]
    | @free launch started => rw [settleFling_view, (follow_view pane started now).1]
    | @host speed => exact settleFling_view (pane.push (.fling speed)) now
  · rfl

end

/-! ## Looking again -/

theorem refreshCulling_shows {pane next : Pane σ} (refreshed : pane.refreshCulling = .ok next)
    (isOn : pane.culling.isOn = pane.settings.culling) :
    next.view.Shows next.surroundings := by
  obtain ⟨culling, updated, same⟩ := Outcome.bind_eq_ok_iff.mp refreshed
  cases same
  have enabled := (Culling.update_isOn updated).trans isOn
  rcases Culling.update_eq_ok updated with ⟨isOff, rfl⟩ | ⟨rect, visible, rfl⟩
  · have keepsNone (rect : Rect) : pane.culling.rect ≠ some rect := by
      rw [isOff]
      nofun
    exact ⟨enabled, fun rect kept => absurd kept (keepsNone rect),
      fun rect kept => absurd kept (keepsNone rect)⟩
  · refine ⟨enabled, ?_, Culling.reveal_handed _ rect⟩
    rintro _ ⟨⟩
    exact visible

/-- Culling that is switched is looked at anew; otherwise the view stays. -/
theorem configure_shows {pane next : Pane σ} {settings : Settings} {seen : Surroundings}
    (shows : pane.view.Shows seen) (configured : pane.configure settings = .ok next) :
    next.surroundings = pane.surroundings ∧ next.settings = settings ∧
      next.view.Shows (if pane.settings.culling != settings.culling then next.surroundings
        else seen) := by
  have isOn : pane.culling.isOn = pane.settings.culling := shows.isOn
  obtain ⟨culling, same⟩ := configure_eq_ok configured
  have surroundings : next.surroundings = pane.surroundings := by rw [same]
  have installed : next.settings = settings := by rw [same]
  refine ⟨surroundings, installed, ?_⟩
  unfold configure at configured
  rw [Culling.switches, isOn] at configured
  dsimp only at configured
  split at configured
  · next switched =>
      rw [if_pos switched]
      exact refreshCulling_shows configured (Culling.switch_isOn _ _)
  · next kept =>
      have unswitched : pane.culling.switch settings.culling = pane.culling := by
        rw [Culling.switch, Culling.switches, isOn, if_neg kept]
      cases configured
      rw [if_neg kept]
      refine ⟨?_, ?_, ?_⟩
      · exact Culling.switch_isOn _ _
      · intro rect held
        rw [view, unswitched] at held
        exact shows.visible rect held
      · rw [view, unswitched]
        exact shows.handed

/-! ## Moving -/

/-- The view stays, or it is found anew and a scroll event tells of the movement. -/
structure Watches (pane next : Pane σ) : Prop where
  surroundings : next.surroundings = pane.surroundings
  sent : ∃ sent, next.kinds = pane.kinds ++ sent ∧ ∀ seen, pane.view.Shows seen →
    next.view.Shows (if .scroll ∈ sent then next.surroundings else seen)

namespace Watches

theorem of_view {pane next : Pane σ} {sent : List EventKind} (view : next.view = pane.view)
    (kinds : next.kinds = pane.kinds ++ sent) (still : .scroll ∉ sent) : Watches pane next := by
  refine ⟨congrArg View.surroundings view, sent, kinds, ?_⟩
  intro seen shows
  rw [if_neg still, view]
  exact shows

theorem of_still {pane next : Pane σ} (view : next.view = pane.view)
    (kinds : next.kinds = pane.kinds) : Watches pane next :=
  of_view view (by rw [kinds, List.append_nil]) List.not_mem_nil

theorem trans {first second third : Pane σ} (begun : Watches first second)
    (ended : Watches second third) : Watches first third := by
  obtain ⟨early, sentEarly, showEarly⟩ := begun.sent
  obtain ⟨late, sentLate, showLate⟩ := ended.sent
  refine ⟨ended.surroundings.trans begun.surroundings, early ++ late, ?_, ?_⟩
  · rw [sentLate, sentEarly, List.append_assoc]
  · intro seen shows
    have shown := showLate _ (showEarly seen shows)
    rw [← ended.surroundings] at shown
    by_cases movedLate : .scroll ∈ late
    · rw [if_pos movedLate] at shown
      rwa [if_pos (List.mem_append_right _ movedLate)]
    · rw [if_neg movedLate] at shown
      simpa [movedLate] using shown

end Watches

theorem moveTo_watches {pane next : Pane σ} {movement : Movement} {event : PaneEvent}
    (moved : pane.moveTo movement = .ok (event, next)) : Watches pane next := by
  obtain ⟨seen, refreshed, same⟩ := Outcome.bind_eq_ok_iff.mp moved
  cases same
  obtain ⟨culling, rfl⟩ := refreshCulling_eq_ok refreshed
  refine ⟨rfl, [.scroll], by simp [kinds, emit, eventNow], ?_⟩
  intro before shows
  have shown := refreshCulling_shows refreshed shows.isOn
  rw [if_pos List.mem_cons_self]
  exact shown

theorem reportPosition_watches {pane next : Pane σ} {position : Offset} {now : Millis}
    {event : Option PaneEvent} (reported : pane.reportPosition position now = .ok (event, next)) :
    Watches pane next := by
  obtain ⟨⟨movement, movements⟩, _, taken⟩ := Outcome.bind_eq_ok_iff.mp reported
  cases movement with
  | none =>
      cases taken
      exact .of_still rfl rfl
  | some movement =>
      obtain ⟨⟨sent, moved⟩, arrived, same⟩ := Outcome.bind_eq_ok_iff.mp taken
      cases same
      have watches := moveTo_watches arrived
      exact ⟨watches.surroundings, watches.sent⟩

theorem jumpTo_watches {pane next : Pane σ} {y : Px} {now : Millis}
    (jumped : pane.jumpTo y now = .ok next) : Watches pane next := by
  obtain ⟨⟨event, moved⟩, reported, same⟩ := Outcome.bind_eq_ok_iff.mp jumped
  cases same
  have watches := reportPosition_watches reported
  exact ⟨watches.surroundings, watches.sent⟩

theorem fitExtent_watches {pane next : Pane σ} {now : Millis}
    (fitted : pane.fitExtent now = .ok next) : Watches pane next := by
  obtain ⟨extent, _, placed⟩ := Outcome.bind_eq_ok_iff.mp fitted
  split at placed
  · split at placed
    · cases placed
      exact .of_still rfl rfl
    · have watches := jumpTo_watches placed
      exact ⟨watches.surroundings, watches.sent⟩
  · cases placed
    exact .of_still rfl rfl

theorem setContent_watches {pane next : Pane σ} {content : ContentSize} {now : Millis}
    (set : pane.setContent content now = .ok next) : Watches pane next := by
  have watches := fitExtent_watches set
  exact ⟨watches.surroundings, watches.sent⟩

theorem announce_watches (pane : Pane σ) {kind : EventKind} (still : kind ≠ .scroll)
    (call : String → MeterCall) : Watches pane ((pane.emitMomentum kind).callMeter call) := by
  refine .of_view (pane.announce_view kind call) (pane.announce_signals kind call).sent ?_
  unfold momentumKinds
  split
  · simpa using still.symm
  · exact List.not_mem_nil

variable [ScrollPhysics σ]

theorem glideToPage_watches {pane next : Pane σ} {velocity : Px} {now : Millis}
    (glided : pane.glideToPage velocity now = .ok next) : Watches pane next := by
  obtain ⟨target, _, glides⟩ := Outcome.bind_eq_ok_iff.mp glided
  obtain ⟨view, kinds⟩ := glideTo_view glides
  exact .of_still view kinds

theorem Answer.watches {pane next : Pane σ} {wakeup : Wakeup} {now : Millis}
    (answer : Answer now pane wakeup next) : Watches pane next := by
  cases answer with
  | staleStep => exact .of_still rfl rfl
  | noPhysics => exact .of_still rfl rfl
  | spent => exact .of_still rfl rfl
  | shown held advanced lands jumped =>
      have shown := jumpTo_watches jumped
      split <;> exact ⟨shown.surroundings, shown.sent⟩
  | stalePoll => exact .of_still rfl rfl
  | moving => exact .of_still rfl rfl
  | snap current quiet paging unsnapped glided =>
      have steered := glideToPage_watches glided
      exact ⟨steered.surroundings, steered.sent⟩
  | @settled sequence returned current quiet unpaged placed =>
      have back : Watches pane returned := by
        rcases returnToExtent_eq_ok placed with rfl | ⟨y, moved, jumped, rfl⟩
        · exact .of_still rfl rfl
        · have shown := jumpTo_watches jumped
          exact ⟨shown.surroundings, shown.sent⟩
      exact back.trans (announce_watches returned (by decide) .disable)

theorem frame_watches {pane next : Pane σ} {now : Millis} (framed : pane.frame now = .ok next) :
    Watches pane next :=
  frame_keeps (Watches pane) framed (.of_still rfl rfl) fun answer watches =>
    watches.trans answer.watches

/-! ## Turns -/

/-- Whether a turn has told of a movement. -/
def Turn.scrolls (turn : Turn σ) : Bool :=
  (turn.after.kinds.drop turn.before.kinds.length).contains .scroll

/--
Whether a turn looks at the surroundings, where culling is on.  The host asks
for it, the pane comes into a window, culling is switched, the viewport has
another size, or the content moves.
-/
def Turn.looks (turn : Turn σ) : Bool :=
  match turn.operation with
  | .enterWindow _ => true
  | .refreshCulling => true
  | .configure _ => turn.before.settings.culling != turn.after.settings.culling
  | .layOut viewport _ =>
      turn.before.viewport.width != viewport.width ||
        turn.before.viewport.height != viewport.height || turn.scrolls
  | .setContent _ _ => turn.scrolls
  | .resizeContent _ _ => turn.scrolls
  | .reportPosition _ _ => turn.scrolls
  | .frame _ => turn.scrolls
  -- The scroll event of a fling to a page tells of no movement.
  | _ => false

/-- The surroundings looked at last.  At the start a pane is outside every window. -/
def surroundingsSeen (turns : List (Turn σ)) : Surroundings :=
  ((turns.filter Turn.looks).getLast?.map fun turn => turn.after.surroundings).getD .detached

/-- The surroundings are not replaced, as far as these turns go. -/
def Undisturbed (turns : List (Turn σ)) : Prop :=
  ∀ turn ∈ turns, ∀ surroundings, turn.operation ≠ .setSurroundings surroundings

/-- The turns since the surroundings were looked at last. -/
def sinceLook (turns : List (Turn σ)) : List (Turn σ) :=
  turns.rtakeWhile fun turn => !turn.looks

omit [ScrollPhysics σ] in
theorem surroundingsSeen_append (turns : List (Turn σ)) (turn : Turn σ) :
    surroundingsSeen (turns ++ [turn]) =
      if turn.looks then turn.after.surroundings else surroundingsSeen turns := by
  unfold surroundingsSeen
  rw [List.filter_append]
  split
  · next looked => simp [looked]
  · next missed => simp [missed]

/--
What a turn does to the view.  It is found anew where the turn looks at the
surroundings; and surroundings that are replaced without that are not seen.
-/
structure Sees (seen : Surroundings) (turn : Turn σ) : Prop where
  shows : turn.after.view.Shows (if turn.looks then turn.after.surroundings else seen)
  surroundings : turn.looks = true ∨
    (∃ surroundings, turn.operation = .setSurroundings surroundings) ∨
      turn.after.surroundings = turn.before.surroundings

namespace Sees

variable {seen : Surroundings} {turn : Turn σ}

omit [ScrollPhysics σ]

theorem of_view (shows : turn.before.view.Shows seen) (view : turn.after.view = turn.before.view)
    (missed : turn.looks = false) : Sees seen turn := by
  refine ⟨?_, .inr (.inr (congrArg View.surroundings view))⟩
  rw [missed, view]
  exact shows

theorem of_watches (shows : turn.before.view.Shows seen)
    (watches : Watches turn.before turn.after) (looks : turn.looks = turn.scrolls) :
    Sees seen turn := by
  obtain ⟨sent, told, view⟩ := watches.sent
  have scrolls : turn.scrolls = decide (.scroll ∈ sent) := by
    rw [Turn.scrolls, told, List.drop_left, List.contains_eq_mem]
  refine ⟨?_, .inr (.inr watches.surroundings)⟩
  rw [looks, scrolls]
  simpa using view seen shows

theorem of_looks (shows : turn.after.view.Shows turn.after.surroundings)
    (looks : turn.looks = true) : Sees seen turn := by
  refine ⟨?_, .inl looks⟩
  rw [looks]
  exact shows

end Sees

omit [ScrollPhysics σ] in
theorem layOut_sees {pane next : Pane σ} {viewport : Viewport} {now : Millis} {seen : Surroundings}
    (shows : pane.view.Shows seen) (laid : pane.layOut viewport now = .ok next) :
    Sees seen ⟨pane, .layOut viewport now, next⟩ := by
  have isOn : pane.culling.isOn = pane.settings.culling := shows.isOn
  unfold layOut at laid
  dsimp only at laid
  split at laid
  · next resized =>
      obtain ⟨placed, refreshed, fitted⟩ := Outcome.bind_eq_ok_iff.mp laid
      have shown := refreshCulling_shows refreshed isOn
      obtain ⟨surroundings, sent, _, view⟩ := fitExtent_watches fitted
      have after := view _ shown
      rw [← surroundings, ite_self] at after
      exact .of_looks after (by simpa [Turn.looks] using .inl resized)
  · next unresized =>
      obtain ⟨width, height⟩ := not_or.mp unresized
      have sameWidth : pane.viewport.width = viewport.width := not_not.mp width
      have sameHeight : pane.viewport.height = viewport.height := not_not.mp height
      have view : view { pane with viewport := viewport } = pane.view := by
        unfold Pane.view
        rw [sameWidth, sameHeight]
        rfl
      have placed : Watches pane { pane with viewport := viewport } := .of_still view rfl
      refine .of_watches shows (placed.trans (fitExtent_watches laid)) ?_
      simp [Turn.looks, sameWidth, sameHeight]

/-- Whatever is done, the rectangle is found anew when it has to be. -/
theorem perform_sees {pane next : Pane σ} {operation : Operation} {reply : Reply}
    {seen : Surroundings} (shows : pane.view.Shows seen)
    (performed : pane.perform operation = .ok (reply, next)) :
    Sees seen ⟨pane, operation, next⟩ := by
  have isOn : pane.culling.isOn = pane.settings.culling := shows.isOn
  cases perform_performs performed with
  | configure configured =>
      obtain ⟨surroundings, installed, shown⟩ := configure_shows shows configured
      refine ⟨?_, .inr (.inr surroundings)⟩
      rw [Turn.looks, installed]
      exact shown
  | layOut laid => exact layOut_sees shows laid
  | setContent set => exact .of_watches shows (setContent_watches set) rfl
  | resizeContent resized =>
      rcases resizeContent_eq_ok resized with set | ⟨_, rfl⟩
      · exact .of_watches shows (setContent_watches set) rfl
      · exact .of_watches shows (.of_still rfl rfl) rfl
  | enterWindow entered => exact .of_looks (refreshCulling_shows entered isOn) rfl
  | refreshCulling refreshed => exact .of_looks (refreshCulling_shows refreshed isOn) rfl
  | reportPosition reported => exact .of_watches shows (reportPosition_watches reported) rfl
  | frame framed => exact .of_watches shows (frame_watches framed) rfl
  | grab grabbed => exact .of_view shows (grab_view grabbed) rfl
  | touch touched => exact .of_view shows (touch_view touched) rfl
  | fling flung => exact .of_view shows (fling_view flung) rfl
  | flashIndicators => exact .of_view shows rfl rfl
  | collectCommands => exact .of_view shows rfl rfl
  | removeContent => exact ⟨shows.link nofun, .inr (.inr rfl)⟩
  | linkContent =>
      exact ⟨shows.link fun _ same => (CulledContent.present.inj same).symm, .inr (.inr rfl)⟩
  | unlinkContent => exact ⟨shows.link nofun, .inr (.inr rfl)⟩
  | contentLeft =>
      refine ⟨shows.link ?_, .inr (.inr rfl)⟩
      intro received left
      cases held : pane.culling.content <;> simp [CulledContent.leave, held] at left
  | setSurroundings surroundings =>
      exact ⟨⟨shows.isOn, shows.visible, shows.handed⟩, .inr (.inl ⟨surroundings, rfl⟩)⟩

theorem Fresh.shows {pane : Pane σ} (fresh : Fresh pane) :
    pane.view.Shows .detached ∧ pane.surroundings = .detached := by
  induction fresh with
  | create settings platform physics =>
      refine ⟨⟨Culling.switch_isOn _ _, ?_, ?_⟩, rfl⟩
      · intro rect kept
        have start : (Culling.off.switch settings.culling).rect = some rect := kept
        cases enabled : settings.culling with
        | false => rw [enabled] at start; cases start
        | true => rw [enabled] at start; cases start; rfl
      · intro rect _ received given
        have start : (Culling.off.switch settings.culling).content = .present received := given
        rw [Culling.switch_content] at start
        cases start
  | withSpeedometer _ _ ih => exact ih
  | withMeter _ ih => exact ih

theorem Course.shows {start pane : Pane σ} {turns : List (Turn σ)} (fresh : Fresh start)
    (course : Course start turns pane) :
    pane.view.Shows (surroundingsSeen turns) ∧
      (Undisturbed (sinceLook turns) → surroundingsSeen turns = pane.surroundings) := by
  induction course with
  | start => exact ⟨fresh.shows.1, fun _ => fresh.shows.2.symm⟩
  | @turn turns pane next operation reply _ performed ih =>
      obtain ⟨shows, kept⟩ := ih
      have sees := perform_sees shows performed
      rw [surroundingsSeen_append]
      refine ⟨sees.shows, ?_⟩
      intro undisturbed
      split
      · rfl
      · next missed =>
          have since : sinceLook (turns ++ [⟨pane, operation, next⟩]) =
              sinceLook turns ++ [⟨pane, operation, next⟩] :=
            List.rtakeWhile_concat_pos _ _ _ (by simpa using missed)
          rw [since] at undisturbed
          rw [kept fun turn among => undisturbed turn (List.mem_append_left _ among)]
          rcases sees.surroundings with looked | ⟨surroundings, replaced⟩ | same
          · exact absurd looked missed
          · have last := undisturbed _ (List.mem_append_right _ List.mem_cons_self) surroundings
            exact absurd replaced last
          · exact same.symm

/--
There is a visible rectangle just while the settings ask for culling.  It is what
can be seen of the present offset and viewport in the surroundings looked at
last, and content that has been handed any rectangle was handed this one last.
These are the present surroundings unless they have been replaced since.
-/
theorem Course.visibleRect_fresh {start pane : Pane σ} {turns : List (Turn σ)}
    (fresh : Fresh start) (course : Course start turns pane) :
    (pane.visibleRect = .error .visibleRect ↔ pane.settings.culling = false) ∧
    (pane.settings.culling = true → ∃ rect, pane.visibleRect = .ok rect ∧
      (surroundingsSeen turns).visible pane.offset pane.viewport.width pane.viewport.height =
        .ok rect ∧
      ∀ received, pane.culling.content = .present received → received ≠ [] →
        received.getLast? = some rect) ∧
    (Undisturbed (sinceLook turns) → surroundingsSeen turns = pane.surroundings) := by
  obtain ⟨shows, kept⟩ := course.shows fresh
  have isOn : pane.culling.isOn = pane.settings.culling := shows.isOn
  refine ⟨?_, ?_, kept⟩
  · rw [← isOn, visibleRect, Culling.visibleRect, Culling.isOn]
    cases pane.culling.rect <;> simp
  · intro enabled
    rw [← isOn] at enabled
    obtain ⟨rect, held⟩ := Option.isSome_iff_exists.mp enabled
    refine ⟨rect, ?_, shows.visible rect held, shows.handed rect held⟩
    rw [visibleRect, Culling.visibleRect, held]

def switchCulling (enabled : Bool) : Operation :=
  .configure fun settings => { settings with culling := enabled }

/--
Content in a clipping parent that is scrolled while culling is on and while it
is off, and then cut.  The surroundings that it gets last are not looked at.
-/
def scrolledThroughCulling : List Operation :=
  [.layOut ⟨300, 500, 0, 0⟩ 0, .setContent ⟨300, 1000⟩ 0, .linkContent,
    .enterWindow (.clipping ⟨0, 0, 300, 400⟩ ⟨0, 100, 300, 600⟩), switchCulling true,
    .reportPosition ⟨0, 200⟩ 10, switchCulling false, .reportPosition ⟨0, 300⟩ 20,
    .setSurroundings .unclipped, switchCulling true, .resizeContent ⟨300, 600⟩ 30,
    .setSurroundings .detached]

theorem Course.visibleRect_fresh_switched :
    ∃ (start pane : Pane Stride) (turns : List (Turn Stride)),
      Fresh start ∧ Course start turns pane ∧ pane.surroundings = .detached ∧
      surroundingsSeen turns = .unclipped ∧ pane.settings.culling = true ∧
      pane.culling.content = .present [⟨0, 0, 300, 300⟩, ⟨0, 200, 300, 500⟩, ⟨0, 300, 300, 800⟩,
        ⟨0, 100, 300, 600⟩] ∧
      pane.visibleRect = .ok ⟨0, 100, 300, 600⟩ := by
  let start : Pane Stride := create .standard .standard (some (.create 40))
  have fresh : Fresh start := .create _ _ _
  have seen : surroundingsSeen (start.history scrolledThroughCulling) = .unclipped := by
    decide +kernel
  have came : (start.run scrolledThroughCulling).map (fun pane =>
      (pane.surroundings, pane.settings.culling, pane.culling.content)) =
      .ok (.detached, true, .present [⟨0, 0, 300, 300⟩, ⟨0, 200, 300, 500⟩, ⟨0, 300, 300, 800⟩,
        ⟨0, 100, 300, 600⟩]) := by decide +kernel
  obtain ⟨pane, ran, same⟩ := Outcome.map_eq_ok_iff.mp came
  simp only [Prod.mk.injEq] at same
  obtain ⟨away, enabled, received⟩ := same
  have course := course_history ran
  obtain ⟨_, kept, _⟩ := Course.visibleRect_fresh fresh course
  obtain ⟨rect, visible, _, handed⟩ := kept enabled
  have last := handed _ received (by simp)
  cases last
  exact ⟨start, pane, _, fresh, course, away, seen, enabled, received, visible⟩

end Pane

end KineticScroll
