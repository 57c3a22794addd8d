import KineticScroll.Pane.Frame
import KineticScroll.Proofs.Outcome

/-!
# Drift

Most of what happens to a pane only carries its content along.  Such a change
leaves the gesture and the settle sequence alone and sends scroll events only.
A drift leaves the motion and the alarms alone as well, and a move changes
nothing but the position.
-/

namespace KineticScroll

namespace Pane

variable {σ : Type}

/-- The kinds of the events so far. -/
def kinds (pane : Pane σ) : List EventKind :=
  pane.emissions.map fun emission => emission.event.kind

/-- The drag and the settle sequence go on as before, and only scroll events are sent. -/
structure Carries (before after : Pane σ) : Prop where
  settings : after.settings = before.settings
  settling : after.settling = before.settling
  meter : after.meter = before.meter
  dragging : after.state.dragging = before.state.dragging
  flinging : after.state.flinging = before.state.flinging
  scrolls : ∃ scrolls, after.emissions = before.emissions ++ scrolls ∧
    ∀ emission ∈ scrolls, emission.event.kind = .scroll

/-- The motion and the alarms are the same as well. -/
structure Drifts (before after : Pane σ) : Prop extends Carries before after where
  animation : after.animation = before.animation
  alarms : after.alarms = before.alarms

/-- The layout is the same as well. -/
structure Moves (before after : Pane σ) : Prop extends Drifts before after where
  viewport : after.viewport = before.viewport
  content : after.content = before.content
  extent : after.extent = before.extent

namespace Carries

/-- What sends nothing and changes neither drag nor settle sequence carries the content. -/
theorem of_still {before after : Pane σ}
    (settings : after.settings = before.settings) (settling : after.settling = before.settling)
    (meter : after.meter = before.meter) (dragging : after.state.dragging = before.state.dragging)
    (flinging : after.state.flinging = before.state.flinging)
    (emissions : after.emissions = before.emissions) : Carries before after :=
  ⟨settings, settling, meter, dragging, flinging, [], by rw [emissions, List.append_nil], by simp⟩

theorem trans {first second third : Pane σ}
    (begun : Carries first second) (ended : Carries second third) : Carries first third := by
  obtain ⟨early, sentEarly, earlyScrolls⟩ := begun.scrolls
  obtain ⟨late, sentLate, lateScrolls⟩ := ended.scrolls
  refine ⟨ended.settings.trans begun.settings, ended.settling.trans begun.settling,
    ended.meter.trans begun.meter, ended.dragging.trans begun.dragging,
    ended.flinging.trans begun.flinging, early ++ late, ?_, ?_⟩
  · rw [sentLate, sentEarly, List.append_assoc]
  · intro emission sent
    rcases List.mem_append.mp sent with isEarly | isLate
    · exact earlyScrolls emission isEarly
    · exact lateScrolls emission isLate

theorem kinds {before after : Pane σ} (carries : Carries before after) :
    ∃ count, after.kinds = before.kinds ++ List.replicate count .scroll := by
  obtain ⟨scrolls, sent, areScrolls⟩ := carries.scrolls
  refine ⟨scrolls.length, ?_⟩
  have same : scrolls.map (fun emission => emission.event.kind) =
      List.replicate scrolls.length .scroll :=
    List.map_eq_replicate_iff.mpr areScrolls
  rw [Pane.kinds, sent, List.map_append, same, Pane.kinds]

end Carries

namespace Drifts

theorem of_still {before after : Pane σ}
    (settings : after.settings = before.settings) (settling : after.settling = before.settling)
    (meter : after.meter = before.meter) (dragging : after.state.dragging = before.state.dragging)
    (flinging : after.state.flinging = before.state.flinging)
    (emissions : after.emissions = before.emissions)
    (animation : after.animation = before.animation) (alarms : after.alarms = before.alarms) :
    Drifts before after :=
  ⟨.of_still settings settling meter dragging flinging emissions, animation, alarms⟩

theorem refl (pane : Pane σ) : Drifts pane pane :=
  .of_still rfl rfl rfl rfl rfl rfl rfl rfl

theorem trans {first second third : Pane σ}
    (begun : Drifts first second) (ended : Drifts second third) : Drifts first third :=
  ⟨begun.toCarries.trans ended.toCarries, ended.animation.trans begun.animation,
    ended.alarms.trans begun.alarms⟩

end Drifts

namespace Moves

theorem refl (pane : Pane σ) : Moves pane pane :=
  ⟨.refl pane, rfl, rfl, rfl⟩

theorem trans {first second third : Pane σ}
    (begun : Moves first second) (ended : Moves second third) : Moves first third :=
  ⟨begun.toDrifts.trans ended.toDrifts, ended.viewport.trans begun.viewport,
    ended.content.trans begun.content, ended.extent.trans begun.extent⟩

end Moves

/-! ## Culling and settings -/

theorem refreshCulling_eq_ok {pane next : Pane σ} (refreshed : pane.refreshCulling = .ok next) :
    ∃ culling, next = { pane with culling := culling } := by
  obtain ⟨culling, _, same⟩ := Outcome.bind_eq_ok_iff.mp refreshed
  cases same
  exact ⟨culling, rfl⟩

theorem refreshCulling_moves {pane next : Pane σ} (refreshed : pane.refreshCulling = .ok next) :
    Moves pane next := by
  obtain ⟨culling, rfl⟩ := refreshCulling_eq_ok refreshed
  exact ⟨.of_still rfl rfl rfl rfl rfl rfl rfl rfl, rfl, rfl, rfl⟩

/-- New settings may bring another culling along, and nothing else. -/
theorem configure_eq_ok {pane next : Pane σ} {settings : Settings}
    (configured : pane.configure settings = .ok next) :
    ∃ culling, next = { pane with settings := settings, culling := culling } := by
  unfold configure at configured
  dsimp only at configured
  split at configured
  · exact refreshCulling_eq_ok configured
  · cases configured
    exact ⟨_, rfl⟩

theorem configure_drifts {pane next : Pane σ} {settings : Settings}
    (configured : pane.configure settings = .ok next) :
    Drifts { pane with settings := settings } next := by
  obtain ⟨culling, rfl⟩ := configure_eq_ok configured
  exact .of_still rfl rfl rfl rfl rfl rfl rfl rfl

theorem enterWindow_drifts {pane next : Pane σ} {surroundings : Surroundings}
    (entered : pane.enterWindow surroundings = .ok next) : Drifts pane next := by
  obtain ⟨culling, rfl⟩ := refreshCulling_eq_ok entered
  exact .of_still rfl rfl rfl rfl rfl rfl rfl rfl

/-! ## Position -/

theorem moveTo_moves {pane next : Pane σ} {movement : Movement} {event : PaneEvent}
    (moved : pane.moveTo movement = .ok (event, next)) : Moves pane next := by
  obtain ⟨seen, refreshed, same⟩ := Outcome.bind_eq_ok_iff.mp moved
  cases same
  obtain ⟨culling, rfl⟩ := refreshCulling_eq_ok refreshed
  exact ⟨⟨⟨rfl, rfl, rfl, rfl, rfl, [_], rfl, by simp [eventNow]⟩, rfl, rfl⟩, rfl, rfl, rfl⟩

theorem reportPosition_moves {pane next : Pane σ} {position : Offset} {now : Millis}
    {event : Option PaneEvent} (reported : pane.reportPosition position now = .ok (event, next)) :
    Moves pane next := by
  obtain ⟨⟨movement, movements⟩, _, taken⟩ := Outcome.bind_eq_ok_iff.mp reported
  cases movement with
  | none =>
      cases taken
      exact .refl pane
  | some movement =>
      obtain ⟨⟨sent, moved⟩, arrived, same⟩ := Outcome.bind_eq_ok_iff.mp taken
      cases same
      have filtered : Moves pane { pane with movements := movements } :=
        ⟨.of_still rfl rfl rfl rfl rfl rfl rfl rfl, rfl, rfl, rfl⟩
      exact filtered.trans (moveTo_moves arrived)

theorem push_moves (pane : Pane σ) (command : Command) : Moves pane (pane.push command) :=
  ⟨.of_still rfl rfl rfl rfl rfl rfl rfl rfl, rfl, rfl, rfl⟩

theorem jumpTo_moves {pane next : Pane σ} {y : Px} {now : Millis}
    (jumped : pane.jumpTo y now = .ok next) : Moves pane next := by
  obtain ⟨⟨event, moved⟩, reported, same⟩ := Outcome.bind_eq_ok_iff.mp jumped
  cases same
  exact (pane.push_moves _).trans (reportPosition_moves reported)

/-! ## Layout -/

theorem fitExtent_drifts {pane next : Pane σ} {now : Millis}
    (fitted : pane.fitExtent now = .ok next) : Drifts pane next := by
  obtain ⟨extent, _, placed⟩ := Outcome.bind_eq_ok_iff.mp fitted
  have measured : Drifts pane { pane with extent := extent } :=
    .of_still rfl rfl rfl rfl rfl rfl rfl rfl
  split at placed
  · split at placed
    · cases placed
      exact measured
    · exact measured.trans (jumpTo_moves placed).toDrifts
  · cases placed
    exact measured

/-- A new viewport may bring another culling along; then the extent is fitted to it. -/
theorem layOut_eq_ok {pane next : Pane σ} {viewport : Viewport} {now : Millis}
    (laid : pane.layOut viewport now = .ok next) :
    ∃ culling, { pane with viewport := viewport, culling := culling }.fitExtent now = .ok next := by
  unfold layOut at laid
  dsimp only at laid
  split at laid
  · obtain ⟨seen, refreshed, fitted⟩ := Outcome.bind_eq_ok_iff.mp laid
    obtain ⟨culling, rfl⟩ := refreshCulling_eq_ok refreshed
    exact ⟨culling, fitted⟩
  · exact ⟨pane.culling, laid⟩

/-- Content is resized where there is any. -/
theorem resizeContent_eq_ok {pane next : Pane σ} {content : ContentSize} {now : Millis}
    (resized : pane.resizeContent content now = .ok next) :
    pane.setContent content now = .ok next ∨ ¬ pane.content.isSome = true ∧ next = pane := by
  unfold resizeContent at resized
  split at resized
  · exact .inl resized
  · next detached =>
      cases resized
      exact .inr ⟨detached, rfl⟩

theorem layOut_drifts {pane next : Pane σ} {viewport : Viewport} {now : Millis}
    (laid : pane.layOut viewport now = .ok next) : Drifts pane next := by
  obtain ⟨culling, fitted⟩ := layOut_eq_ok laid
  have placed : Drifts pane { pane with viewport := viewport, culling := culling } :=
    .of_still rfl rfl rfl rfl rfl rfl rfl rfl
  exact placed.trans (fitExtent_drifts fitted)

theorem setContent_drifts {pane next : Pane σ} {content : ContentSize} {now : Millis}
    (set : pane.setContent content now = .ok next) : Drifts pane next := by
  have placed : Drifts pane { pane with content := some content } :=
    .of_still rfl rfl rfl rfl rfl rfl rfl rfl
  exact placed.trans (fitExtent_drifts set)

theorem resizeContent_drifts {pane next : Pane σ} {content : ContentSize} {now : Millis}
    (resized : pane.resizeContent content now = .ok next) : Drifts pane next := by
  rcases resizeContent_eq_ok resized with set | ⟨_, rfl⟩
  · exact setContent_drifts set
  · exact .refl _

end Pane

end KineticScroll
