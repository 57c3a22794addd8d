import KineticScroll.Pane.Operation
import KineticScroll.Proofs.Signal

/-!
# What an operation can change

A pane changes in few ways.  Its content is carried along, a motion is started,
a drag begins or ends, a fling opens a settle sequence, or a frame answers the
alarms that are due.  Whatever holds of a pane after every operation is shown
along these ways, and so nothing else has to look into the operations.
-/

namespace KineticScroll

theorem Animation.exists_of_hasPhysics {σ : Type} {animation : Animation σ}
    (present : animation.hasPhysics = true) : ∃ physics, animation.physics = .ok physics := by
  unfold hasPhysics at present
  cases held : animation.physics with
  | ok physics => exact ⟨physics, rfl⟩
  | error gap => simp [held] at present

theorem Animation.isRunning_of_absent {σ : Type} [ScrollPhysics σ] {animation : Animation σ}
    (absent : animation.hasPhysics = false) : animation.isRunning = false := by
  unfold hasPhysics at absent
  unfold isRunning
  cases held : animation.physics with
  | ok physics => simp [held] at absent
  | error gap => rfl

/-- Only physics is asked for a free fling. -/
theorem Animation.hasPhysics_of_respond_free {σ : Type} {animation : Animation σ} {velocity : Px}
    {release : Release} {launch : Launch}
    (responded : animation.respond velocity release = .ok (.free launch)) :
    animation.hasPhysics = true := by
  unfold respond at responded
  split at responded
  · obtain ⟨target, _, impossible⟩ := Outcome.map_eq_ok_iff.mp responded
    cases impossible
  · split at responded
    · next present => exact present
    · cases responded

/-- The host is asked for a fling only where there is no physics. -/
theorem Animation.hasPhysics_of_respond_host {σ : Type} {animation : Animation σ}
    {velocity speed : Px} {release : Release}
    (responded : animation.respond velocity release = .ok (.host speed)) :
    animation.hasPhysics = false := by
  unfold respond at responded
  split at responded
  · obtain ⟨target, _, impossible⟩ := Outcome.map_eq_ok_iff.mp responded
    cases impossible
  · split at responded
    · obtain ⟨launch, _, impossible⟩ := Outcome.map_eq_ok_iff.mp responded
      cases impossible
    · next absent => simpa using absent

namespace Pane

variable {σ : Type} [ScrollPhysics σ]

/-! ## Starting a motion -/

/-- Physics that has just been given a new motion. -/
inductive Launched (physics : σ) (now : Millis) : σ → Prop where
  | fling {launch : Launch} {launched : σ} :
      ScrollPhysics.fling physics launch now = .ok launched → Launched physics now launched
  | glide (source distance : Px) :
      Launched physics now (ScrollPhysics.glide physics source distance now)

/-- A motion starts: it has the next number, and the alarm for its first step is set. -/
inductive Starts (pane : Pane σ) (now : Millis) : Pane σ → Prop where
  | intro {physics launched : σ} (present : pane.animation.physics = .ok physics)
      (started : Launched physics now launched) :
      Starts pane now { pane with
        animation := ⟨.ok launched, pane.animation.generation + 1⟩
        alarms := pane.alarms.set (.step (pane.animation.generation + 1)) now 0 }

/-- The content may be moved, and one motion may be started. -/
inductive Steers (pane : Pane σ) (now : Millis) : Pane σ → Prop where
  | move {next : Pane σ} : Moves pane next → Steers pane now next
  | start {moved next : Pane σ} :
      Moves pane moved → Starts moved now next → Steers pane now next

theorem Starts.carries {pane next : Pane σ} {now : Millis} (starts : Starts pane now next) :
    Carries pane next := by
  cases starts
  exact .of_still rfl rfl rfl rfl rfl rfl

theorem Steers.carries {pane next : Pane σ} {now : Millis} (steers : Steers pane now next) :
    Carries pane next := by
  cases steers with
  | move moves => exact moves.toCarries
  | start moves starts => exact moves.toCarries.trans starts.carries

theorem Steers.layout {pane next : Pane σ} {now : Millis} (steers : Steers pane now next) :
    next.content = pane.content ∧ next.extent = pane.extent := by
  cases steers with
  | move moves => exact ⟨moves.content, moves.extent⟩
  | start moves starts =>
      cases starts
      exact ⟨moves.content, moves.extent⟩

/-- A move may come before. -/
theorem Steers.after {pane moved next : Pane σ} {now : Millis}
    (moves : Moves pane moved) (steers : Steers moved now next) : Steers pane now next := by
  cases steers with
  | move later => exact .move (moves.trans later)
  | start later starts => exact .start (moves.trans later) starts

/-- Following a motion that has been started sets the alarm for its first step. -/
theorem follow_started_starts {pane : Pane σ} {physics launched : σ} {now : Millis}
    (present : pane.animation.physics = .ok physics) (started : Launched physics now launched) :
    Starts pane now (pane.follow (pane.animation.started launched) now) :=
  .intro present started

theorem startGlide_steers (pane : Pane σ) (y : Px) (now : Millis) :
    Steers pane now (pane.startGlide y now) := by
  unfold startGlide
  split
  · next present =>
      obtain ⟨physics, held⟩ := Animation.exists_of_hasPhysics present
      simp only [Animation.startGlide, held]
      exact .start (.refl pane) (follow_started_starts held (.glide pane.offset.y _))
  · exact .move (pane.push_moves _)

theorem glideTo_steers {pane next : Pane σ} {y : Px} {now : Millis}
    (glided : pane.glideTo y now = .ok next) : Steers pane now next := by
  obtain ⟨target, _, same⟩ := Outcome.bind_eq_ok_iff.mp glided
  cases same
  split
  · exact .move (.refl pane)
  · exact pane.startGlide_steers target now

theorem glideToPage_steers {pane next : Pane σ} {velocity : Px} {now : Millis}
    (glided : pane.glideToPage velocity now = .ok next) : Steers pane now next := by
  obtain ⟨target, _, glides⟩ := Outcome.bind_eq_ok_iff.mp glided
  exact glideTo_steers glides

theorem follow_startFling_starts {pane : Pane σ} {launch : Launch} {now : Millis}
    {started : Option UInt64 × Animation σ} (present : pane.animation.hasPhysics = true)
    (flung : pane.animation.startFling launch now = .ok started) :
    Starts pane now (pane.follow started now) := by
  obtain ⟨physics, held⟩ := Animation.exists_of_hasPhysics present
  simp only [Animation.startFling, held] at flung
  obtain ⟨launched, computed, rfl⟩ := Outcome.map_eq_ok_iff.mp flung
  exact follow_started_starts held (.fling computed)

/-! ## Gestures -/

/-- A drag begins: motion is stopped, and a settle sequence that was open is cut short. -/
structure Grabs (pane next : Pane σ) : Prop where
  settings : next.settings = pane.settings
  animation : next.animation = pane.animation.abort
  alarms : next.alarms = pane.alarms
  settling : next.settling = pane.settling.close
  dragging : next.state.dragging = true
  flinging : next.state.flinging = (!pane.isSettling && pane.state.flinging)
  sent : next.kinds =
    pane.kinds ++ (if pane.isSettling then pane.momentumKinds .momentumEnd else []) ++ [.dragBegin]

theorem takeHold_grabs (pane : Pane σ) : Grabs pane pane.takeHold := by
  have cuts := cutSettling_cuts { pane with animation := pane.animation.abort }
  unfold takeHold
  dsimp only
  generalize cutSettling { pane with animation := pane.animation.abort } = cut at cuts ⊢
  have signals := (emit_signals { cut with state := { cut.state with dragging := true } }
    .dragBegin .zero).trans (callMeter_signals _ .enable)
  refine ⟨signals.settings.trans cuts.settings, signals.animation.trans cuts.animation,
    signals.alarms.trans cuts.alarms, signals.settling.trans cuts.settling, ?_, ?_, ?_⟩
  · rw [signals.state]
  · rw [signals.state]
    exact cuts.flinging
  · rw [signals.sent]
    exact congrArg (fun sent => sent ++ [EventKind.dragBegin]) cuts.sent

theorem Grabs.isSettling {pane next : Pane σ} (grabs : Grabs pane next) :
    next.isSettling = false := by
  rw [Pane.isSettling, grabs.settling, Settling.close_isOpen]

/-- A drag ends. -/
structure Drops (pane next : Pane σ) : Prop where
  settings : next.settings = pane.settings
  animation : next.animation = pane.animation
  alarms : next.alarms = pane.alarms
  settling : next.settling = pane.settling
  dragging : next.state.dragging = false
  flinging : next.state.flinging = pane.state.flinging
  sent : next.kinds = pane.kinds ++ [.dragEnd]

/-- A pane whose content has been flung. -/
def flung (pane : Pane σ) : Pane σ :=
  { pane with state := { pane.state with flinging := true } }

/-- The ways in which an operation can change a pane. -/
inductive Change (pane : Pane σ) : Operation → Pane σ → Prop where
  | drift {operation : Operation} {next : Pane σ} :
      Drifts pane next → Change pane operation next
  | configure {change : Settings → Settings} {next : Pane σ} :
      Drifts { pane with settings := change pane.settings } next →
        Change pane (.configure change) next
  | grab {next : Pane σ} :
      pane.settings.scrollEnabled = true → Grabs pane next → Change pane .grab next
  /-- A drag ends and nothing is worth a settle sequence. -/
  | drop {touch : Touch} {next : Pane σ} :
      pane.settings.scrollEnabled = true → pane.state.dragging = true → Drops pane next →
        next.settlesAfterDrag = false → Change pane (.touch touch) next
  | release {touch : Touch} {dropped next : Pane σ} :
      pane.settings.scrollEnabled = true → pane.state.dragging = true → Drops pane dropped →
        Settles dropped .drag touch.time next → Change pane (.touch touch) next
  /-- A fling glides to a page, or nothing is worth a settle sequence. -/
  | glide {velocity : Px} {now : Millis} {next : Pane σ} :
      pane.settings.scrollEnabled = true → Steers pane now next →
        Change pane (.fling velocity now) next
  | fling {velocity : Px} {now : Millis} {steered next : Pane σ} :
      pane.settings.scrollEnabled = true → Steers pane now steered →
        Settles steered.flung .fling now next → Change pane (.fling velocity now) next
  | frame {now : Millis} {next : Pane σ} :
      pane.frame now = .ok next → Change pane (.frame now) next

theorem grab_change {pane next : Pane σ} {accepted : Bool}
    (grabbed : pane.grab = (accepted, next)) : Change pane .grab next := by
  unfold Pane.grab at grabbed
  split at grabbed
  · next enabled =>
      cases grabbed
      exact .grab enabled pane.takeHold_grabs
  · cases grabbed
    exact .drift (.refl pane)

omit [ScrollPhysics σ] in
/-- Letting go ends the drag, and then a settle sequence may open. -/
theorem letGo_drops (pane : Pane σ) (speedometer : Option Speedometer) (now : Millis) :
    ∃ dropped, Drops pane dropped ∧
      { pane with speedometer := speedometer }.letGo now =
        if dropped.settlesAfterDrag then dropped.startSettling .drag now else dropped := by
  generalize observed : { pane with speedometer := speedometer } = watched
  have ended := watched.emit_signals .dragEnd watched.releaseVelocity
  unfold letGo
  dsimp only
  generalize watched.emit .dragEnd watched.releaseVelocity = after at ended ⊢
  have signals := callMeter_signals
    { after with state := { after.state with dragging := false } } .disable
  generalize callMeter _ .disable = dropped at signals ⊢
  subst observed
  refine ⟨dropped, ?_, rfl⟩
  refine ⟨signals.settings.trans ended.settings, signals.animation.trans ended.animation,
    signals.alarms.trans ended.alarms, signals.settling.trans ended.settling, ?_, ?_, ?_⟩
  · rw [signals.state]
  · rw [signals.state]
    show after.state.flinging = pane.state.flinging
    rw [ended.state]
  · have sent := signals.sent
    rw [List.append_nil] at sent
    exact sent.trans ended.sent

theorem letGo_change {pane : Pane σ} {touch : Touch} {speedometer : Option Speedometer}
    (enabled : pane.settings.scrollEnabled = true) (dragging : pane.state.dragging = true) :
    Change pane (.touch touch) ({ pane with speedometer := speedometer }.letGo touch.time) := by
  obtain ⟨dropped, drops, same⟩ := pane.letGo_drops speedometer touch.time
  rw [same]
  split
  · exact .release enabled dragging drops (dropped.startSettling_settles .drag touch.time)
  · next notWorth => exact .drop enabled dragging drops (by simpa using notWorth)

omit [ScrollPhysics σ] in
/-- A touch is only observed, unless a finger lifts that drags while scrolling is enabled. -/
theorem touch_eq_observed_or_letGo {pane next : Pane σ} {touch : Touch} {accepted : Bool}
    (touched : pane.touch touch = (accepted, next)) :
    (pane.settings.scrollEnabled = true → (touch.phase.lifts && pane.state.dragging) = false) ∧
        (∃ speedometer, next = { pane with speedometer := speedometer }) ∨
      pane.settings.scrollEnabled = true ∧ (touch.phase.lifts && pane.state.dragging) = true ∧
        ∃ speedometer, next = { pane with speedometer := speedometer }.letGo touch.time := by
  unfold Pane.touch at touched
  dsimp only at touched
  split at touched
  · next enabled =>
      split at touched
      · next ends =>
          cases touched
          exact .inr ⟨enabled, ends, _, rfl⟩
      · next endsNone =>
          cases touched
          exact .inl ⟨fun _ => by simpa using endsNone, _, rfl⟩
  · next disabled =>
      cases touched
      exact .inl ⟨fun enabled => absurd enabled disabled, pane.speedometer, rfl⟩

omit [ScrollPhysics σ] in
/-- A touch that ends no drag is only observed. -/
theorem touch_drifts {pane next : Pane σ} {touch : Touch} {accepted : Bool}
    (endsNone : (touch.phase.lifts && pane.state.dragging) = false)
    (touched : pane.touch touch = (accepted, next)) : Drifts pane next := by
  rcases touch_eq_observed_or_letGo touched with ⟨_, speedometer, rfl⟩ | ⟨_, ends, _⟩
  · exact .of_still rfl rfl rfl rfl rfl rfl rfl rfl
  · rw [endsNone] at ends
    cases ends

theorem touch_change {pane next : Pane σ} {touch : Touch} {accepted : Bool}
    (touched : pane.touch touch = (accepted, next)) : Change pane (.touch touch) next := by
  rcases touch_eq_observed_or_letGo touched with
    ⟨_, speedometer, rfl⟩ | ⟨enabled, ends, speedometer, rfl⟩
  · exact .drift (.of_still rfl rfl rfl rfl rfl rfl rfl rfl)
  · exact letGo_change enabled (Bool.and_eq_true_iff.mp ends).2

theorem settleFling_change {pane steered : Pane σ} {velocity : Px} {now : Millis}
    (enabled : pane.settings.scrollEnabled = true) (steers : Steers pane now steered) :
    Change pane (.fling velocity now) (steered.settleFling now) := by
  unfold settleFling
  split
  · exact .fling enabled steers (startSettling_settles _ .fling now)
  · exact .glide enabled steers

/-- What a fling comes to while scrolling is enabled. -/
inductive Flings (pane : Pane σ) (now : Millis) : Pane σ → Prop where
  /-- The content glides to a page. -/
  | page {target : Px} {next : Pane σ} :
      (pane.emit .scroll pane.movements.velocity).glideTo target now = .ok next →
        Flings pane now next
  /-- The physics of the pane is flung. -/
  | free {launch : Launch} {started : Option UInt64 × Animation σ} :
      pane.animation.hasPhysics = true → pane.animation.startFling launch now = .ok started →
        Flings pane now ((pane.follow started now).settleFling now)
  /-- The host is asked to fling. -/
  | host {speed : Px} :
      pane.animation.hasPhysics = false →
        Flings pane now ((pane.push (.fling speed)).settleFling now)

theorem fling_eq_ok {pane next : Pane σ} {velocity : Px} {now : Millis}
    (flung : pane.fling velocity now = .ok next) :
    pane.settings.scrollEnabled = true ∧ Flings pane now next ∨ next = pane := by
  unfold Pane.fling at flung
  split at flung
  · next enabled =>
      left
      refine ⟨enabled, ?_⟩
      obtain ⟨response, responded, carried⟩ := Outcome.bind_eq_ok_iff.mp flung
      cases response with
      | page target => exact .page carried
      | free launch =>
          obtain ⟨started, begun, same⟩ := Outcome.bind_eq_ok_iff.mp carried
          cases same
          exact .free (Animation.hasPhysics_of_respond_free responded) begun
      | host speed =>
          cases carried
          exact .host (Animation.hasPhysics_of_respond_host responded)
  · cases flung
    exact .inr rfl

theorem fling_change {pane next : Pane σ} {velocity : Px} {now : Millis}
    (flung : pane.fling velocity now = .ok next) : Change pane (.fling velocity now) next := by
  rcases fling_eq_ok flung with ⟨enabled, flings⟩ | rfl
  · cases flings with
    | page glided =>
        have sent : Moves pane (pane.emit .scroll pane.movements.velocity) :=
          ⟨⟨⟨rfl, rfl, rfl, rfl, rfl, [_], rfl, by simp [eventNow]⟩, rfl, rfl⟩, rfl, rfl, rfl⟩
        exact .glide enabled (.after sent (glideTo_steers glided))
    | free present begun =>
        exact settleFling_change enabled
          (.start (.refl pane) (follow_startFling_starts present begun))
    | host absent => exact settleFling_change enabled (.move (pane.push_moves _))
  · exact .drift (.refl next)

/-- What each operation leaves, where it does not fault. -/
inductive Performs (pane : Pane σ) : Operation → Pane σ → Prop where
  | configure {change : Settings → Settings} {next : Pane σ} :
      pane.configure (change pane.settings) = .ok next → Performs pane (.configure change) next
  | layOut {viewport : Viewport} {now : Millis} {next : Pane σ} :
      pane.layOut viewport now = .ok next → Performs pane (.layOut viewport now) next
  | setContent {content : ContentSize} {now : Millis} {next : Pane σ} :
      pane.setContent content now = .ok next → Performs pane (.setContent content now) next
  | resizeContent {content : ContentSize} {now : Millis} {next : Pane σ} :
      pane.resizeContent content now = .ok next → Performs pane (.resizeContent content now) next
  | removeContent : Performs pane .removeContent pane.removeContent
  | linkContent : Performs pane .linkContent (pane.linkContent (.present []))
  | unlinkContent : Performs pane .unlinkContent (pane.linkContent .absent)
  | contentLeft : Performs pane .contentLeft pane.contentLeft
  | enterWindow {surroundings : Surroundings} {next : Pane σ} :
      pane.enterWindow surroundings = .ok next → Performs pane (.enterWindow surroundings) next
  | setSurroundings (surroundings : Surroundings) :
      Performs pane (.setSurroundings surroundings) (pane.setSurroundings surroundings)
  | refreshCulling {next : Pane σ} :
      pane.refreshCulling = .ok next → Performs pane .refreshCulling next
  | reportPosition {position : Offset} {now : Millis} {event : Option PaneEvent}
      {next : Pane σ} :
      pane.reportPosition position now = .ok (event, next) →
        Performs pane (.reportPosition position now) next
  | grab {accepted : Bool} {next : Pane σ} :
      pane.grab = (accepted, next) → Performs pane .grab next
  | touch {touch : Touch} {accepted : Bool} {next : Pane σ} :
      pane.touch touch = (accepted, next) → Performs pane (.touch touch) next
  | fling {velocity : Px} {now : Millis} {next : Pane σ} :
      pane.fling velocity now = .ok next → Performs pane (.fling velocity now) next
  | frame {now : Millis} {next : Pane σ} :
      pane.frame now = .ok next → Performs pane (.frame now) next
  | flashIndicators : Performs pane .flashIndicators pane.flashIndicators
  | collectCommands : Performs pane .collectCommands pane.collectCommands.2

theorem perform_performs {pane next : Pane σ} {operation : Operation} {reply : Reply}
    (performed : pane.perform operation = .ok (reply, next)) : Performs pane operation next := by
  cases operation with
  | configure change =>
      obtain ⟨_, configured, same⟩ := Outcome.map_eq_ok_iff.mp performed
      cases same
      exact .configure configured
  | layOut viewport now =>
      obtain ⟨_, laid, same⟩ := Outcome.map_eq_ok_iff.mp performed
      cases same
      exact .layOut laid
  | setContent content now =>
      obtain ⟨_, set, same⟩ := Outcome.map_eq_ok_iff.mp performed
      cases same
      exact .setContent set
  | resizeContent content now =>
      obtain ⟨_, resized, same⟩ := Outcome.map_eq_ok_iff.mp performed
      cases same
      exact .resizeContent resized
  | enterWindow surroundings =>
      obtain ⟨_, entered, same⟩ := Outcome.map_eq_ok_iff.mp performed
      cases same
      exact .enterWindow entered
  | refreshCulling =>
      obtain ⟨_, refreshed, same⟩ := Outcome.map_eq_ok_iff.mp performed
      cases same
      exact .refreshCulling refreshed
  | reportPosition position now =>
      obtain ⟨⟨event, moved⟩, reported, same⟩ := Outcome.map_eq_ok_iff.mp performed
      cases same
      exact .reportPosition reported
  | fling velocity now =>
      obtain ⟨_, flung, same⟩ := Outcome.map_eq_ok_iff.mp performed
      cases same
      exact .fling flung
  | frame now =>
      obtain ⟨_, framed, same⟩ := Outcome.map_eq_ok_iff.mp performed
      cases same
      exact .frame framed
  | grab =>
      cases performed
      exact .grab rfl
  | touch touch =>
      cases performed
      exact .touch rfl
  | removeContent =>
      cases performed
      exact .removeContent
  | linkContent =>
      cases performed
      exact .linkContent
  | unlinkContent =>
      cases performed
      exact .unlinkContent
  | contentLeft =>
      cases performed
      exact .contentLeft
  | setSurroundings surroundings =>
      cases performed
      exact .setSurroundings surroundings
  | flashIndicators =>
      cases performed
      exact .flashIndicators
  | collectCommands =>
      cases performed
      exact .collectCommands

/-- Nothing else than these changes comes of an operation. -/
theorem perform_change {pane next : Pane σ} {operation : Operation} {reply : Reply}
    (performed : pane.perform operation = .ok (reply, next)) : Change pane operation next := by
  cases perform_performs performed with
  | configure configured => exact .configure (configure_drifts configured)
  | layOut laid => exact .drift (layOut_drifts laid)
  | setContent set => exact .drift (setContent_drifts set)
  | resizeContent resized => exact .drift (resizeContent_drifts resized)
  | enterWindow entered => exact .drift (enterWindow_drifts entered)
  | refreshCulling refreshed => exact .drift (refreshCulling_moves refreshed).toDrifts
  | reportPosition reported => exact .drift (reportPosition_moves reported).toDrifts
  | grab grabbed => exact grab_change grabbed
  | touch touched => exact touch_change touched
  | fling flung => exact fling_change flung
  | frame framed => exact .frame framed
  | _ => exact .drift (.of_still rfl rfl rfl rfl rfl rfl rfl rfl)

end Pane

end KineticScroll
