import KineticScroll.Proofs.Answer

/-!
# Where the content is

A pane knows the offset of its content, and remembers when it last saw the
content arrive at another one.  Only an accepted report changes either, and it
changes both to the same offset.  Gestures and announcements leave them alone.
-/

namespace KineticScroll

/-- Whether a command sets the host moving by itself. -/
def Command.startsMotion : Command → Bool
  | .glide _ => true
  | .fling _ => true
  | .jump _ => false
  | .flashIndicators => false

namespace Pane

variable {σ : Type}

/-- The time of an operation, if the host gives it one. -/
def Operation.time? : Operation → Option Millis
  | .layOut _ now => some now
  | .setContent _ now => some now
  | .resizeContent _ now => some now
  | .reportPosition _ now => some now
  | .touch finger => some finger.time
  | .fling _ now => some now
  | .frame now => some now
  | _ => none

/-- The offset seen last, or the start when nothing has been seen. -/
def sightedOffset (pane : Pane σ) : Offset :=
  (pane.movements.last.map Sighting.offset).getD ⟨0, 0⟩

/-- The offset of the content is the one seen last. -/
def Located (pane : Pane σ) : Prop :=
  pane.offset = pane.sightedOffset

/-! ## Staying -/

/-- The content stays, nothing is seen of it, and the host is asked for nothing. -/
structure Stays (before after : Pane σ) : Prop where
  offset : after.offset = before.offset
  movements : after.movements = before.movements
  commands : after.commands = before.commands

namespace Stays

theorem refl (pane : Pane σ) : Stays pane pane :=
  ⟨rfl, rfl, rfl⟩

theorem trans {first second third : Pane σ}
    (begun : Stays first second) (ended : Stays second third) : Stays first third :=
  ⟨ended.offset.trans begun.offset, ended.movements.trans begun.movements,
    ended.commands.trans begun.commands⟩

theorem located {before after : Pane σ} (stays : Stays before after) (located : Located before) :
    Located after := by
  rw [Located, sightedOffset, stays.offset, stays.movements]
  exact located

end Stays

theorem emit_stays (pane : Pane σ) (kind : EventKind) (velocity : Velocity) :
    Stays pane (pane.emit kind velocity) :=
  ⟨rfl, rfl, rfl⟩

theorem emitMomentum_stays (pane : Pane σ) (kind : EventKind) :
    Stays pane (pane.emitMomentum kind) := by
  unfold emitMomentum
  split
  · exact pane.emit_stays kind .zero
  · exact .refl pane

theorem callMeter_stays (pane : Pane σ) (call : String → MeterCall) :
    Stays pane (pane.callMeter call) := by
  unfold callMeter
  split <;> exact ⟨rfl, rfl, rfl⟩

theorem announce_stays (pane : Pane σ) (kind : EventKind) (call : String → MeterCall) :
    Stays pane ((pane.emitMomentum kind).callMeter call) :=
  (pane.emitMomentum_stays kind).trans (callMeter_stays _ call)

theorem startSettling_stays (pane : Pane σ) (cause : SettleCause) (now : Millis) :
    Stays pane (pane.startSettling cause now) := by
  unfold startSettling
  dsimp only
  split
  · exact .refl pane
  · next opened =>
      have announced := announce_stays
        { pane with
          settling := pane.settling.start.2
          state := { pane.state with active := cause.countsAsMoving } }
        .momentumBegin .enable
      exact ⟨announced.offset, announced.movements, announced.commands⟩

theorem cutSettling_stays (pane : Pane σ) : Stays pane pane.cutSettling := by
  unfold cutSettling
  split
  · have announced := announce_stays
      { pane with
        settling := pane.settling.close
        state := { pane.state with flinging := false } }
      .momentumEnd .disable
    exact ⟨announced.offset, announced.movements, announced.commands⟩
  · exact .refl pane

theorem cutSettling_active (pane : Pane σ) :
    pane.cutSettling.state.active = pane.state.active := by
  unfold cutSettling
  split
  · rw [(announce_signals _ .momentumEnd .disable).state]
  · rfl

variable [ScrollPhysics σ]

theorem takeHold_stays (pane : Pane σ) : Stays pane pane.takeHold := by
  have cuts := cutSettling_stays { pane with animation := pane.animation.abort }
  unfold takeHold
  dsimp only
  generalize cutSettling { pane with animation := pane.animation.abort } = cut at cuts ⊢
  have held : Stays pane { cut with state := { cut.state with dragging := true } } :=
    ⟨cuts.offset, cuts.movements, cuts.commands⟩
  exact (held.trans (emit_stays _ .dragBegin .zero)).trans (callMeter_stays _ .enable)

theorem takeHold_active (pane : Pane σ) : pane.takeHold.state.active = pane.state.active := by
  have cut := cutSettling_active { pane with animation := pane.animation.abort }
  unfold takeHold
  dsimp only
  generalize cutSettling { pane with animation := pane.animation.abort } = free at cut ⊢
  have held := emit_signals { free with state := { free.state with dragging := true } }
    .dragBegin .zero
  rw [(held.trans (callMeter_signals _ .enable)).state]
  exact cut

theorem grab_stays {pane next : Pane σ} {accepted : Bool}
    (grabbed : pane.grab = (accepted, next)) : Stays pane next := by
  unfold grab at grabbed
  split at grabbed
  · cases grabbed
    exact pane.takeHold_stays
  · cases grabbed
    exact .refl pane

omit [ScrollPhysics σ] in
theorem letGo_stays (pane : Pane σ) (now : Millis) : Stays pane (pane.letGo now) := by
  have ended := pane.emit_stays .dragEnd pane.releaseVelocity
  unfold letGo
  dsimp only
  generalize pane.emit .dragEnd pane.releaseVelocity = after at ended ⊢
  have released : Stays pane { after with state := { after.state with dragging := false } } :=
    ⟨ended.offset, ended.movements, ended.commands⟩
  have told := released.trans (callMeter_stays _ .disable)
  split
  · exact told.trans (startSettling_stays _ .drag now)
  · exact told

omit [ScrollPhysics σ] in
theorem touch_stays {pane next : Pane σ} {touch : Touch} {accepted : Bool}
    (touched : pane.touch touch = (accepted, next)) : Stays pane next := by
  rcases touch_eq_observed_or_letGo touched with ⟨_, speedometer, rfl⟩ | ⟨_, _, speedometer, rfl⟩
  · exact ⟨rfl, rfl, rfl⟩
  · have observed : Stays pane { pane with speedometer := speedometer } := ⟨rfl, rfl, rfl⟩
    exact observed.trans (letGo_stays _ touch.time)

/-! ## Arriving -/

omit [ScrollPhysics σ]

/-- A position has been reported: it repeats the one seen last, or the content is now there. -/
inductive Arrives (pane : Pane σ) (target : Offset) (now : Millis) : Pane σ → Prop where
  | repeats : pane.movements.last.map Sighting.offset = some target → Arrives pane target now pane
  | moves {next : Pane σ} :
      next.movements.last = some ⟨target, now⟩ → next.offset = target →
        next.state.active = true → next.commands = pane.commands → Arrives pane target now next

theorem reportPosition_arrives {pane next : Pane σ} {position : Offset} {now : Millis}
    {event : Option PaneEvent} (reported : pane.reportPosition position now = .ok (event, next)) :
    Arrives pane position now next := by
  obtain ⟨⟨movement, movements⟩, filtered, taken⟩ := Outcome.bind_eq_ok_iff.mp reported
  by_cases seen : pane.movements.last.map Sighting.offset = some position
  · rw [MovementFilter.report_of_last_eq seen] at filtered
    cases filtered
    cases taken
    exact .repeats seen
  · obtain ⟨rfl, last⟩ := MovementFilter.report_of_last_ne seen filtered
    obtain ⟨⟨sent, moved⟩, arrived, same⟩ := Outcome.bind_eq_ok_iff.mp taken
    cases same
    obtain ⟨viewed, refreshed, same⟩ := Outcome.bind_eq_ok_iff.mp arrived
    cases same
    obtain ⟨culling, rfl⟩ := refreshCulling_eq_ok refreshed
    exact .moves last rfl rfl rfl

namespace Arrives

variable {pane next : Pane σ} {target : Offset} {now : Millis}

/-- Once something has been seen, the offset is the one seen last. -/
theorem located (arrives : Arrives pane target now next) (located : Located pane) :
    Located next := by
  cases arrives with
  | repeats => exact located
  | moves last there => rw [Located, sightedOffset, last, there]; rfl

/-- The content is at the position that was reported. -/
theorem offset_eq (arrives : Arrives pane target now next) (located : Located pane) :
    next.offset = target := by
  cases arrives with
  | repeats seen => rw [located, sightedOffset, seen]; rfl
  | moves _ there => exact there

theorem commands_eq (arrives : Arrives pane target now next) : next.commands = pane.commands := by
  cases arrives with
  | repeats => rfl
  | moves _ _ _ same => exact same

end Arrives

theorem jumpTo_arrives {pane next : Pane σ} {y : Px} {now : Millis}
    (jumped : pane.jumpTo y now = .ok next) :
    Arrives (pane.push (.jump ⟨pane.offset.x, y⟩)) ⟨pane.offset.x, y⟩ now next := by
  obtain ⟨⟨event, moved⟩, reported, same⟩ := Outcome.bind_eq_ok_iff.mp jumped
  cases same
  exact reportPosition_arrives reported

/-- Content that is brought back into its extent jumps, and counts as still. -/
theorem returnToExtent_eq_ok {pane next : Pane σ} {now : Millis}
    (returned : pane.returnToExtent now = .ok next) :
    next = pane ∨ ∃ y moved, pane.jumpTo y now = .ok moved ∧
      next = { moved with state := { moved.state with active := false } } := by
  unfold returnToExtent at returned
  split at returned
  · obtain ⟨target, _, placed⟩ := Outcome.bind_eq_ok_iff.mp returned
    split at placed
    · cases placed
      exact .inl rfl
    · obtain ⟨moved, jumped, same⟩ := Outcome.bind_eq_ok_iff.mp placed
      cases same
      exact .inr ⟨target, moved, jumped, rfl⟩
  · cases returned
    exact .inl rfl

/-! ## Layout -/

/-- The content stays, or it jumps once. -/
inductive Shifts (pane : Pane σ) (now : Millis) : Pane σ → Prop where
  | stays {next : Pane σ} :
      Stays pane next → next.state.active = pane.state.active → Shifts pane now next
  | jumps {placed next : Pane σ} {y : Px} :
      Stays pane placed → placed.state.active = pane.state.active →
        placed.jumpTo y now = .ok next → Shifts pane now next

/-- What leaves the content alone may come before. -/
theorem Shifts.after {pane placed next : Pane σ} {now : Millis} (shifts : Shifts placed now next)
    (stays : Stays pane placed) (active : placed.state.active = pane.state.active) :
    Shifts pane now next := by
  cases shifts with
  | stays later same => exact .stays (stays.trans later) (same.trans active)
  | jumps later same jumped => exact .jumps (stays.trans later) (same.trans active) jumped

theorem refreshCulling_stays {pane next : Pane σ} (refreshed : pane.refreshCulling = .ok next) :
    Stays pane next ∧ next.state.active = pane.state.active := by
  obtain ⟨culling, rfl⟩ := refreshCulling_eq_ok refreshed
  exact ⟨⟨rfl, rfl, rfl⟩, rfl⟩

theorem configure_stays {pane next : Pane σ} {settings : Settings}
    (configured : pane.configure settings = .ok next) :
    Stays pane next ∧ next.state.active = pane.state.active := by
  obtain ⟨culling, rfl⟩ := configure_eq_ok configured
  exact ⟨⟨rfl, rfl, rfl⟩, rfl⟩

theorem fitExtent_shifts {pane next : Pane σ} {now : Millis}
    (fitted : pane.fitExtent now = .ok next) : Shifts pane now next := by
  obtain ⟨extent, _, placed⟩ := Outcome.bind_eq_ok_iff.mp fitted
  have measured : Stays pane { pane with extent := extent } := ⟨rfl, rfl, rfl⟩
  split at placed
  · split at placed
    · cases placed
      exact .stays measured rfl
    · exact .jumps measured rfl placed
  · cases placed
    exact .stays measured rfl

theorem layOut_shifts {pane next : Pane σ} {viewport : Viewport} {now : Millis}
    (laid : pane.layOut viewport now = .ok next) : Shifts pane now next := by
  obtain ⟨culling, fitted⟩ := layOut_eq_ok laid
  have placed : Stays pane { pane with viewport := viewport, culling := culling } := ⟨rfl, rfl, rfl⟩
  exact (fitExtent_shifts fitted).after placed rfl

theorem setContent_shifts {pane next : Pane σ} {content : ContentSize} {now : Millis}
    (set : pane.setContent content now = .ok next) : Shifts pane now next := by
  have placed : Stays pane { pane with content := some content } := ⟨rfl, rfl, rfl⟩
  exact (fitExtent_shifts set).after placed rfl

theorem resizeContent_shifts {pane next : Pane σ} {content : ContentSize} {now : Millis}
    (resized : pane.resizeContent content now = .ok next) : Shifts pane now next := by
  rcases resizeContent_eq_ok resized with set | ⟨_, rfl⟩
  · exact setContent_shifts set
  · exact .stays (.refl _) rfl

/-! ## Motions -/

variable [ScrollPhysics σ]

/-- The content stays, and a motion is asked of the host only where there is no physics. -/
structure Defers (pane next : Pane σ) : Prop where
  state : next.state = pane.state
  movements : next.movements = pane.movements
  settling : next.settling = pane.settling
  asks : next.commands = pane.commands ∨ pane.animation.hasPhysics = false ∧
    ∃ command, command.startsMotion = true ∧ next.commands = pane.commands ++ [command]

omit [ScrollPhysics σ] in
theorem follow_defers (pane : Pane σ) (started : Option UInt64 × Animation σ) (now : Millis) :
    Defers pane (pane.follow started now) := by
  unfold follow
  dsimp only
  split <;> exact ⟨rfl, rfl, rfl, .inl rfl⟩

theorem startGlide_defers (pane : Pane σ) (y : Px) (now : Millis) :
    Defers pane (pane.startGlide y now) := by
  unfold startGlide
  split
  · exact pane.follow_defers _ now
  · next absent => exact ⟨rfl, rfl, rfl, .inr ⟨by simpa using absent, _, rfl, rfl⟩⟩

theorem glideTo_defers {pane next : Pane σ} {y : Px} {now : Millis}
    (glided : pane.glideTo y now = .ok next) : Defers pane next := by
  obtain ⟨target, _, same⟩ := Outcome.bind_eq_ok_iff.mp glided
  cases same
  split
  · exact ⟨rfl, rfl, rfl, .inl rfl⟩
  · exact pane.startGlide_defers target now

theorem glideToPage_defers {pane next : Pane σ} {velocity : Px} {now : Millis}
    (glided : pane.glideToPage velocity now = .ok next) : Defers pane next := by
  obtain ⟨target, _, glides⟩ := Outcome.bind_eq_ok_iff.mp glided
  exact glideTo_defers glides

omit [ScrollPhysics σ] in
theorem settleFling_cases (pane : Pane σ) (now : Millis) :
    pane.settleFling now = pane ∨ pane.settleFling now = pane.flung.startSettling .fling now := by
  unfold settleFling
  split
  · exact .inr rfl
  · exact .inl rfl

/-- A fling starts a motion, or asks the host for one, and then may open a settle sequence. -/
theorem fling_defers {pane next : Pane σ} {velocity : Px} {now : Millis}
    (flung : pane.fling velocity now = .ok next) :
    ∃ asked, Defers pane asked ∧
      (next = asked ∨ next = asked.flung.startSettling .fling now) := by
  rcases fling_eq_ok flung with ⟨_, flings⟩ | rfl
  · cases flings with
    | page glided =>
        have defers := glideTo_defers glided
        exact ⟨next, ⟨defers.state, defers.movements, defers.settling, defers.asks⟩, .inl rfl⟩
    | free _ begun => exact ⟨_, pane.follow_defers _ now, settleFling_cases _ now⟩
    | @host speed absent =>
        have asked : Defers pane (pane.push (.fling speed)) :=
          ⟨rfl, rfl, rfl, .inr ⟨absent, _, rfl, rfl⟩⟩
        exact ⟨_, asked, settleFling_cases _ now⟩
  · exact ⟨next, ⟨rfl, rfl, rfl, .inl rfl⟩, .inl rfl⟩

/-! ## Operations -/

/--
What an operation does to the watch for movement.  It leaves the watch alone,
it sees the content arrive somewhere, or it starts the watch anew with a settle
sequence.
-/
inductive Tracks (time? : Option Millis) (pane next : Pane σ) : Prop where
  | stays : next.movements = pane.movements → next.state.active = pane.state.active →
      Tracks time? pane next
  | moves {now : Millis} {offset : Offset} : time? = some now →
      next.movements.last = some ⟨offset, now⟩ → next.state.active = true → Tracks time? pane next
  | opens : next.movements = pane.movements → pane.isSettling = false → next.isSettling = true →
      Tracks time? pane next

omit [ScrollPhysics σ] in
theorem Arrives.tracks {pane next : Pane σ} {target : Offset} {now : Millis}
    (arrives : Arrives pane target now next) : Tracks (some now) pane next := by
  cases arrives with
  | repeats => exact .stays rfl rfl
  | moves last _ active _ => exact .moves rfl last active

omit [ScrollPhysics σ] in
theorem Shifts.tracks {pane next : Pane σ} {now : Millis} (shifts : Shifts pane now next) :
    Tracks (some now) pane next := by
  cases shifts with
  | stays stays active => exact .stays stays.movements active
  | jumps stays active jumped =>
      cases jumpTo_arrives jumped with
      | repeats => exact .stays stays.movements active
      | moves last _ moved _ => exact .moves rfl last moved

omit [ScrollPhysics σ] in
theorem startSettling_tracks (pane : Pane σ) (cause : SettleCause) (now : Millis)
    (time? : Option Millis) : Tracks time? pane (pane.startSettling cause now) := by
  have stays := pane.startSettling_stays cause now
  have settles := pane.startSettling_settles cause now
  generalize pane.startSettling cause now = next at stays settles ⊢
  cases settles with
  | joins => exact .stays rfl rfl
  | opens closed opens => exact .opens stays.movements closed opens.isSettling

omit [ScrollPhysics σ] in
/-- What leaves the watch alone may come before. -/
theorem Tracks.after {time? : Option Millis} {pane placed next : Pane σ}
    (tracks : Tracks time? placed next) (movements : placed.movements = pane.movements)
    (active : placed.state.active = pane.state.active)
    (settling : placed.settling = pane.settling) : Tracks time? pane next := by
  cases tracks with
  | stays same still => exact .stays (same.trans movements) (still.trans active)
  | moves timed last moved => exact .moves timed last moved
  | opens same closed isOpen =>
      refine .opens (same.trans movements) ?_ isOpen
      rw [isSettling, ← settling]
      exact closed

omit [ScrollPhysics σ] in
theorem letGo_tracks (pane : Pane σ) (now : Millis) (time? : Option Millis) :
    Tracks time? pane (pane.letGo now) := by
  have ended := pane.emit_signals .dragEnd pane.releaseVelocity
  have stays := pane.emit_stays .dragEnd pane.releaseVelocity
  unfold letGo
  dsimp only
  generalize pane.emit .dragEnd pane.releaseVelocity = after at ended stays ⊢
  have told := callMeter_signals
    { after with state := { after.state with dragging := false } } .disable
  have toldStays := callMeter_stays
    { after with state := { after.state with dragging := false } } .disable
  generalize callMeter _ .disable = released at told toldStays ⊢
  have movements : released.movements = pane.movements :=
    toldStays.movements.trans stays.movements
  have active : released.state.active = pane.state.active := by
    rw [told.state, ← ended.state]
  split
  · have settling : released.settling = pane.settling := told.settling.trans ended.settling
    exact (startSettling_tracks released .drag now time?).after movements active settling
  · exact .stays movements active

omit [ScrollPhysics σ] in
theorem touch_tracks {pane next : Pane σ} {touch : Touch} {accepted : Bool}
    (touched : pane.touch touch = (accepted, next)) (time? : Option Millis) :
    Tracks time? pane next := by
  rcases touch_eq_observed_or_letGo touched with ⟨_, speedometer, rfl⟩ | ⟨_, _, speedometer, rfl⟩
  · exact .stays rfl rfl
  · have released := letGo_tracks { pane with speedometer := speedometer } touch.time time?
    exact released.after rfl rfl rfl

theorem fling_tracks {pane next : Pane σ} {velocity : Px} {now : Millis}
    (flung : pane.fling velocity now = .ok next) (time? : Option Millis) :
    Tracks time? pane next := by
  obtain ⟨asked, defers, same⟩ := fling_defers flung
  have active := congrArg PaneState.active defers.state
  rcases same with rfl | rfl
  · exact .stays defers.movements active
  · have settled := startSettling_tracks asked.flung .fling now time?
    exact settled.after defers.movements active defers.settling

theorem grab_tracks {pane next : Pane σ} {accepted : Bool}
    (grabbed : pane.grab = (accepted, next)) (time? : Option Millis) : Tracks time? pane next := by
  have stays := grab_stays grabbed
  unfold grab at grabbed
  split at grabbed
  · cases grabbed
    exact .stays stays.movements pane.takeHold_active
  · cases grabbed
    exact .stays rfl rfl

/-- Between frames, the watch for movement is kept in these ways alone. -/
theorem perform_tracks {pane next : Pane σ} {operation : Operation} {reply : Reply}
    (performed : pane.perform operation = .ok (reply, next))
    (between : ∀ now, operation ≠ .frame now) : Tracks operation.time? pane next := by
  cases perform_performs performed with
  | configure configured =>
      obtain ⟨stays, active⟩ := configure_stays configured
      exact .stays stays.movements active
  | layOut laid => exact (layOut_shifts laid).tracks
  | setContent set => exact (setContent_shifts set).tracks
  | resizeContent resized => exact (resizeContent_shifts resized).tracks
  | enterWindow entered =>
      obtain ⟨culling, rfl⟩ := refreshCulling_eq_ok entered
      exact .stays rfl rfl
  | refreshCulling refreshed =>
      obtain ⟨stays, active⟩ := refreshCulling_stays refreshed
      exact .stays stays.movements active
  | reportPosition reported => exact (reportPosition_arrives reported).tracks
  | grab grabbed => exact grab_tracks grabbed none
  | touch touched => exact touch_tracks touched _
  | fling flung => exact fling_tracks flung _
  | @frame now _ _ => exact absurd rfl (between now)
  | _ => exact .stays rfl rfl

theorem perform_frames_or_tracks {pane next : Pane σ} {operation : Operation} {reply : Reply}
    (performed : pane.perform operation = .ok (reply, next)) :
    (∃ now, operation = .frame now ∧ pane.frame now = .ok next) ∨
      (∀ now, operation ≠ .frame now) ∧ Tracks operation.time? pane next := by
  by_cases between : ∀ now, operation ≠ .frame now
  · exact .inr ⟨between, perform_tracks performed between⟩
  · left
    simp only [ne_eq, Classical.not_forall, Classical.not_not] at between
    obtain ⟨now, rfl⟩ := between
    obtain ⟨_, framed, same⟩ := Outcome.map_eq_ok_iff.mp performed
    cases same
    exact ⟨now, rfl, framed⟩

end Pane

end KineticScroll
