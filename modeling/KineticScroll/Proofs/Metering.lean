import KineticScroll.Proofs.Course
import KineticScroll.Proofs.LawfulPhysics
import KineticScroll.Proofs.Whereabouts

/-!
# The performance meter

A pane with a meter switches it on where a drag or a settle sequence begins and
off where one ends, often both in one operation.  As long as the tag stays and
nothing is flung in the midst of a drag, the last call tells whether a drag or a
settle sequence is under way, and the two are never under way together.
-/

namespace KineticScroll

/-- The calls are all made under one tag, and the last of them tells whether the meter is on. -/
structure MeterCall.Tell (tag : String) (calls : List MeterCall) (on : Bool) : Prop where
  tagged : ∀ call ∈ calls, call = .enable tag ∨ call = .disable tag
  last : calls.getLast? = some (.enable tag) ↔ on = true

namespace MeterCall.Tell

variable {tag : String} {calls : List MeterCall} {on : Bool}

theorem initial (tag : String) : Tell tag [] false :=
  ⟨by simp, by simp⟩

theorem enable (tells : Tell tag calls on) : Tell tag (calls ++ [.enable tag]) true := by
  refine ⟨?_, by simp⟩
  intro call among
  rcases List.mem_append.mp among with earlier | last
  · exact tells.tagged call earlier
  · exact .inl (List.mem_singleton.mp last)

theorem disable (tells : Tell tag calls on) : Tell tag (calls ++ [.disable tag]) false := by
  refine ⟨?_, by simp⟩
  intro call among
  rcases List.mem_append.mp among with earlier | last
  · exact tells.tagged call earlier
  · exact .inr (List.mem_singleton.mp last)

end MeterCall.Tell

/-- A tag that is not empty is one. -/
theorem Settings.meterTag?_of_ne_empty {settings : Settings} {tag : String}
    (tagged : settings.performanceTag = some tag) (filled : tag ≠ "") :
    settings.meterTag? = some tag := by
  simp [meterTag?, tagged, filled]

namespace Pane

variable {σ : Type}

/-! ## Calling the meter -/

/-- There is a meter and a tag to call it under, and the meter is on as its calls tell. -/
structure Metered (tag : String) (pane : Pane σ) (on : Bool) : Prop where
  tagged : pane.settings.meterTag? = some tag
  calls : ∃ calls, pane.meter = some calls ∧ MeterCall.Tell tag calls on

namespace Metered

variable {tag : String} {pane next : Pane σ} {on : Bool}

/-- What neither calls the meter nor changes the settings keeps it so. -/
theorem keep (metered : Metered tag pane on) (settings : next.settings = pane.settings)
    (meter : next.meter = pane.meter) : Metered tag next on := by
  refine ⟨?_, ?_⟩
  · rw [settings]
    exact metered.tagged
  · rw [meter]
    exact metered.calls

theorem enable (metered : Metered tag pane on) : Metered tag (pane.callMeter .enable) true := by
  obtain ⟨calls, held, tells⟩ := metered.calls
  unfold callMeter
  rw [metered.tagged]
  exact ⟨metered.tagged, calls ++ [.enable tag], by rw [held]; rfl, tells.enable⟩

theorem disable (metered : Metered tag pane on) : Metered tag (pane.callMeter .disable) false := by
  obtain ⟨calls, held, tells⟩ := metered.calls
  unfold callMeter
  rw [metered.tagged]
  exact ⟨metered.tagged, calls ++ [.disable tag], by rw [held]; rfl, tells.disable⟩

theorem emitMomentum (metered : Metered tag pane on) (kind : EventKind) :
    Metered tag (pane.emitMomentum kind) on := by
  unfold Pane.emitMomentum
  split
  · exact metered.keep rfl rfl
  · exact metered

/-- A meter that can be called is reason enough to settle. -/
theorem meterTag?_isSome (metered : Metered tag pane on) : pane.meterTag?.isSome = true := by
  obtain ⟨calls, held, _⟩ := metered.calls
  simp [meterTag?, held, metered.tagged]

/-- The meter is on once a settle sequence is open, if it was on for the one that is joined. -/
theorem startSettling (metered : Metered tag pane on) (cause : SettleCause) (now : Millis)
    (joined : pane.isSettling = true → on = true) :
    Metered tag (pane.startSettling cause now) true := by
  unfold Pane.startSettling
  dsimp only
  cases opened : pane.settling.start.1 with
  | none =>
      have settling : pane.isSettling = true := pane.settling.start_eq_none_iff.mp opened
      rw [joined settling] at metered
      exact metered
  | some sequence =>
      have begun : Metered tag { pane with
          settling := pane.settling.start.2
          state := { pane.state with active := cause.countsAsMoving } } on :=
        metered.keep rfl rfl
      exact ((begun.emitMomentum .momentumBegin).enable).keep rfl rfl

/-- The meter is off where a settle sequence has been cut, and as before where none was open. -/
theorem cutSettling (metered : Metered tag pane on) :
    Metered tag pane.cutSettling (!pane.isSettling && on) := by
  unfold Pane.cutSettling
  cases settling : pane.isSettling with
  | true =>
      have cut : Metered tag { pane with
          settling := pane.settling.close
          state := { pane.state with flinging := false } } on :=
        metered.keep rfl rfl
      exact (cut.emitMomentum .momentumEnd).disable
  | false => exact metered

end Metered

/-! ## Operations -/

/-- The meter is on just while a drag or a settle sequence is under way, and never for both. -/
structure Watched (tag : String) (pane : Pane σ) : Prop where
  metered : Metered tag pane (pane.state.dragging || pane.isSettling)
  apart : pane.isSettling = true → pane.state.dragging = false

namespace Watched

variable {tag : String} {pane next : Pane σ}

theorem keep (watched : Watched tag pane) (settings : next.settings = pane.settings)
    (meter : next.meter = pane.meter) (dragging : next.state.dragging = pane.state.dragging)
    (settling : next.isSettling = pane.isSettling) : Watched tag next := by
  refine ⟨?_, ?_⟩
  · rw [dragging, settling]
    exact watched.metered.keep settings meter
  · rw [dragging, settling]
    exact watched.apart

theorem carry (watched : Watched tag pane) (carries : Carries pane next) : Watched tag next :=
  watched.keep carries.settings carries.meter carries.dragging
    (by rw [isSettling, carries.settling, isSettling])

/-- Settings that keep the tag keep the meter. -/
theorem configure (watched : Watched tag pane) {settings : Settings}
    (tagged : settings.meterTag? = some tag) (configured : pane.configure settings = .ok next) :
    Watched tag next := by
  have replaced : Watched tag { pane with settings := settings } :=
    ⟨⟨tagged, watched.metered.calls⟩, watched.apart⟩
  exact replaced.carry (configure_drifts configured).toCarries

/-- A settle sequence that opens where no drag is under way switches the meter on. -/
theorem startSettling {on : Bool} (metered : Metered tag pane on) (cause : SettleCause)
    (now : Millis) (joined : pane.isSettling = true → on = true)
    (free : pane.state.dragging = false) : Watched tag (pane.startSettling cause now) := by
  have started := metered.startSettling cause now joined
  have settles := pane.startSettling_settles cause now
  generalize pane.startSettling cause now = next at started settles ⊢
  have settling : next.isSettling = true ∧ next.state.dragging = false := by
    cases settles with
    | joins settling => exact ⟨settling, free⟩
    | opens _ opens => exact ⟨opens.isSettling, by rw [opens.state]; exact free⟩
  refine ⟨?_, fun _ => settling.2⟩
  rw [settling.1, settling.2]
  exact started

variable [ScrollPhysics σ]

theorem grab (watched : Watched tag pane) {accepted : Bool}
    (grabbed : pane.grab = (accepted, next)) : Watched tag next := by
  unfold Pane.grab at grabbed
  split at grabbed
  · cases grabbed
    have grabs := pane.takeHold_grabs
    have stopped : Metered tag { pane with animation := pane.animation.abort } _ :=
      watched.metered.keep rfl rfl
    have cut := stopped.cutSettling
    have held : Metered tag pane.takeHold true := by
      unfold takeHold
      dsimp only
      exact Metered.enable (cut.keep rfl rfl)
    refine ⟨?_, ?_⟩
    · rw [grabs.dragging]
      exact held
    · intro settling
      rw [grabs.isSettling] at settling
      cases settling
  · cases grabbed
    exact watched

omit [ScrollPhysics σ] in
/-- The meter is switched off for the drag, and at once on again for the settling after it. -/
theorem letGo (watched : Watched tag pane) (dragging : pane.state.dragging = true)
    (now : Millis) : Watched tag (pane.letGo now) := by
  have closed : pane.isSettling = false := by
    cases settling : pane.isSettling with
    | false => rfl
    | true =>
        rw [watched.apart settling] at dragging
        cases dragging
  unfold Pane.letGo
  dsimp only
  have released : Metered tag { pane.emit .dragEnd pane.releaseVelocity with
      state := { (pane.emit .dragEnd pane.releaseVelocity).state with dragging := false } } _ :=
    watched.metered.keep rfl rfl
  have told := callMeter_signals { pane.emit .dragEnd pane.releaseVelocity with
      state := { (pane.emit .dragEnd pane.releaseVelocity).state with dragging := false } }
    .disable
  have off := released.disable
  generalize callMeter _ .disable = dropped at told off ⊢
  have worth : dropped.settlesAfterDrag = true := by
    simp [settlesAfterDrag, off.meterTag?_isSome]
  have stillClosed : dropped.isSettling = false := by
    rw [isSettling, told.settling]
    exact closed
  rw [if_pos worth]
  refine startSettling off .drag now ?_ (by rw [told.state])
  intro settling
  rw [stillClosed] at settling
  cases settling

omit [ScrollPhysics σ] in
theorem touch (watched : Watched tag pane) {finger : Touch} {accepted : Bool}
    (touched : pane.touch finger = (accepted, next)) : Watched tag next := by
  rcases touch_eq_observed_or_letGo touched with
    ⟨_, speedometer, rfl⟩ | ⟨_, ends, speedometer, rfl⟩
  · exact watched.keep rfl rfl rfl rfl
  · have observed : Watched tag { pane with speedometer := speedometer } :=
      watched.keep rfl rfl rfl rfl
    exact observed.letGo (Bool.and_eq_true_iff.mp ends).2 finger.time

omit [ScrollPhysics σ] in
/-- A fling settles wherever there is a meter, in a sequence of its own or the one that is open. -/
theorem settleFling (watched : Watched tag pane) (free : pane.state.dragging = false)
    (now : Millis) : Watched tag (pane.settleFling now) := by
  have worth : pane.settlesAfterFling = true := by
    simp [settlesAfterFling, watched.metered.meterTag?_isSome]
  unfold Pane.settleFling
  rw [if_pos worth]
  have flung : Metered tag pane.flung _ := watched.metered.keep rfl rfl
  refine startSettling flung .fling now ?_ free
  intro settling
  rw [free, Bool.false_or]
  exact settling

theorem fling (watched : Watched tag pane) (free : pane.state.dragging = false) {velocity : Px}
    {now : Millis} (flung : pane.fling velocity now = .ok next) : Watched tag next := by
  rcases fling_eq_ok flung with ⟨_, flings⟩ | rfl
  · cases flings with
    | page glided =>
        have sent : Watched tag (pane.emit .scroll pane.movements.velocity) :=
          watched.keep rfl rfl rfl rfl
        exact sent.carry (glideTo_steers glided).carries
    | free present begun =>
        have starts := follow_startFling_starts present begun
        have free : (pane.follow _ now).state.dragging = false :=
          starts.carries.dragging.trans free
        exact (watched.carry starts.carries).settleFling free now
    | @host speed absent =>
        have asked : Watched tag (pane.push (.fling speed)) := watched.keep rfl rfl rfl rfl
        exact asked.settleFling free now
  · exact watched

theorem answer (watched : Watched tag pane) {wakeup : Wakeup} {now : Millis}
    (answer : Answer now pane wakeup next) : Watched tag next := by
  cases answer with
  | staleStep => exact watched
  | noPhysics => exact watched
  | spent => exact watched.keep rfl rfl rfl rfl
  | shown held advanced lands jumped => exact watched.carry (jumpTo_shows jumped).toCarries
  | stalePoll => exact watched
  | moving current =>
      refine watched.keep rfl rfl rfl ?_
      simp [isSettling, Settling.isOpen, schedulePoll, setAlarm, polled, current]
  | snap current quiet paging unsnapped glided =>
      have steered := (glideToPage_steers glided).carries
      refine watched.keep steered.settings steered.meter steered.dragging ?_
      rw [isSettling, schedulePoll, setAlarm, steered.settling]
      simp [isSettling, Settling.isOpen, polled, current]
  | @settled sequence returned current quiet unpaged placed =>
      have settling : pane.isSettling = true := by simp [isSettling, Settling.isOpen, current]
      have moves := returnToExtent_moves placed
      have ends := returnToExtent_ends placed
      have reached : Metered tag returned _ := watched.metered.keep moves.settings moves.meter
      have off := (reached.emitMomentum .momentumEnd).disable
      refine ⟨?_, fun _ => by rw [ends.dragging, watched.apart settling]⟩
      rw [ends.isSettling, ends.dragging, watched.apart settling]
      exact off

theorem frame (watched : Watched tag pane) {now : Millis} (framed : pane.frame now = .ok next) :
    Watched tag next :=
  frame_keeps (Watched tag) framed (watched.keep rfl rfl rfl rfl) fun answer kept =>
    kept.answer answer

theorem perform (watched : Watched tag pane) {operation : Operation} {reply : Reply}
    (tagged : next.settings.meterTag? = some tag)
    (mannered : operation.isFling = true → pane.state.dragging = false)
    (performed : pane.perform operation = .ok (reply, next)) : Watched tag next := by
  cases perform_performs performed with
  | configure configured =>
      rw [(configure_drifts configured).settings] at tagged
      exact watched.configure tagged configured
  | layOut laid => exact watched.carry (layOut_drifts laid).toCarries
  | setContent set => exact watched.carry (setContent_drifts set).toCarries
  | resizeContent resized => exact watched.carry (resizeContent_drifts resized).toCarries
  | enterWindow entered => exact watched.carry (enterWindow_drifts entered).toCarries
  | refreshCulling refreshed => exact watched.carry (refreshCulling_moves refreshed).toCarries
  | reportPosition reported => exact watched.carry (reportPosition_moves reported).toCarries
  | grab grabbed => exact watched.grab grabbed
  | touch touched => exact watched.touch touched
  | fling flung => exact watched.fling (mannered rfl) flung
  | frame framed => exact watched.frame framed
  | _ => exact watched.keep rfl rfl rfl rfl

end Watched

/-! ## Every course -/

variable [ScrollPhysics σ]

theorem Fresh.calls_eq_nil {pane : Pane σ} (fresh : Fresh pane)
    (metered : pane.meter.isSome = true) : pane.meter = some [] := by
  induction fresh with
  | create => cases metered
  | withSpeedometer _ _ ih => exact ih metered
  | withMeter => rfl

theorem Fresh.watched {pane : Pane σ} {tag : String} (fresh : Fresh pane)
    (metered : pane.meter.isSome = true) (tagged : pane.settings.meterTag? = some tag) :
    Watched tag pane := by
  have rest := fresh.atRest
  have closed : pane.isSettling = false := by rw [isSettling, rest.settling]; rfl
  have free : pane.state.dragging = false := by rw [rest.state]; rfl
  refine ⟨⟨tagged, [], fresh.calls_eq_nil metered, ?_⟩, fun _ => free⟩
  rw [free, closed]
  exact .initial tag

theorem Course.watched {start pane : Pane σ} {turns : List (Turn σ)} {tag : String}
    (fresh : Fresh start) (course : Course start turns pane) (metered : start.meter.isSome = true)
    (tagged : start.settings.meterTag? = some tag)
    (taggedOn : ∀ turn ∈ turns, turn.after.settings.meterTag? = some tag)
    (mannered : ∀ turn ∈ turns,
      turn.operation.isFling = true → turn.before.state.dragging = false) :
    Watched tag pane := by
  induction course with
  | start => exact fresh.watched metered tagged
  | turn course performed ih =>
      have before := ih (fun turn taken => taggedOn turn (List.mem_append_left _ taken))
        (fun turn taken => mannered turn (List.mem_append_left _ taken))
      exact before.perform (taggedOn _ (List.mem_append_right _ List.mem_cons_self))
        (mannered _ (List.mem_append_right _ List.mem_cons_self)) performed

/--
Where the tag of the meter stays and nothing is flung in the midst of a drag,
the meter is called under that tag only, its last call has switched it on just
while a drag or a settle sequence is under way, and the two are never under way
together.
-/
theorem Course.metered_while_moving {start pane : Pane σ} {turns : List (Turn σ)} {tag : String}
    (fresh : Fresh start) (course : Course start turns pane) (metered : start.meter.isSome = true)
    (filled : tag ≠ "") (tagged : start.settings.performanceTag = some tag)
    (taggedOn : ∀ turn ∈ turns, turn.after.settings.performanceTag = some tag)
    (mannered : ∀ turn ∈ turns,
      turn.operation.isFling = true → turn.before.state.dragging = false) :
    (∃ calls, pane.meter = some calls ∧
      (∀ call ∈ calls, call = .enable tag ∨ call = .disable tag) ∧
      (calls.getLast? = some (.enable tag) ↔
        pane.state.dragging = true ∨ pane.isSettling = true)) ∧
    ¬ (pane.state.dragging = true ∧ pane.isSettling = true) := by
  have watched := course.watched fresh metered (Settings.meterTag?_of_ne_empty tagged filled)
    (fun turn taken => Settings.meterTag?_of_ne_empty (taggedOn turn taken) filled) mannered
  obtain ⟨calls, held, tells⟩ := watched.metered.calls
  refine ⟨⟨calls, held, tells.tagged, ?_⟩, ?_⟩
  · rw [tells.last, Bool.or_eq_true]
  · rintro ⟨dragging, settling⟩
    rw [watched.apart settling] at dragging
    cases dragging

/-- A drag that ends in a fling and settles, a fling without a drag, and a drag that cuts it. -/
def meteredStrokes : List Operation :=
  [.layOut ⟨300, 500, 0, 0⟩ 0, .setContent ⟨300, 1000⟩ 0, .grab, .touch ⟨.up, 0, 0, 10⟩,
    .fling 40 12, .frame 30, .configure fun settings => { settings with momentumEvents := true },
    .frame 60, .frame 90, .frame 120, .fling 400 130, .grab]

theorem Course.metered_while_moving_strokes :
    ∃ (start pane : Pane Stride) (turns : List (Turn Stride)),
      Fresh start ∧ Course start turns pane ∧ start.meter.isSome = true ∧ "pane" ≠ "" ∧
      start.settings.performanceTag = some "pane" ∧
      (∀ turn ∈ turns, turn.after.settings.performanceTag = some "pane") ∧
      (∀ turn ∈ turns, turn.operation.isFling = true → turn.before.state.dragging = false) ∧
      pane.meter = some [.enable "pane", .disable "pane", .enable "pane", .disable "pane",
        .enable "pane", .disable "pane", .enable "pane"] ∧
      (∃ calls, pane.meter = some calls ∧
        (∀ call ∈ calls, call = .enable "pane" ∨ call = .disable "pane") ∧
        (calls.getLast? = some (.enable "pane") ↔
          pane.state.dragging = true ∨ pane.isSettling = true)) ∧
      ¬ (pane.state.dragging = true ∧ pane.isSettling = true) := by
  let start : Pane Stride :=
    (create { Settings.standard with performanceTag := some "pane" } .standard
      (some (.create 40))).withMeter
  have fresh : Fresh start := .withMeter (.create _ _ _)
  have called : (start.run meteredStrokes).map Pane.meter =
      .ok (some [.enable "pane", .disable "pane", .enable "pane", .disable "pane",
        .enable "pane", .disable "pane", .enable "pane"]) := by decide +kernel
  have tagged : ∀ turn ∈ start.history meteredStrokes,
      turn.after.settings.performanceTag = some "pane" := by decide +kernel
  have mannered : ∀ turn ∈ start.history meteredStrokes,
      turn.operation.isFling = true → turn.before.state.dragging = false := by decide +kernel
  obtain ⟨pane, ran, meter⟩ := Outcome.map_eq_ok_iff.mp called
  have course := course_history ran
  obtain ⟨calls, apart⟩ :=
    Course.metered_while_moving fresh course rfl (by decide) rfl tagged mannered
  exact ⟨start, pane, _, fresh, course, rfl, by decide, rfl, tagged, mannered, meter, calls, apart⟩

end Pane

end KineticScroll
