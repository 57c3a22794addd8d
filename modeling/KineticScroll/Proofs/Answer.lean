import KineticScroll.Proofs.Change

/-!
# What answering an alarm can change

A frame answers one alarm after the other.  A step advances the physics, shows
the position it has come to and is set again while the physics still moves; a
poll waits, snaps or settles.  Alarms of a motion or a sequence that is over
change nothing.
-/

namespace KineticScroll

namespace Pane

variable {σ : Type} [ScrollPhysics σ]

/-! ## Steps -/

/--
Where physics that has been advanced puts the content, and the physics that is
left, given the extent and whether there is content.
-/
inductive Lands (extent : Extent) (attached : Bool) (advanced : σ) : Px → σ → Prop where
  /-- A motion still underway is stopped at the end. -/
  | stopped :
      Animation.isUnderway advanced = true → extent.limit ≤ ScrollPhysics.position advanced →
        Lands extent attached advanced extent.limit (ScrollPhysics.halt advanced)
  /-- A motion that is over comes to rest within the extent. -/
  | rests {y : Px} :
      ScrollPhysics.isIdle advanced = true → attached = true →
        extent.clamp (ScrollPhysics.position advanced) = .ok y →
          Lands extent attached advanced y advanced
  | follows :
      (ScrollPhysics.isIdle advanced && attached) = false →
        ¬ (Animation.isUnderway advanced = true ∧
            extent.limit ≤ ScrollPhysics.position advanced) →
          Lands extent attached advanced (ScrollPhysics.position advanced) advanced

theorem isIdle_of_isUnderway {physics : σ} (underway : Animation.isUnderway physics = true) :
    ScrollPhysics.isIdle physics = false := by
  simpa using (Bool.and_eq_true_iff.mp underway).1

theorem landing_lands {pane : Pane σ} {advanced : σ} {y : Px} {animation : Animation σ}
    (present : pane.animation.physics = .ok advanced)
    (landed : pane.landing ⟨ScrollPhysics.position advanced, ScrollPhysics.isIdle advanced⟩ =
      .ok (y, animation)) :
    ∃ left, animation = ⟨.ok left, pane.animation.generation⟩ ∧
      Lands pane.extent pane.content.isSome advanced y left := by
  unfold landing Animation.stopAtEnd at landed
  simp only [present] at landed
  by_cases reached : Animation.isUnderway advanced = true ∧
      pane.extent.limit ≤ ScrollPhysics.position advanced
  · simp only [reached.1, reached.2, decide_true, Bool.and_self, if_true,
      isIdle_of_isUnderway reached.1, Bool.false_and, Bool.false_eq_true, if_false] at landed
    cases landed
    exact ⟨_, rfl, .stopped reached.1 reached.2⟩
  · have short : (Animation.isUnderway advanced &&
        decide (pane.extent.limit ≤ ScrollPhysics.position advanced)) = false := by
      simpa using reached
    have unchanged : pane.animation = ⟨.ok advanced, pane.animation.generation⟩ := by
      rw [← present]
    simp only [short, Bool.false_eq_true, if_false] at landed
    split at landed
    · next ended =>
        obtain ⟨idle, attached⟩ := Bool.and_eq_true_iff.mp ended
        obtain ⟨clamped, within, same⟩ := Outcome.bind_eq_ok_iff.mp landed
        cases same
        exact ⟨advanced, unchanged, .rests idle attached within⟩
    · next unfinished =>
        cases landed
        exact ⟨advanced, unchanged, .follows (by simpa using unfinished) reached⟩

/-- Physics that is left running had not finished, and the other way round. -/
theorem Lands.isIdle_or {extent : Extent} {attached : Bool} {advanced left : σ} {y : Px}
    (lands : Lands extent attached advanced y left) :
    (ScrollPhysics.isIdle advanced || ScrollPhysics.isIdle left) = ScrollPhysics.isIdle left := by
  cases lands with
  | stopped underway past => rw [isIdle_of_isUnderway underway, Bool.false_or]
  | rests idle attached within => exact Bool.or_self _
  | follows unfinished short => exact Bool.or_self _

/-- A step has shown a position, and is set again while the physics that is left runs. -/
structure Shows (pane : Pane σ) (left : σ) (now : Millis) (next : Pane σ) : Prop
    extends Carries pane next where
  animation : next.animation = ⟨.ok left, pane.animation.generation⟩
  alarms : next.alarms = if ScrollPhysics.isIdle left then pane.alarms
    else pane.alarms.set (.step pane.animation.generation) now 0
  content : next.content = pane.content
  extent : next.extent = pane.extent

theorem jumpTo_shows {pane carried : Pane σ} {left : σ} {y : Px} {now : Millis}
    (jumped : jumpTo { pane with animation := ⟨.ok left, pane.animation.generation⟩ } y now =
      .ok carried) :
    Shows pane left now (if ScrollPhysics.isIdle left then carried
      else carried.scheduleStep pane.animation.generation now) := by
  have moves := jumpTo_moves jumped
  have carries : Carries pane carried :=
    ⟨moves.settings, moves.settling, moves.meter, moves.dragging, moves.flinging, moves.scrolls⟩
  split
  · next idle =>
      exact ⟨carries, moves.animation, by rw [if_pos idle, moves.alarms], moves.content,
        moves.extent⟩
  · next running =>
      refine ⟨⟨carries.settings, carries.settling, carries.meter, carries.dragging,
        carries.flinging, carries.scrolls⟩, moves.animation, ?_, moves.content, moves.extent⟩
      rw [if_neg running, scheduleStep, setAlarm, moves.alarms]

/-! ## Polls -/

omit [ScrollPhysics σ] in
theorem returnToExtent_moves {pane next : Pane σ} {now : Millis}
    (returned : pane.returnToExtent now = .ok next) : Moves pane next := by
  unfold returnToExtent at returned
  split at returned
  · obtain ⟨target, _, placed⟩ := Outcome.bind_eq_ok_iff.mp returned
    split at placed
    · cases placed
      exact .refl pane
    · obtain ⟨moved, jumped, same⟩ := Outcome.bind_eq_ok_iff.mp placed
      cases same
      refine (jumpTo_moves jumped).trans ?_
      exact ⟨.of_still rfl rfl rfl rfl rfl rfl rfl rfl, rfl, rfl, rfl⟩
  · cases returned
    exact .refl pane

/-- A pane whose settle sequence has been polled: movement is looked for anew. -/
def polled (pane : Pane σ) (sequence : SettleSequence) : Pane σ :=
  { pane with
    settling := { pane.settling with current := some sequence }
    state := { pane.state with active := false } }

/-- A pane whose settle sequence is over. -/
def concluded (pane : Pane σ) : Pane σ :=
  { pane with
    settling := pane.settling.close
    state := { pane.state with flinging := false, active := false } }

/-- A settle sequence has ended, and the content lies within its extent. -/
structure Ends (pane next : Pane σ) : Prop where
  settings : next.settings = pane.settings
  animation : next.animation = pane.animation
  alarms : next.alarms = pane.alarms
  settling : next.settling = pane.settling.close
  content : next.content = pane.content
  extent : next.extent = pane.extent
  dragging : next.state.dragging = pane.state.dragging
  flinging : next.state.flinging = false
  sent : ∃ count, next.kinds =
    pane.kinds ++ List.replicate count .scroll ++ pane.momentumKinds .momentumEnd

omit [ScrollPhysics σ] in
theorem returnToExtent_ends {pane returned : Pane σ} {now : Millis}
    (placed : pane.concluded.returnToExtent now = .ok returned) :
    Ends pane ((returned.emitMomentum .momentumEnd).callMeter .disable) := by
  have moves := returnToExtent_moves placed
  have signals := announce_signals returned .momentumEnd .disable
  obtain ⟨count, scrolled⟩ := moves.toCarries.kinds
  refine ⟨signals.settings.trans moves.settings, signals.animation.trans moves.animation,
    signals.alarms.trans moves.alarms, signals.settling.trans moves.settling,
    signals.content.trans moves.content, signals.extent.trans moves.extent, ?_, ?_, count, ?_⟩
  · rw [signals.state, moves.dragging]
    rfl
  · rw [signals.state, moves.flinging]
    rfl
  · rw [signals.sent, scrolled, momentumKinds, moves.settings]
    rfl

omit [ScrollPhysics σ] in
theorem Ends.isSettling {pane next : Pane σ} (ends : Ends pane next) : next.isSettling = false := by
  rw [Pane.isSettling, ends.settling, Settling.close_isOpen]

/-! ## All alarms -/

/-- The ways in which answering an alarm can change a pane. -/
inductive Answer (now : Millis) (pane : Pane σ) : Wakeup → Pane σ → Prop where
  | staleStep {generation : UInt64} :
      generation ≠ pane.animation.generation → Answer now pane (.step generation) pane
  | noPhysics {generation : UInt64} :
      pane.animation.hasPhysics = false → Answer now pane (.step generation) pane
  /-- The motion had finished before. -/
  | spent {physics advanced : σ} :
      pane.animation.physics = .ok physics →
        ScrollPhysics.advance physics now = (false, advanced) →
          Answer now pane (.step pane.animation.generation)
            { pane with animation := ⟨.ok advanced, pane.animation.generation⟩ }
  | shown {physics advanced left : σ} {y : Px} {carried : Pane σ} :
      pane.animation.physics = .ok physics →
        ScrollPhysics.advance physics now = (true, advanced) →
        Lands pane.extent pane.content.isSome advanced y left →
        jumpTo { pane with animation := ⟨.ok left, pane.animation.generation⟩ } y now =
          .ok carried →
          Answer now pane (.step pane.animation.generation)
            (if ScrollPhysics.isIdle left then carried
              else carried.scheduleStep pane.animation.generation now)
  | stalePoll {number : UInt64} :
      pane.settling.current.map SettleSequence.number ≠ some number →
        Answer now pane (.poll number) pane
  | moving {sequence : SettleSequence} :
      pane.settling.current = some sequence → pane.state.active = true →
        Answer now pane (.poll sequence.number)
          ((pane.polled { sequence with lastPollWasActive := true }).schedulePoll
            sequence.number now)
  | snap {sequence : SettleSequence} {steered : Pane σ} :
      pane.settling.current = some sequence → pane.state.active = false →
        pane.settings.pagingEnabled = true → sequence.snapped = false →
        (pane.polled { sequence with lastPollWasActive := false, snapped := true }).glideToPage 0 now =
          .ok steered →
          Answer now pane (.poll sequence.number) (steered.schedulePoll sequence.number now)
  | settled {sequence : SettleSequence} {returned : Pane σ} :
      pane.settling.current = some sequence → pane.state.active = false →
        (pane.settings.pagingEnabled = true → sequence.snapped = true) →
        pane.concluded.returnToExtent now = .ok returned →
          Answer now pane (.poll sequence.number)
            ((returned.emitMomentum .momentumEnd).callMeter .disable)

theorem runStep_of_ne {pane : Pane σ} {generation : UInt64}
    (stale : generation ≠ pane.animation.generation) (now : Millis) :
    pane.runStep generation now = .ok pane := by
  unfold runStep
  rw [Animation.step_of_ne stale]

theorem runPoll_of_ne {pane : Pane σ} {number : UInt64}
    (stale : pane.settling.current.map SettleSequence.number ≠ some number) (now : Millis) :
    pane.runPoll number now = .ok pane := by
  unfold runPoll
  rw [Settling.poll_of_ne stale]

theorem runStep_answer {pane next : Pane σ} {generation : UInt64} {now : Millis}
    (ran : pane.runStep generation now = .ok next) : Answer now pane (.step generation) next := by
  by_cases current : generation = pane.animation.generation
  · subst current
    unfold runStep Animation.step at ran
    rw [if_pos rfl] at ran
    cases held : pane.animation.physics with
    | error gap =>
        simp only [held] at ran
        cases ran
        exact .noPhysics (by simp [Animation.hasPhysics, held])
    | ok physics =>
        simp only [held] at ran
        rcases advanced : ScrollPhysics.advance physics now with ⟨running, ahead⟩
        simp only [advanced] at ran
        cases running with
        | false =>
            cases ran
            exact .spent held advanced
        | true =>
            obtain ⟨⟨y, animation⟩, landed, rest⟩ := Outcome.bind_eq_ok_iff.mp ran
            obtain ⟨carried, jumped, same⟩ := Outcome.bind_eq_ok_iff.mp rest
            cases same
            obtain ⟨left, rfl, lands⟩ := landing_lands rfl landed
            have stillRunning : (!ScrollPhysics.isIdle ahead && carried.isRunning) =
                !ScrollPhysics.isIdle left := by
              rw [isRunning, Animation.isRunning, (jumpTo_moves jumped).animation, ← Bool.not_or,
                lands.isIdle_or]
            simp only [stillRunning]
            have answer := Answer.shown held advanced lands jumped
            cases idle : ScrollPhysics.isIdle left <;> simpa [idle] using answer
  · rw [runStep_of_ne current] at ran
    cases ran
    exact .staleStep current

theorem runPoll_answer {pane next : Pane σ} {number : UInt64} {now : Millis}
    (ran : pane.runPoll number now = .ok next) : Answer now pane (.poll number) next := by
  by_cases live : pane.settling.current.map SettleSequence.number = some number
  · obtain ⟨sequence, current, rfl⟩ := Option.map_eq_some_iff.mp live
    unfold runPoll Settling.poll at ran
    simp only [current, if_true] at ran
    cases active : pane.state.active with
    | true =>
        simp only [active, if_true] at ran
        cases ran
        exact .moving current active
    | false =>
        simp only [active, Bool.false_eq_true, if_false] at ran
        by_cases snaps : (pane.settings.pagingEnabled && !sequence.snapped) = true
        · simp only [snaps, if_true] at ran
          obtain ⟨steered, glided, rfl⟩ := Outcome.map_eq_ok_iff.mp ran
          obtain ⟨paging, unsnapped⟩ := Bool.and_eq_true_iff.mp snaps
          exact .snap current active paging (by simpa using unsnapped) glided
        · simp only [snaps, Bool.false_eq_true, if_false] at ran
          obtain ⟨returned, placed, same⟩ := Outcome.bind_eq_ok_iff.mp ran
          cases same
          refine .settled current active ?_ placed
          intro paging
          simpa [paging] using snaps
  · rw [runPoll_of_ne live] at ran
    cases ran
    exact .stalePoll live

/-- Nothing else than these changes comes of answering an alarm. -/
theorem wake_answer {pane next : Pane σ} {wakeup : Wakeup} {now : Millis}
    (woken : pane.wake now wakeup = .ok next) : Answer now pane wakeup next := by
  cases wakeup with
  | poll number => exact runPoll_answer woken
  | step generation => exact runStep_answer woken

/-- Answering an alarm leaves the settings as they are. -/
theorem Answer.settings {pane next : Pane σ} {wakeup : Wakeup} {now : Millis}
    (answer : Answer now pane wakeup next) : next.settings = pane.settings := by
  cases answer with
  | staleStep => rfl
  | noPhysics => rfl
  | spent => rfl
  | shown held advanced lands jumped => exact (jumpTo_shows jumped).settings
  | stalePoll => rfl
  | moving => rfl
  | snap current quiet paging unsnapped glided => exact (glideToPage_steers glided).carries.settings
  | settled current quiet unpaged placed => exact (returnToExtent_ends placed).settings

/-! ## Frames -/

/-- What a pane has come to in the midst of a frame, and the wake-ups still to be answered. -/
inductive Midway (pane : Pane σ) (now : Millis) : Pane σ → List Wakeup → Prop where
  | begin :
      Midway pane now { pane with alarms := (pane.alarms.ring now).2 } (pane.alarms.ring now).1
  | next {reached after : Pane σ} {wakeup : Wakeup} {rest : List Wakeup} :
      Midway pane now reached (wakeup :: rest) → reached.wake now wakeup = .ok after →
        Midway pane now after rest

theorem Midway.settings {pane reached : Pane σ} {rest : List Wakeup} {now : Millis}
    (midway : Midway pane now reached rest) : reached.settings = pane.settings := by
  induction midway with
  | begin => rfl
  | next _ woken ih => exact (wake_answer woken).settings.trans ih

theorem frame_midway {pane next : Pane σ} {now : Millis} (framed : pane.frame now = .ok next) :
    Midway pane now next [] :=
  Outcome.foldlM_keeps (Midway pane now) (fun reached woken => reached.next woken) .begin framed

/-- What is left when the alarms have rung, and kept by every answer, holds after the frame. -/
theorem frame_keeps {pane next : Pane σ} {now : Millis} (kept : Pane σ → Prop)
    (framed : pane.frame now = .ok next)
    (rung : kept { pane with alarms := (pane.alarms.ring now).2 })
    (step : ∀ {before after : Pane σ} {wakeup : Wakeup},
      Answer now before wakeup after → kept before → kept after) : kept next :=
  Outcome.foldlM_keeps (fun reached _ => kept reached)
    (fun held woken => step (wake_answer woken) held) rung framed

theorem Midway.exists_answered {pane reached : Pane σ} {rest : List Wakeup} {now : Millis}
    (midway : Midway pane now reached rest) :
    ∃ answered, (pane.alarms.ring now).1 = answered ++ rest ∧
      answered.foldlM (wake now) { pane with alarms := (pane.alarms.ring now).2 } =
        .ok reached := by
  induction midway with
  | begin => exact ⟨[], rfl, rfl⟩
  | @next _ _ wakeup rest _ woken ih =>
      obtain ⟨answered, rung, done⟩ := ih
      refine ⟨answered ++ [wakeup], ?_, ?_⟩
      · rw [rung, List.append_assoc]
        rfl
      · rw [List.foldlM_append]
        refine Outcome.bind_eq_ok_iff.mpr ⟨_, done, ?_⟩
        rw [List.foldlM_cons]
        exact Outcome.bind_eq_ok_iff.mpr ⟨_, woken, rfl⟩

/-- A frame takes one way only: answering what lies between leads from one moment to a later one. -/
theorem Midway.answers {pane earlier reached : Pane σ} {more rest : List Wakeup} {now : Millis}
    (early : Midway pane now earlier (more ++ rest)) (late : Midway pane now reached rest) :
    more.foldlM (wake now) earlier = .ok reached := by
  obtain ⟨before, rungBefore, doneBefore⟩ := early.exists_answered
  obtain ⟨answered, rung, done⟩ := late.exists_answered
  have same : answered = before ++ more := by
    rw [rungBefore, ← List.append_assoc] at rung
    exact (List.append_cancel_right rung).symm
  rw [same, List.foldlM_append, doneBefore] at done
  exact done

end Pane

end KineticScroll
