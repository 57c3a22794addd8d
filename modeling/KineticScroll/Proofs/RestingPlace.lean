import KineticScroll.Proofs.Fitting
import KineticScroll.Proofs.RestingEnd
import KineticScroll.Proofs.Unhindered

/-!
# Where the content comes to rest

A host may report any position, and physics may run past either end.  The step
that ends a motion and the poll that ends a settle sequence nevertheless leave
the content within its extent.  The poll does so by a jump, which is no repeat
of the position seen last, and only then announces the end.
-/

namespace KineticScroll

/-- A position that has been clamped is not above the start. -/
theorem Extent.le_clamp {extent : Extent} {position y : Px}
    (clamped : extent.clamp position = .ok y) : 0 ≤ y := by
  obtain ⟨span, between, same⟩ := Outcome.map_eq_ok_iff.mp clamped
  unfold Span.between at between
  split at between
  · cases between
    rw [← same]
    exact Span.lowest_le_clamp _ position
  · cases between

/-- A step that delivers a position is one of the present motion, and has advanced it. -/
theorem Animation.step_eq_some {σ : Type} [ScrollPhysics σ] {animation : Animation σ}
    {generation : UInt64} {now : Millis} {frame : Advance}
    (stepped : (animation.step generation now).1 = some frame) :
    generation = animation.generation ∧
      ∃ physics advanced, animation.physics = .ok physics ∧
        ScrollPhysics.advance physics now = (true, advanced) ∧
        frame = ⟨ScrollPhysics.position advanced, ScrollPhysics.isIdle advanced⟩ := by
  unfold step at stepped
  split at stepped
  · next current =>
      cases held : animation.physics with
      | error gap => simp [held] at stepped
      | ok physics =>
          simp only [held] at stepped
          split at stepped
          · next running =>
              have told : ScrollPhysics.advance physics now =
                  (true, (ScrollPhysics.advance physics now).2) := Prod.ext running rfl
              cases stepped
              exact ⟨current, physics, _, rfl, told, rfl⟩
          · cases stepped
  · cases stepped

namespace Pane

variable {σ : Type}

/-- The content lies within its extent. -/
structure Within (pane : Pane σ) : Prop where
  above : 0 ≤ pane.offset.y
  below : pane.offset.y ≤ pane.extent.limit

/-! ## Announcements -/

/-- What a momentum event of that kind adds to the emissions: nothing unless it is asked for. -/
def momentumEmissions (pane : Pane σ) (kind : EventKind) : List Emission :=
  if pane.settings.momentumEvents then
    [⟨pane.settings.listening, pane.eventNow kind .zero⟩]
  else
    []

theorem announce_emissions {pane next : Pane σ} {kind : EventKind} {call : String → MeterCall}
    (announced : next = (pane.emitMomentum kind).callMeter call) :
    next.emissions = pane.emissions ++ next.momentumEmissions kind := by
  subst announced
  unfold emitMomentum callMeter
  by_cases asked : pane.settings.momentumEvents = true
  · rw [if_pos asked]
    split <;> simp [emit, momentumEmissions, asked, eventNow, offset]
  · rw [if_neg asked]
    split <;> simp [momentumEmissions, asked]

/-! ## The end of a sequence -/

/-- Content outside its extent is taken back there, and counts as still. -/
theorem returnToExtent_of_outside {pane returned : Pane σ} {now : Millis} (located : Located pane)
    (attached : pane.content.isSome = true) (outside : ¬ Within pane)
    (placed : pane.returnToExtent now = .ok returned) :
    Relocates pane ⟨pane.offset.x, returned.offset.y⟩ returned ∧ Within returned ∧
      returned.state.active = false := by
  unfold returnToExtent at placed
  rw [if_pos attached] at placed
  obtain ⟨y, clamped, carried⟩ := Outcome.bind_eq_ok_iff.mp placed
  have above := Extent.le_clamp clamped
  have below := Extent.clamp_le clamped
  have away : y ≠ pane.offset.y := by
    intro same
    rw [same] at above below
    exact outside ⟨above, below⟩
  rw [if_neg away] at carried
  obtain ⟨moved, jumped, same⟩ := Outcome.bind_eq_ok_iff.mp carried
  cases same
  have relocates := jumpTo_relocates located away jumped
  have there : moved.offset.y = y := congrArg Offset.y relocates.offset
  have extent := (jumpTo_moves jumped).extent
  refine ⟨?_, ⟨?_, ?_⟩, rfl⟩
  · show Relocates pane ⟨pane.offset.x, moved.offset.y⟩ _
    rw [there]
    exact ⟨relocates.offset, relocates.commands, relocates.sent⟩
  · show 0 ≤ moved.offset.y
    rw [there]
    exact above
  · show moved.offset.y ≤ moved.extent.limit
    rw [there, extent]
    exact below

/--
A settle sequence has ended with the content within its extent.  Content that
lay outside has been taken back by one jump and one scroll event before the end
is announced; content that lay inside has been left where it was.
-/
structure ComesToRest (pane next : Pane σ) : Prop where
  settings : next.settings = pane.settings
  within : Within next
  flinging : next.state.flinging = false
  active : next.state.active = false
  inside : Within pane →
    next.offset = pane.offset ∧ next.commands = pane.commands ∧
      next.emissions = pane.emissions ++ next.momentumEmissions .momentumEnd
  outside : ¬ Within pane →
    next.offset.x = pane.offset.x ∧ next.commands = pane.commands ++ [.jump next.offset] ∧
      ∃ event, event.kind = .scroll ∧ event.offset = next.offset ∧
        next.emissions = pane.emissions ++ [⟨pane.settings.listening, event⟩] ++
          next.momentumEmissions .momentumEnd

theorem comesToRest_of_concluded {pane returned next : Pane σ} {now : Millis}
    (located : Located pane) (attached : pane.content.isSome = true)
    (placed : pane.concluded.returnToExtent now = .ok returned)
    (announced : next = (returned.emitMomentum .momentumEnd).callMeter .disable) :
    ComesToRest pane next := by
  have sent := announce_emissions announced
  have stays := announce_stays returned .momentumEnd .disable
  have signals := announce_signals returned .momentumEnd .disable
  rw [← announced] at stays signals
  have settings : next.settings = pane.settings :=
    signals.settings.trans (returnToExtent_moves placed).settings
  have flinging : next.state.flinging = false := by
    rw [signals.state, (returnToExtent_moves placed).flinging]
    rfl
  have within (lies : Within returned) : Within next := by
    constructor
    · rw [stays.offset]
      exact lies.above
    · rw [stays.offset, signals.extent]
      exact lies.below
  by_cases inside : Within pane
  · have same : returned = pane.concluded := returnToExtent_eq_self inside.above inside.below placed
    subst same
    have active : next.state.active = false := by rw [signals.state]; rfl
    exact ⟨settings, within ⟨inside.above, inside.below⟩, flinging, active,
      fun _ => ⟨stays.offset, stays.commands, sent⟩, fun outside => absurd inside outside⟩
  · have seen : Located pane.concluded := located
    have out : ¬ Within pane.concluded := fun lies => inside ⟨lies.above, lies.below⟩
    obtain ⟨relocates, lies, still⟩ := returnToExtent_of_outside seen attached out placed
    have active : next.state.active = false := by rw [signals.state, still]
    obtain ⟨event, kind, there, emissions⟩ := relocates.sent
    have target : next.offset = ⟨pane.offset.x, returned.offset.y⟩ :=
      stays.offset.trans relocates.offset
    refine ⟨settings, within lies, flinging, active, fun lies => absurd lies inside, fun _ => ?_⟩
    refine ⟨by rw [target], ?_, event, kind, there.trans target.symm, ?_⟩
    · rw [stays.commands, relocates.commands, target]
      rfl
    · rw [sent, emissions]
      rfl

variable [ScrollPhysics σ]

/-! ## The end of a motion -/

/-- Where a motion that is over, or is stopped here, puts the content. -/
theorem Lands.within {extent : Extent} {advanced left : σ} {y : Px}
    (lands : Lands extent true advanced y left) (ordered : 0 ≤ extent.limit)
    (idle : ScrollPhysics.isIdle left = true) : 0 ≤ y ∧ y ≤ extent.limit := by
  cases lands with
  | stopped => exact ⟨ordered, Int32.le_refl _⟩
  | rests _ _ clamped => exact ⟨Extent.le_clamp clamped, Extent.clamp_le clamped⟩
  | follows unfinished => simp [idle] at unfinished

theorem Answer.ends_within {now : Millis} {pane next : Pane σ} {generation : UInt64}
    {frame : Advance} (answer : Answer now pane (.step generation) next) (located : Located pane)
    (attached : pane.content.isSome = true) (ordered : 0 ≤ pane.extent.limit)
    (stepped : (pane.animation.step generation now).1 = some frame)
    (finishes : frame.finished = true ∨ next.isRunning = false) : Within next := by
  obtain ⟨current, physics, ahead, held, told, rfl⟩ := Animation.step_eq_some stepped
  cases answer with
  | staleStep stale => exact absurd current stale
  | noPhysics absent =>
      rw [hasPhysics_of_ok held] at absent
      cases absent
  | spent present ended =>
      rw [held] at present
      cases present
      rw [told] at ended
      cases ended
  | @shown _ _ left y carried present advanced lands jumped =>
      rw [held] at present
      cases present
      rw [told] at advanced
      cases advanced
      have animation := (jumpTo_shows jumped).animation
      have idle : ScrollPhysics.isIdle left = true := by
        rcases finishes with finished | stopped
        · have ended : ScrollPhysics.isIdle ahead = true := finished
          rw [← lands.isIdle_or, ended, Bool.true_or]
        · rw [isRunning, animation] at stopped
          simpa [Animation.isRunning] using stopped
      rw [attached] at lands
      obtain ⟨above, below⟩ := lands.within ordered idle
      have there : carried.offset = ⟨pane.offset.x, y⟩ := (jumpTo_arrives jumped).offset_eq located
      have extent : carried.extent = pane.extent := (jumpTo_moves jumped).extent
      rw [if_pos idle]
      constructor
      · rw [there]
        exact above
      · rw [there, extent]
        exact below

/-! ## Runs -/

/--
With content attached, in any frame of a run: a step after which the motion is
over leaves the content within its extent, and so does a poll that ends the
settle sequence.
-/
theorem Course.comes_to_rest_within {start pane reached next : Pane σ} {turns : List (Turn σ)}
    {now : Millis} {wakeup : Wakeup} {rest : List Wakeup} (fresh : Fresh start)
    (course : Course start turns pane) (attached : pane.content.isSome = true)
    (midway : Midway pane now reached (wakeup :: rest))
    (woken : reached.wake now wakeup = .ok next) :
    (∀ generation frame, wakeup = .step generation →
      (reached.animation.step generation now).1 = some frame →
      (frame.finished = true ∨ next.isRunning = false) → Within next) ∧
    ∀ number, wakeup = .poll number → reached.verdict? number = some .settled →
      ComesToRest reached next := by
  obtain ⟨content, extent⟩ := midway.layout
  have located := midway.guides.located (course.located fresh)
  have present : reached.content.isSome = true := content ▸ attached
  have ordered : 0 ≤ reached.extent.limit :=
    extent ▸ Extent.measure_nonneg (course.measured fresh)
  constructor
  · intro generation frame isStep stepped finishes
    subst isStep
    exact (wake_answer woken).ends_within located present ordered stepped finishes
  · intro number isPoll decided
    subst isPoll
    obtain ⟨returned, placed, announced⟩ := (wake_answer woken).concludes decided
    exact comesToRest_of_concluded located present placed announced

/-- A fling past the end of the content, and a report from above its start. -/
def flungAndOvershot : List Operation :=
  flingFar 5000 ++ [.frame 16, .reportPosition ⟨0, -40⟩ 20, .frame 30]

theorem Course.comes_to_rest_within_overshot :
    (∃ (start pane reached next : Pane Stride) (turns : List (Turn Stride)),
      Fresh start ∧ Course start turns pane ∧ pane.content.isSome = true ∧
      Midway pane 16 reached [.step 1] ∧ reached.wake 16 (.step 1) = .ok next ∧
      (reached.animation.step 1 16).1 = some ⟨200, false⟩ ∧ next.isRunning = false ∧
      next.offset = ⟨0, 100⟩ ∧ Within next) ∧
    ∃ (start pane reached next : Pane Stride) (turns : List (Turn Stride)),
      Fresh start ∧ Course start turns pane ∧ pane.content.isSome = true ∧
      Midway pane 60 reached [.poll 1] ∧ reached.wake 60 (.poll 1) = .ok next ∧
      reached.verdict? 1 = some .settled ∧ reached.offset = ⟨0, -40⟩ ∧ next.offset = ⟨0, 0⟩ ∧
      ComesToRest reached next := by
  let start : Pane Stride :=
    create { Settings.standard with momentumEvents := true } .standard (some (.create 200))
  have fresh : Fresh start := .create _ _ _
  constructor
  · obtain ⟨pane, reached, next, turns, course, midway, woken, same⟩ :=
      exists_lone_answer start (flingFar 5000) 16 (.step 1)
        (fun reached next => (reached.content.isSome, (reached.animation.step 1 16).1,
          next.isRunning, next.offset))
        (true, some ⟨200, false⟩, false, ⟨0, 100⟩) (by decide +kernel) (by decide +kernel)
    simp only [Prod.mk.injEq] at same
    obtain ⟨present, delivered, stopped, there⟩ := same
    have attached : pane.content.isSome = true := midway.layout.1 ▸ present
    obtain ⟨ends, _⟩ := Course.comes_to_rest_within fresh course attached midway woken
    exact ⟨start, pane, reached, next, turns, fresh, course, attached, midway, woken, delivered,
      stopped, there, ends 1 _ rfl delivered (.inr stopped)⟩
  · obtain ⟨pane, reached, next, turns, course, midway, woken, same⟩ :=
      exists_lone_answer start flungAndOvershot 60 (.poll 1)
        (fun reached next => (reached.content.isSome, reached.verdict? 1, reached.offset,
          next.offset))
        (true, some .settled, ⟨0, -40⟩, ⟨0, 0⟩) (by decide +kernel) (by decide +kernel)
    simp only [Prod.mk.injEq] at same
    obtain ⟨present, decided, outside, back⟩ := same
    have attached : pane.content.isSome = true := midway.layout.1 ▸ present
    obtain ⟨_, settles⟩ := Course.comes_to_rest_within fresh course attached midway woken
    exact ⟨start, pane, reached, next, turns, fresh, course, attached, midway, woken, decided,
      outside, back, settles 1 rfl decided⟩

end Pane

end KineticScroll
