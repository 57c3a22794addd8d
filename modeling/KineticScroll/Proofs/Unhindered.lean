import KineticScroll.Proofs.Agreement
import KineticScroll.Proofs.ContentEnd
import KineticScroll.Proofs.DueSteps
import Mathlib.Data.List.Infix

/-!
# Motion that is let through

A motion that has come to the end of the content is stopped there.  A motion
whose positions stay short of the end is not: frames advance its physics until
it has finished, and the content ends where the physics does.  The direction of
the motion plays no part.  A glide away from the end is still at the end in a
frame in which no time has passed, and is stopped as well.
-/

namespace KineticScroll

theorem Extent.clamp_eq_ok {extent : Extent} {position : Px} (above : 0 ≤ position)
    (below : position ≤ extent.limit) : extent.clamp position = .ok position := by
  have ordered : 0 ≤ extent.limit := Int32.le_trans above below
  refine Outcome.map_eq_ok_iff.mpr ⟨⟨0, extent.limit, ordered⟩, ?_, Span.clamp_eq_self above below⟩
  exact dif_pos ordered

namespace Pane

variable {σ : Type} [ScrollPhysics σ]

/-! ## Positions short of the end -/

/-- Physics after frames at these times; once it has finished it is left alone. -/
def played (physics : σ) : List Millis → σ
  | [] => physics
  | now :: times =>
      if ScrollPhysics.isIdle physics then physics
      else played (ScrollPhysics.advance physics now).2 times

theorem played_of_isIdle {physics : σ} (idle : ScrollPhysics.isIdle physics = true)
    (times : List Millis) : played physics times = physics := by
  cases times with
  | nil => rfl
  | cons now times => rw [played, if_pos idle]

theorem played_cons (physics : σ) (now : Millis) (times : List Millis) :
    played physics (now :: times) = played (played physics [now]) times := by
  cases idle : ScrollPhysics.isIdle physics with
  | true => simp only [played_of_isIdle idle]
  | false => simp [played, idle]

/-- Physics within the extent, and short of its end as long as it has some way to go. -/
structure Clears (extent : Extent) (physics : σ) : Prop where
  above : 0 ≤ ScrollPhysics.position physics
  below : ScrollPhysics.position physics ≤ extent.limit
  short : Animation.isUnderway physics = true → ScrollPhysics.position physics < extent.limit

instance (extent : Extent) (physics : σ) : Decidable (Clears extent physics) :=
  decidable_of_iff
    (0 ≤ ScrollPhysics.position physics ∧ ScrollPhysics.position physics ≤ extent.limit ∧
      (Animation.isUnderway physics = true → ScrollPhysics.position physics < extent.limit))
    ⟨fun ⟨above, below, short⟩ => ⟨above, below, short⟩,
      fun ⟨above, below, short⟩ => ⟨above, below, short⟩⟩

theorem Lands.of_clears {extent : Extent} {attached : Bool} {advanced left : σ} {y : Px}
    (lands : Lands extent attached advanced y left) (clears : Clears extent advanced) :
    y = ScrollPhysics.position advanced ∧ left = advanced := by
  cases lands with
  | stopped underway past => exact absurd past (Int32.not_le.mpr (clears.short underway))
  | rests idle attached clamped =>
      rw [Extent.clamp_eq_ok clears.above clears.below] at clamped
      cases clamped
      exact ⟨rfl, rfl⟩
  | follows => exact ⟨rfl, rfl⟩

/-! ## Answers -/

omit [ScrollPhysics σ] in
/-- Content within its extent is left there when a sequence ends. -/
theorem returnToExtent_eq_self {pane next : Pane σ} {now : Millis} (above : 0 ≤ pane.offset.y)
    (below : pane.offset.y ≤ pane.extent.limit) (returned : pane.returnToExtent now = .ok next) :
    next = pane := by
  unfold returnToExtent at returned
  split at returned
  · rw [Extent.clamp_eq_ok above below] at returned
    obtain ⟨target, same, placed⟩ := Outcome.bind_eq_ok_iff.mp returned
    cases same
    simp only [if_true] at placed
    cases placed
    rfl
  · cases returned
    rfl

/-- Without paging, only a step of the motion moves it or the content. -/
theorem Answer.stands {now : Millis} {pane next : Pane σ} {wakeup : Wakeup}
    (answer : Answer now pane wakeup next) (other : wakeup ≠ .step pane.animation.generation)
    (unpaged : pane.settings.pagingEnabled = false) (above : 0 ≤ pane.offset.y)
    (below : pane.offset.y ≤ pane.extent.limit) :
    next.animation = pane.animation ∧ next.offset = pane.offset ∧
      ∀ generation, .step generation ∈ next.waiting → .step generation ∈ pane.waiting := by
  cases answer with
  | staleStep => exact ⟨rfl, rfl, fun _ waits => waits⟩
  | noPhysics => exact ⟨rfl, rfl, fun _ waits => waits⟩
  | spent => exact absurd rfl other
  | shown => exact absurd rfl other
  | stalePoll => exact ⟨rfl, rfl, fun _ waits => waits⟩
  | moving =>
      refine ⟨rfl, rfl, fun generation waits => ?_⟩
      rw [schedulePoll, waiting_of_alarms_set rfl] at waits
      rcases List.mem_append.mp waits with before | poll
      · exact before
      · simp at poll
  | snap current quiet paging =>
      rw [unpaged] at paging
      cases paging
  | settled current quiet unpaged placed =>
      have same : _ = pane.concluded := returnToExtent_eq_self above below placed
      subst same
      have stays := announce_stays pane.concluded .momentumEnd .disable
      have signals := announce_signals pane.concluded .momentumEnd .disable
      refine ⟨signals.animation, stays.offset, fun generation waits => ?_⟩
      rwa [waiting_of_alarms_eq signals.alarms] at waits

/-- A step shows the position of physics that is let through. -/
theorem Answer.crosses [LawfulPhysics σ] {now : Millis} {pane next : Pane σ} {physics : σ}
    (answer : Answer now pane (.step pane.animation.generation) next)
    (held : pane.animation.physics = .ok physics)
    (running : ScrollPhysics.isIdle physics = false) (located : Located pane)
    (clears : Clears pane.extent (ScrollPhysics.advance physics now).2) :
    next.animation = ⟨.ok (ScrollPhysics.advance physics now).2, pane.animation.generation⟩ ∧
      next.offset = ⟨pane.offset.x, ScrollPhysics.position (ScrollPhysics.advance physics now).2⟩ ∧
      (ScrollPhysics.isIdle (ScrollPhysics.advance physics now).2 = true →
        next.waiting = pane.waiting) := by
  cases answer with
  | staleStep stale => exact absurd rfl stale
  | noPhysics absent =>
      rw [hasPhysics_of_ok held] at absent
      cases absent
  | spent present advanced =>
      rw [held] at present
      cases present
      rw [LawfulPhysics.isIdle_of_advance advanced] at running
      cases running
  | shown present advanced lands jumped =>
      rw [held] at present
      cases present
      rw [advanced] at clears ⊢
      obtain ⟨rfl, rfl⟩ := lands.of_clears clears
      have shows := jumpTo_shows jumped
      have there := (jumpTo_arrives jumped).offset_eq located
      refine ⟨shows.animation, ?_, fun idle => ?_⟩
      · split <;> exact there
      · refine waiting_of_alarms_eq ?_
        rw [shows.alarms, if_pos idle]

/-! ## Frames -/

/-- How far a frame has come with a motion that is let through. -/
inductive Crossing (pane : Pane σ) (advanced : σ) (rest : List Wakeup) (reached : Pane σ) :
    Prop where
  | ahead : reached.animation = pane.animation → reached.offset = pane.offset →
      .step pane.animation.generation ∈ rest → Crossing pane advanced rest reached
  | past : reached.animation = ⟨.ok advanced, pane.animation.generation⟩ →
      reached.offset = ⟨pane.offset.x, ScrollPhysics.position advanced⟩ →
      .step pane.animation.generation ∉ rest →
      (ScrollPhysics.isIdle advanced = true →
        .step pane.animation.generation ∉ reached.waiting) →
      Crossing pane advanced rest reached

/-- A pane with a motion under way or finished, as it is between frames. -/
structure Rides (clock : Millis) (physics : σ) (pane : Pane σ) : Prop where
  held : pane.animation.physics = .ok physics
  paced : Paced True pane.waiting pane
  due : StepsDue clock pane
  located : Located pane
  unpaged : pane.settings.pagingEnabled = false
  above : 0 ≤ pane.offset.y
  below : pane.offset.y ≤ pane.extent.limit
  /-- Motion that has finished is shown where it is, and no step is waited for. -/
  finished : ScrollPhysics.isIdle physics = true →
    pane.offset.y = ScrollPhysics.position physics ∧
      .step pane.animation.generation ∉ pane.waiting

namespace Rides

variable {clock now : Millis} {physics : σ} {pane next reached : Pane σ} {rest : List Wakeup}

theorem wait (rides : Rides clock physics pane) (passed : clock ≤ now) : Rides now physics pane :=
  { rides with due := rides.due.wait passed }

/-- The step of a motion under way rings in the next frame. -/
theorem step_mem_ring (rides : Rides now physics pane)
    (running : ScrollPhysics.isIdle physics = false) :
    .step pane.animation.generation ∈ (pane.alarms.ring now).1 := by
  have runs : pane.isRunning = true := by
    rw [isRunning_eq_of_ok rides.held, running]
    rfl
  have once := rides.paced.running (.inl trivial) runs
  obtain ⟨⟨due, wakeup⟩, pending, isStep⟩ := List.mem_map.mp
    (List.count_pos_iff.mp (once ▸ Nat.one_pos))
  cases isStep
  exact Alarms.mem_ring pending (rides.due due pending)

theorem crossing [LawfulPhysics σ] (rides : Rides now physics pane)
    (running : ScrollPhysics.isIdle physics = false)
    (clears : Clears pane.extent (ScrollPhysics.advance physics now).2)
    (midway : Midway pane now reached rest) :
    Crossing pane (ScrollPhysics.advance physics now).2 rest reached := by
  induction midway with
  | begin => exact .ahead rfl rfl (rides.step_mem_ring running)
  | @next reached after wakeup rest midway woken ih =>
      have answer := wake_answer woken
      have extent := midway.layout.2
      have unpaged : reached.settings.pagingEnabled = false := by
        rw [midway.settings]
        exact rides.unpaged
      cases ih with
      | ahead same there waits =>
          by_cases isStep : wakeup = .step reached.animation.generation
          · subst isStep
            obtain ⟨landed, shown, quiet⟩ := answer.crosses (same ▸ rides.held) running
              (midway.guides.located rides.located) (extent ▸ clears)
            have once := (midway.paced rides.paced (same ▸ UInt64.le_refl _)).once
            rw [List.cons_append, List.count_cons_self, List.count_append] at once
            rw [same] at once landed
            rw [there] at shown
            refine .past landed shown (List.count_eq_zero.mp (by omega)) fun idle => ?_
            rw [quiet idle]
            exact List.count_eq_zero.mp (by omega)
          · rw [same] at isStep
            obtain ⟨animation, kept, _⟩ := answer.stands (same ▸ isStep) unpaged
              (there ▸ rides.above) (by rw [there, extent]; exact rides.below)
            refine .ahead (animation.trans same) (kept.trans there) ?_
            exact (List.mem_cons.mp waits).resolve_left (Ne.symm isStep)
      | past landed there gone quiet =>
          have other : wakeup ≠ .step reached.animation.generation := by
            intro isStep
            rw [landed] at isStep
            exact gone (isStep ▸ List.mem_cons_self)
          obtain ⟨animation, kept, steps⟩ := answer.stands other unpaged
            (there ▸ clears.above) (by rw [there, extent]; exact clears.below)
          refine .past (animation.trans landed) (kept.trans there) ?_ ?_
          · exact fun later => gone (List.mem_cons_of_mem _ later)
          · exact fun idle waits => quiet idle (steps _ waits)

/-- Once the motion has finished, frames leave it and the content alone. -/
theorem still (rides : Rides now physics pane) (idle : ScrollPhysics.isIdle physics = true)
    (midway : Midway pane now reached rest) :
    reached.animation = pane.animation ∧ reached.offset = pane.offset ∧
      .step pane.animation.generation ∉ rest ++ reached.waiting := by
  induction midway with
  | begin =>
      refine ⟨rfl, rfl, fun waits => (rides.finished idle).2 ?_⟩
      exact (pane.alarms.ring_perm now).mem_iff.mp waits
  | @next reached after wakeup rest midway woken ih =>
      obtain ⟨same, there, gone⟩ := ih
      have extent := midway.layout.2
      have unpaged : reached.settings.pagingEnabled = false := by
        rw [midway.settings]
        exact rides.unpaged
      have other : wakeup ≠ .step reached.animation.generation := by
        intro isStep
        rw [same] at isStep
        exact gone (isStep ▸ List.mem_cons_self)
      obtain ⟨animation, kept, steps⟩ := (wake_answer woken).stands other unpaged
        (there ▸ rides.above) (by rw [there, extent]; exact rides.below)
      refine ⟨animation.trans same, kept.trans there, fun waits => gone ?_⟩
      rcases List.mem_append.mp waits with later | set
      · exact List.mem_cons_of_mem _ (List.mem_append_left _ later)
      · exact List.mem_cons_of_mem _ (List.mem_append_right _ (steps _ set))

/-- A frame advances a motion that is let through, and shows where it is. -/
theorem frame [LawfulPhysics σ] (rides : Rides now physics pane)
    (clears : Clears pane.extent (played physics [now])) (framed : pane.frame now = .ok next) :
    Rides now (played physics [now]) next ∧ next.extent = pane.extent ∧
      next.animation.generation = pane.animation.generation ∧
      next.offset.y = ScrollPhysics.position (played physics [now]) := by
  have midway := frame_midway framed
  have extent := midway.layout.2
  have unpaged : next.settings.pagingEnabled = false := by
    rw [midway.settings]
    exact rides.unpaged
  have located := midway.guides.located rides.located
  have kept (generation : next.animation.generation = pane.animation.generation) :
      Paced True next.waiting next ∧ StepsDue now next := by
    have up : pane.animation.generation ≤ next.animation.generation :=
      generation ▸ UInt64.le_refl _
    exact ⟨midway.paced rides.paced up, midway.stepsDue rides.paced up rides.due⟩
  cases idle : ScrollPhysics.isIdle physics with
  | true =>
      obtain ⟨same, there, gone⟩ := rides.still idle midway
      obtain ⟨shown, _⟩ := rides.finished idle
      obtain ⟨paced, due⟩ := kept (congrArg Animation.generation same)
      have stands : next.offset.y = ScrollPhysics.position physics := by rw [there, shown]
      rw [played_of_isIdle idle]
      refine ⟨⟨same ▸ rides.held, paced, due, located, unpaged, there ▸ rides.above, ?_,
        fun _ => ⟨stands, ?_⟩⟩, extent, congrArg Animation.generation same, stands⟩
      · rw [there, extent]
        exact rides.below
      · rw [same]
        exact fun waits => gone (List.mem_append_right _ waits)
  | false =>
      have advanced : played physics [now] = (ScrollPhysics.advance physics now).2 := by
        simp [played, idle]
      rw [advanced] at clears ⊢
      cases rides.crossing idle clears midway with
      | ahead _ _ waits => cases waits
      | past landed there _ quiet =>
          have generation := congrArg Animation.generation landed
          obtain ⟨paced, due⟩ := kept generation
          have shown := congrArg Offset.y there
          refine ⟨⟨congrArg Animation.physics landed, paced, due, located, unpaged, ?_, ?_,
            fun finished => ⟨shown, ?_⟩⟩, extent, generation, shown⟩
          · rw [shown]
            exact clears.above
          · rw [shown, extent]
            exact clears.below
          · rw [generation]
            exact quiet finished

/-- Frame after frame, the content is where the physics would be left to itself. -/
theorem run [LawfulPhysics σ] {times : List Millis} {final : Pane σ}
    (rides : Rides clock physics pane) (ordered : (clock :: times).Pairwise (· ≤ ·))
    (clears : ∀ early, early <+: times → early ≠ [] → Clears pane.extent (played physics early))
    (ran : pane.run (times.map .frame) = .ok final) :
    final.animation = ⟨.ok (played physics times), pane.animation.generation⟩ ∧
      (pane.offset.y = ScrollPhysics.position physics ∨ times ≠ [] →
        final.offset.y = ScrollPhysics.position (played physics times)) := by
  induction times generalizing clock physics pane with
  | nil =>
      cases ran
      refine ⟨?_, ?_⟩
      · rw [played, ← rides.held]
      · rintro (shown | none)
        · exact shown
        · exact absurd rfl none
  | cons now times ih =>
      obtain ⟨⟨reply, next⟩, performed, remaining⟩ := Outcome.bind_eq_ok_iff.mp ran
      obtain ⟨_, framed, same⟩ := Outcome.map_eq_ok_iff.mp performed
      cases same
      obtain ⟨first, later⟩ := List.pairwise_cons.mp ordered
      have waited := rides.wait (first now List.mem_cons_self)
      obtain ⟨ridesOn, extent, generation, shown⟩ :=
        waited.frame (clears [now] (by simp) (by simp)) framed
      have clearsOn early (isEarly : early <+: times) (_ : early ≠ []) :
          Clears next.extent (played (played physics [now]) early) := by
        rw [extent, ← played_cons]
        exact clears (now :: early) (by simpa using isEarly) (by simp)
      obtain ⟨landed, there⟩ := ih ridesOn later clearsOn remaining
      rw [played_cons, ← generation]
      exact ⟨landed, fun _ => there (.inl shown)⟩

end Rides

/-! ## Every course -/

/--
Motion whose positions stay short of the end of the content until it has
finished is never stopped.  While only frames follow and the clock does not go
back, the motion is what the physics makes of it, and so is the offset.
-/
theorem Course.motion_unhindered [LawfulPhysics σ] {start pane final : Pane σ}
    {turns : List (Turn σ)} {physics : σ} {now : Millis} {times : List Millis}
    (fresh : Fresh start) (still : start.isRunning = false) (course : Course start turns pane)
    (few : motionsNumbered turns < 2 ^ 64) (unpaged : pane.settings.pagingEnabled = false)
    (above : 0 ≤ pane.offset.y) (below : pane.offset.y ≤ pane.extent.limit)
    (held : pane.animation.physics = .ok physics)
    (running : ScrollPhysics.isIdle physics = false) (due : StepsDue now pane)
    (ordered : (now :: times).Pairwise (· ≤ ·))
    (clears : ∀ early, early <+: now :: times → early ≠ [] →
      Clears pane.extent (played physics early))
    (ran : pane.run ((now :: times).map .frame) = .ok final) :
    final.animation = ⟨.ok (played physics (now :: times)), pane.animation.generation⟩ ∧
      final.offset.y = ScrollPhysics.position (played physics (now :: times)) := by
  have paced := course.paced fresh few
  have rides : Rides now physics pane :=
    { held, due, unpaged, above, below
      paced := ⟨paced.numbered, paced.once, fun _ => paced.running (.inl still)⟩
      located := course.located fresh
      finished := by simp [running] }
  have again : (now :: now :: times).Pairwise (· ≤ ·) := by
    refine List.pairwise_cons.mpr ⟨fun time given => ?_, ordered⟩
    rcases List.mem_cons.mp given with rfl | later
    · exact UInt64.le_refl _
    · exact (List.pairwise_cons.mp ordered).1 time later
  obtain ⟨landed, shown⟩ := rides.run again clears ran
  exact ⟨landed, shown (.inr (by simp))⟩

/-- A fling away from the end of the content, from a little above it. -/
def flungBack : List Operation :=
  [.layOut ⟨300, 500, 0, 0⟩ 0, .setContent ⟨300, 1000⟩ 0, .reportPosition ⟨0, 450⟩ 0,
    .fling (-100) 0]

theorem Course.motion_unhindered_flung_back :
    ∃ (start pane final : Pane Stride) (turns : List (Turn Stride)) (physics : Stride),
      Fresh start ∧ start.isRunning = false ∧ Course start turns pane ∧
      motionsNumbered turns < 2 ^ 64 ∧ pane.settings.pagingEnabled = false ∧
      0 ≤ pane.offset.y ∧ pane.offset.y ≤ pane.extent.limit ∧
      pane.animation.physics = .ok physics ∧ ScrollPhysics.isIdle physics = false ∧
      StepsDue 16 pane ∧ [(16 : Millis), 32, 48, 64].Pairwise (· ≤ ·) ∧
      (∀ early, early <+: [16, 32, 48, 64] → early ≠ [] →
        Clears pane.extent (played physics early)) ∧
      pane.run ([16, 32, 48, 64].map .frame) = .ok final ∧
      final.animation = ⟨.ok (played physics [16, 32, 48, 64]), pane.animation.generation⟩ ∧
      final.offset.y = ScrollPhysics.position (played physics [16, 32, 48, 64]) ∧
      final.offset.y = 350 := by
  let start : Pane Stride := create .standard .standard (some (.create 40))
  let physics : Stride := ⟨40, 450, 350, false⟩
  have fresh : Fresh start := .create _ _ _
  have still : start.isRunning = false := rfl
  have came : (start.run flungBack).map (fun pane => decide
      (pane.settings.pagingEnabled = false ∧ pane.offset.y = 450 ∧ pane.extent = ⟨500⟩ ∧
        pane.animation.physics.toOption = some physics ∧ pane.animation.generation = 1 ∧
        pane.alarms.pending = [⟨0, .step 1⟩])) = .ok true := by decide +kernel
  have framed : ((start.run flungBack) >>= fun pane =>
      pane.run ([16, 32, 48, 64].map .frame)).map (fun final => final.offset.y) = .ok 350 := by
    decide +kernel
  have few : motionsNumbered (start.history flungBack) < 2 ^ 64 := by decide +kernel
  obtain ⟨pane, ran, same⟩ := Outcome.map_eq_ok_iff.mp came
  obtain ⟨unpaged, height, extent, present, generation, pending⟩ := of_decide_eq_true same
  have held := Outcome.eq_ok_of_toOption_eq_some present
  rw [ran] at framed
  obtain ⟨final, done, there⟩ := Outcome.map_eq_ok_iff.mp framed
  have above : 0 ≤ pane.offset.y := by rw [height]; decide
  have below : pane.offset.y ≤ pane.extent.limit := by rw [height, extent]; decide
  have due : StepsDue 16 pane := by
    intro time set
    rw [pending, generation] at set
    simp only [List.mem_singleton, Alarm.mk.injEq, and_true] at set
    rw [set]
    decide
  have listed : ∀ early ∈ List.inits [16, 32, 48, 64], early ≠ [] →
      Clears ⟨500⟩ (played physics early) := by decide +kernel
  have clears early (isEarly : early <+: [16, 32, 48, 64]) (some : early ≠ []) :
      Clears pane.extent (played physics early) := by
    rw [extent]
    exact listed early ((List.mem_inits _ _).mpr isEarly) some
  have course := course_history ran
  have ordered : [(16 : Millis), 32, 48, 64].Pairwise (· ≤ ·) := by decide
  obtain ⟨landed, shown⟩ := course.motion_unhindered fresh still few unpaged above below held rfl
    due ordered clears done
  exact ⟨start, pane, final, _, physics, fresh, still, course, few, unpaged, above, below, held,
    rfl, due, ordered, clears, done, landed, shown, there⟩

/-- Content at its end, which the snap interval calls back to a page. -/
def snappedAtEnd : List Operation :=
  [.layOut ⟨300, 500, 0, 0⟩ 0, .setContent ⟨300, 950⟩ 0, .reportPosition ⟨0, 450⟩ 0, .fling 0 0]

/-- A glide away from the end that has not got anywhere in its first frame is stopped there. -/
theorem Course.glide_stopped_at_start :
    ∃ (start pane first final : Pane Decay) (turns : List (Turn Decay)) (physics : Decay),
      Fresh start ∧ start.isRunning = false ∧ Course start turns pane ∧
      pane.content.isSome = true ∧ pane.settings.pagingEnabled = false ∧
      pane.offset = ⟨0, 450⟩ ∧ pane.extent.limit = 450 ∧
      pane.animation.physics = .ok physics ∧ physics.isIdle = false ∧
      physics.destination = 400 ∧ StepsDue 0 pane ∧
      (played physics [0]).isIdle = false ∧ (played physics [0]).position = 450 ∧
      (played physics [0, 250]).isIdle = true ∧ (played physics [0, 250]).position = 400 ∧
      pane.frame 0 = .ok first ∧ first.isRunning = false ∧
      first.frame 250 = .ok final ∧ final.offset = ⟨0, 450⟩ := by
  let start : Pane Decay :=
    create { Settings.standard with snapInterval := 200 } .standard (some .initial)
  let glide : Glide := ⟨450, 400, 0, 250, .smoothStep⟩
  let physics : Decay := ⟨Decay.defaultFriction, true, .glide glide, 450, 400⟩
  have fresh : Fresh start := .create _ _ _
  have still : start.isRunning = false := by decide +kernel
  have came : (start.run snappedAtEnd).map (fun pane => decide
      (pane.content.isSome = true ∧ pane.settings.pagingEnabled = false ∧
        pane.offset = ⟨0, 450⟩ ∧ pane.extent.limit = 450 ∧
        pane.animation.physics.toOption = some physics ∧ pane.animation.generation = 1 ∧
        pane.alarms.pending = [⟨0, .step 1⟩])) = .ok true := by decide +kernel
  have framed : (start.run snappedAtEnd >>= fun pane => pane.frame 0 >>= fun first =>
      (first.frame 250).map fun final => (first.isRunning, final.offset)) =
      .ok (false, ⟨0, 450⟩) := by decide +kernel
  obtain ⟨pane, ran, same⟩ := Outcome.map_eq_ok_iff.mp came
  obtain ⟨attached, unpaged, place, limit, present, generation, pending⟩ := of_decide_eq_true same
  have held := Outcome.eq_ok_of_toOption_eq_some present
  have due : StepsDue 0 pane := by
    intro time set
    rw [pending, generation] at set
    simp only [List.mem_singleton, Alarm.mk.injEq, and_true] at set
    rw [set]
    decide
  obtain ⟨_, again, frames⟩ := Outcome.bind_eq_ok_iff.mp framed
  rw [ran] at again
  cases again
  obtain ⟨first, firstFrame, rest⟩ := Outcome.bind_eq_ok_iff.mp frames
  obtain ⟨final, secondFrame, same⟩ := Outcome.map_eq_ok_iff.mp rest
  obtain ⟨halted, there⟩ := Prod.mk.inj same
  exact ⟨start, pane, first, final, _, physics, fresh, still, course_history ran, attached,
    unpaged, place, limit, held, rfl, rfl, due, by decide +kernel, by decide +kernel,
    by decide +kernel, by decide +kernel, firstFrame, halted, secondFrame, there⟩

end Pane

end KineticScroll
