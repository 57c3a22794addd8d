import KineticScroll.Proofs.Echoes
import KineticScroll.Proofs.RestingPlace

/-!
# Without content

Content can be taken away, even while it moves.  Nothing is then known of its
extent, and the offset is left to whoever moves it.  No gesture, no layout and no
settle sequence takes the content anywhere, and a step shows what the physics
says.  Only content that is attached again is fitted to the layout.

One kind of motion is not let go on: a motion still underway that is not above
the start is taken for one that has reached the end.
-/

namespace KineticScroll

namespace Pane

variable {σ : Type}

/-! ## Leaving the content in its place -/

/-- The content stays where it is, and the host is not told to take it anywhere at once. -/
structure LeavesPlace (pane next : Pane σ) : Prop where
  offset : next.offset = pane.offset
  targets : Command.targets (next.commands.drop pane.commands.length) = []

theorem LeavesPlace.of_append {pane next : Pane σ} {sent : List Command}
    (offset : next.offset = pane.offset) (asked : next.commands = pane.commands ++ sent)
    (noJump : Command.targets sent = []) : LeavesPlace pane next := by
  refine ⟨offset, ?_⟩
  rw [asked, List.drop_left]
  exact noJump

theorem LeavesPlace.of_same {pane next : Pane σ} (offset : next.offset = pane.offset)
    (commands : next.commands = pane.commands) : LeavesPlace pane next :=
  .of_append offset (by rw [commands, List.append_nil]) rfl

theorem Stays.leavesPlace {pane next : Pane σ} (stays : Stays pane next) : LeavesPlace pane next :=
  .of_same stays.offset stays.commands

theorem Defers.leavesPlace {pane next : Pane σ} (defers : Defers pane next) :
    LeavesPlace pane next := by
  have offset : next.offset = pane.offset := congrArg PaneState.offset defers.state
  rcases defers.asks with same | ⟨_, command, starts, asked⟩
  · exact .of_same offset same
  · have noTarget := Command.target?_of_startsMotion starts
    exact .of_append offset asked (by simp [Command.targets, noTarget])

/-! ## Layout -/

theorem fitExtent_of_detached {pane next : Pane σ} {now : Millis} (detached : pane.content = none)
    (fitted : pane.fitExtent now = .ok next) : next = { pane with extent := .zero } := by
  obtain ⟨extent, measured, placed⟩ := Outcome.bind_eq_ok_iff.mp fitted
  rw [detached] at measured
  cases measured
  simp only [detached, Option.isSome_none, Bool.false_eq_true, if_false] at placed
  cases placed
  rw [detached]

theorem layOut_of_detached {pane next : Pane σ} {viewport : Viewport} {now : Millis}
    (detached : pane.content = none) (laid : pane.layOut viewport now = .ok next) :
    next.content = none ∧ Stays pane next := by
  obtain ⟨culling, fitted⟩ := layOut_eq_ok laid
  have placed : next = _ := fitExtent_of_detached (by exact detached) fitted
  rw [placed]
  exact ⟨detached, rfl, rfl, rfl⟩

theorem resizeContent_of_detached {pane : Pane σ} (detached : pane.content = none)
    (content : ContentSize) (now : Millis) : pane.resizeContent content now = .ok pane := by
  simp [resizeContent, detached]

theorem fitExtent_content {pane next : Pane σ} {now : Millis}
    (fitted : pane.fitExtent now = .ok next) : next.content = pane.content := by
  obtain ⟨extent, _, placed⟩ := Outcome.bind_eq_ok_iff.mp fitted
  split at placed
  · split at placed
    · cases placed
      rfl
    · exact (jumpTo_moves placed).content
  · cases placed
    rfl

/-- Content that is attached is fitted to the layout, wherever it has been left. -/
theorem setContent_refits {pane next : Pane σ} {content : ContentSize} {now : Millis}
    (located : Located pane) (set : pane.setContent content now = .ok next) : Refits pane next := by
  have placed : Located { pane with content := some content } := located
  have attached : next.content.isSome = true := by
    rw [fitExtent_content set]
    rfl
  have refits := fitExtent_refits placed set attached
  refine ⟨refits.within, ?_, refits.reaches, refits.dragging, refits.flinging, refits.settling,
    refits.alarms⟩
  intro past
  have relocates := refits.overrun past
  exact ⟨relocates.offset, relocates.commands, relocates.sent⟩

theorem returnToExtent_of_detached {pane : Pane σ} (detached : pane.content = none)
    (now : Millis) : pane.returnToExtent now = .ok pane := by
  simp [returnToExtent, detached]

variable [ScrollPhysics σ]

/-! ## Operations -/

/-- Whether an operation may attach content, or give a position to what there is. -/
def Operation.placesContent : Operation → Bool
  | .setContent _ _ => true
  | .reportPosition _ _ => true
  | .frame _ => true
  | _ => false

theorem fling_leavesPlace {pane next : Pane σ} {velocity : Px} {now : Millis}
    (flung : pane.fling velocity now = .ok next) : LeavesPlace pane next := by
  obtain ⟨asked, defers, same⟩ := fling_defers flung
  have leaves := defers.leavesPlace
  rcases same with rfl | rfl
  · exact leaves
  · have settled := asked.flung.startSettling_stays .fling now
    refine ⟨settled.offset.trans leaves.offset, ?_⟩
    rw [settled.commands]
    exact leaves.targets

/-- Everything else attaches nothing and leaves the offset as it is. -/
theorem perform_leavesPlace {pane next : Pane σ} {operation : Operation} {reply : Reply}
    (detached : pane.content = none) (others : operation.placesContent = false)
    (performed : pane.perform operation = .ok (reply, next)) :
    next.content = none ∧ LeavesPlace pane next := by
  cases perform_performs performed with
  | configure configured =>
      have content := (configure_sameLayout configured).content
      exact ⟨content.trans detached, (configure_stays configured).1.leavesPlace⟩
  | layOut laid =>
      obtain ⟨content, stays⟩ := layOut_of_detached detached laid
      exact ⟨content, stays.leavesPlace⟩
  | resizeContent resized =>
      rw [resizeContent_of_detached detached] at resized
      cases resized
      exact ⟨detached, .of_same rfl rfl⟩
  | enterWindow entered =>
      obtain ⟨culling, rfl⟩ := refreshCulling_eq_ok entered
      exact ⟨detached, .of_same rfl rfl⟩
  | refreshCulling refreshed =>
      have content := (refreshCulling_moves refreshed).content
      exact ⟨content.trans detached, (refreshCulling_stays refreshed).1.leavesPlace⟩
  | grab grabbed =>
      have content := (grab_sameLayout grabbed).content
      exact ⟨content.trans detached, (grab_stays grabbed).leavesPlace⟩
  | touch touched =>
      have content := (touch_sameLayout touched).content
      exact ⟨content.trans detached, (touch_stays touched).leavesPlace⟩
  | fling flung =>
      have content := (fling_sameLayout flung).content
      exact ⟨content.trans detached, fling_leavesPlace flung⟩
  | flashIndicators => exact ⟨detached, .of_append rfl rfl rfl⟩
  -- Commands that are taken away were sent before.
  | collectCommands => exact ⟨detached, rfl, by simp [collectCommands, Command.targets]⟩
  | removeContent => exact ⟨rfl, .of_same rfl rfl⟩
  | setContent => cases others
  | reportPosition => cases others
  | frame => cases others
  | _ => exact ⟨detached, .of_same rfl rfl⟩

omit [ScrollPhysics σ] in
theorem LeavesPlace.positions {pane next : Pane σ} {operation : Operation}
    (leaves : LeavesPlace pane next) (others : operation.placesContent = false) :
    Turn.positions ⟨pane, operation, next⟩ = [] := by
  unfold Turn.positions
  cases operation with
  | reportPosition => cases others
  | _ => exact leaves.targets

/-- So the offset is kept for as long as only such operations come. -/
theorem Course.leavesPlace {pane later : Pane σ} {more : List (Turn σ)}
    (onward : Course pane more later) (detached : pane.content = none)
    (others : ∀ turn ∈ more, turn.operation.placesContent = false) :
    later.content = none ∧ later.offset = pane.offset ∧ more.flatMap Turn.positions = [] := by
  induction onward with
  | start => exact ⟨detached, rfl, rfl⟩
  | @turn more middle next operation reply _ performed ih =>
      obtain ⟨content, offset, given⟩ :=
        ih fun turn among => others turn (List.mem_append_left _ among)
      have other : operation.placesContent = false := others _ (List.mem_append_right _ (.head _))
      obtain ⟨gone, leaves⟩ := perform_leavesPlace content other performed
      refine ⟨gone, leaves.offset.trans offset, ?_⟩
      rw [List.flatMap_append, given, List.flatMap_singleton, leaves.positions other,
        List.append_nil]

/-! ## Frames -/

/-- A poll without content has no extent to bring it back to. -/
theorem Answer.poll_leavesPlace {pane next : Pane σ} {number : UInt64} {now : Millis}
    (answer : Answer now pane (.poll number) next) (detached : pane.content = none) :
    LeavesPlace pane next := by
  cases answer with
  | stalePoll => exact .of_same rfl rfl
  | moving => exact .of_same rfl rfl
  | snap current quiet paging unsnapped glided =>
      have leaves := (glideToPage_defers glided).leavesPlace
      exact ⟨leaves.offset, leaves.targets⟩
  | settled current quiet unpaged placed =>
      have gone : pane.concluded.content = none := detached
      rw [returnToExtent_of_detached gone] at placed
      cases placed
      have announced := (announce_stays pane.concluded .momentumEnd .disable).leavesPlace
      exact ⟨announced.offset, announced.targets⟩

/-- A step has shown what the physics says, and is set again unless the physics has finished. -/
structure Follows (pane : Pane σ) (generation : UInt64) (frame : Advance) (now : Millis)
    (next : Pane σ) : Prop where
  offset : next.offset = ⟨pane.offset.x, frame.position⟩
  sent : Jumps pane frame.position next
  animation : next.animation = (pane.animation.step generation now).2
  runs : next.isRunning = !frame.finished
  alarms : next.alarms = if frame.finished then pane.alarms
    else pane.alarms.set (.step generation) now 0

/-- Without content, a motion that is not stopped is followed. -/
theorem Lands.follows_of_detached {extent : Extent} {advanced left : σ} {y : Px}
    (lands : Lands extent false advanced y left)
    (short : Animation.isUnderway advanced = true →
      ScrollPhysics.position advanced < extent.limit) :
    y = ScrollPhysics.position advanced ∧ left = advanced := by
  cases lands with
  | stopped underway past => exact absurd past (Int32.not_le.mpr (short underway))
  | rests _ attached => cases attached
  | follows => exact ⟨rfl, rfl⟩

theorem Answer.step_leavesPlace {pane next : Pane σ} {generation : UInt64} {now : Millis}
    (answer : Answer now pane (.step generation) next)
    (nothing : (pane.animation.step generation now).1 = none) : LeavesPlace pane next := by
  cases answer with
  | staleStep => exact .of_same rfl rfl
  | noPhysics => exact .of_same rfl rfl
  | spent => exact .of_same rfl rfl
  | shown held advanced => simp [Animation.step, held, advanced] at nothing

theorem Answer.step_follows {pane next : Pane σ} {generation : UInt64} {frame : Advance}
    {now : Millis} (answer : Answer now pane (.step generation) next)
    (located : Located pane) (detached : pane.content = none) (extent : pane.extent = .zero)
    (stepped : (pane.animation.step generation now).1 = some frame)
    (above : ∀ physics, (pane.animation.step generation now).2.physics = .ok physics →
      Animation.isUnderway physics = true → frame.position < 0) :
    Follows pane generation frame now next := by
  obtain ⟨current, physics, advanced, held, told, rfl⟩ := Animation.step_eq_some stepped
  subst current
  have ahead : (pane.animation.step pane.animation.generation now).2 =
      ⟨.ok advanced, pane.animation.generation⟩ := by
    simp [Animation.step, held, told]
  cases answer with
  | staleStep stale => exact absurd rfl stale
  | noPhysics absent =>
      rw [hasPhysics_of_ok held] at absent
      cases absent
  | spent present ended =>
      rw [held] at present
      cases present
      rw [told] at ended
      cases ended
  | @shown _ _ left y carried present again lands jumped =>
      rw [held] at present
      cases present
      rw [told] at again
      cases again
      -- The extent kept without content ends at the start, and only that end stops a motion.
      rw [detached, extent] at lands
      have short : Animation.isUnderway advanced = true →
          ScrollPhysics.position advanced < Extent.zero.limit :=
        above advanced (by rw [ahead])
      obtain ⟨rfl, rfl⟩ := lands.follows_of_detached short
      have there := (jumpTo_arrives jumped).offset_eq located
      have jumps := jumpTo_jumps jumped
      have shows := jumpTo_shows jumped
      refine ⟨?_, ?_, by rw [ahead, shows.animation], ?_, shows.alarms⟩
      · split <;> exact there
      · split <;> exact ⟨jumps.commands, jumps.events⟩
      · rw [isRunning, shows.animation]
        rfl

/--
As long as no content is attached, nothing fits the offset to an extent.  Layouts,
gestures and polls leave it as it is.  A step takes it where the physics says and
lets the motion go on, if the motion is above the start, is where it is going to
end or has finished.  Content that is attached is fitted to the layout again.
-/
theorem Course.unfitted_while_detached {start pane : Pane σ} {turns : List (Turn σ)}
    (fresh : Fresh start) (course : Course start turns pane) (detached : pane.content = none) :
    (∀ more later, Course pane more later →
      (∀ turn ∈ more, turn.operation.placesContent = false) →
      later.content = none ∧ later.offset = pane.offset ∧ more.flatMap Turn.positions = []) ∧
    (∀ now reached wakeup rest next, Midway pane now reached (wakeup :: rest) →
      reached.wake now wakeup = .ok next →
      next.content = none ∧
      (∀ number, wakeup = .poll number → LeavesPlace reached next) ∧
      ∀ generation, wakeup = .step generation →
        ((reached.animation.step generation now).1 = none → LeavesPlace reached next) ∧
        ∀ frame, (reached.animation.step generation now).1 = some frame →
          (∀ physics, (reached.animation.step generation now).2.physics = .ok physics →
            Animation.isUnderway physics = true → frame.position < 0) →
          Follows reached generation frame now next) ∧
    ∀ content now reply next, pane.perform (.setContent content now) = .ok (reply, next) →
      Refits pane next := by
  have located := course.located fresh
  have extent : pane.extent = .zero := by
    have measured := course.measured fresh
    rw [Measured, detached] at measured
    injection measured with same
    exact same.symm
  refine ⟨fun more later onward others => onward.leavesPlace detached others, ?_, ?_⟩
  · intro now reached wakeup rest next midway woken
    have answer := wake_answer woken
    obtain ⟨content, measured⟩ := midway.layout
    have gone : reached.content = none := content.trans detached
    refine ⟨answer.layout.1.trans gone, ?_, ?_⟩
    · rintro number rfl
      exact answer.poll_leavesPlace gone
    · rintro generation rfl
      refine ⟨answer.step_leavesPlace, ?_⟩
      intro frame stepped above
      exact answer.step_follows (midway.guides.located located) gone (measured.trans extent)
        stepped above
  · intro content now reply next performed
    obtain ⟨_, set, same⟩ := Outcome.map_eq_ok_iff.mp performed
    cases same
    exact setContent_refits located set

/-- A fling over content that is taken away after its first frame, before another layout. -/
def flungAndRemoved (velocity : Px) : List Operation :=
  [.layOut ⟨300, 500, 0, 0⟩ 0, .setContent ⟨300, 1000⟩ 0, .fling velocity 0, .frame 16,
    .removeContent, .layOut ⟨300, 400, 0, 0⟩ 20]

theorem Course.unfitted_while_detached_above_start :
    ∃ (start pane reached next : Pane Stride) (turns : List (Turn Stride)),
      Fresh start ∧ Course start turns pane ∧ pane.content = none ∧
      Midway pane 32 reached [.step 1] ∧ reached.wake 32 (.step 1) = .ok next ∧
      reached.offset = ⟨0, -80⟩ ∧ (reached.animation.step 1 32).1 = some ⟨-160, false⟩ ∧
      next.offset = ⟨0, -160⟩ ∧ next.isRunning = true ∧
      Follows reached 1 ⟨-160, false⟩ 32 next := by
  let start : Pane Stride := create .standard .standard (some (.create 80))
  have fresh : Fresh start := .create _ _ _
  obtain ⟨pane, reached, next, turns, course, midway, woken, same⟩ :=
    exists_lone_answer start (flungAndRemoved (-400)) 32 (.step 1)
      (fun reached next => (reached.content, reached.offset, (reached.animation.step 1 32).1,
        next.offset, next.isRunning))
      (none, ⟨0, -80⟩, some ⟨-160, false⟩, ⟨0, -160⟩, true)
      (by decide +kernel) (by decide +kernel)
  simp only [Prod.mk.injEq] at same
  obtain ⟨gone, before, delivered, there, runs⟩ := same
  have detached : pane.content = none := midway.layout.1 ▸ gone
  obtain ⟨_, frames, _⟩ := Course.unfitted_while_detached fresh course detached
  obtain ⟨_, _, steps⟩ := frames 32 reached (.step 1) [] next midway woken
  have follows := (steps 1 rfl).2 _ delivered fun _ _ _ => by decide
  exact ⟨start, pane, reached, next, turns, fresh, course, detached, midway, woken, before,
    delivered, there, runs, follows⟩

/-- Below the start, a motion underway is stopped there as if content ended at the start. -/
theorem Course.stopped_while_detached :
    ∃ (start pane reached next : Pane Stride) (turns : List (Turn Stride)),
      Fresh start ∧ Course start turns pane ∧ pane.content = none ∧
      Midway pane 32 reached [.step 1] ∧ reached.wake 32 (.step 1) = .ok next ∧
      reached.offset = ⟨0, 40⟩ ∧ (reached.animation.step 1 32).1 = some ⟨80, false⟩ ∧
      next.offset = ⟨0, 0⟩ ∧ next.isRunning = false := by
  let start : Pane Stride := create .standard .standard (some (.create 40))
  have fresh : Fresh start := .create _ _ _
  obtain ⟨pane, reached, next, turns, course, midway, woken, same⟩ :=
    exists_lone_answer start (flungAndRemoved 400) 32 (.step 1)
      (fun reached next => (reached.content, reached.offset, (reached.animation.step 1 32).1,
        next.offset, next.isRunning))
      (none, ⟨0, 40⟩, some ⟨80, false⟩, ⟨0, 0⟩, false)
      (by decide +kernel) (by decide +kernel)
  simp only [Prod.mk.injEq] at same
  obtain ⟨gone, before, delivered, there, stopped⟩ := same
  exact ⟨start, pane, reached, next, turns, fresh, course, midway.layout.1 ▸ gone, midway, woken,
    before, delivered, there, stopped⟩

end Pane

end KineticScroll
