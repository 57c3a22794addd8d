import KineticScroll.Proofs.Course
import KineticScroll.Proofs.LawfulPhysics

/-!
# The end of the content

A step of a motion shows no position past the end of the content, however the
content has grown or shrunk since the last.  One kind of motion is let through:
physics that stands where it is going to end and has not finished yet.
-/

namespace KineticScroll

/-- A position that has been clamped lies within the extent. -/
theorem Extent.clamp_le {extent : Extent} {position y : Px}
    (clamped : extent.clamp position = .ok y) : y ≤ extent.limit := by
  obtain ⟨span, between, same⟩ := Outcome.map_eq_ok_iff.mp clamped
  unfold Span.between at between
  split at between
  · cases between
    rw [← same]
    exact Span.clamp_le_highest _ position
  · cases between

/-- A movement that is accepted is to the position reported. -/
theorem MovementFilter.report_offset {filter after : MovementFilter} {offset : Offset}
    {now : Millis} {movement : Movement}
    (reported : filter.report offset now = .ok (some movement, after)) :
    movement.offset = offset := by
  by_cases seen : filter.last.map Sighting.offset = some offset
  · rw [MovementFilter.report_of_last_eq seen] at reported
    cases reported
  · have unseen := (MovementFilter.report_of_last_ne seen reported).1
    cases unseen
    rfl

namespace Pane

variable {σ : Type}

/-! ## What a jump sends -/

/-- The one thing sent is a jump to that height, and any event tells of the same position. -/
structure Jumps (pane : Pane σ) (y : Px) (next : Pane σ) : Prop where
  commands : next.commands = pane.commands ++ [.jump ⟨pane.offset.x, y⟩]
  events : ∃ events, next.emissions = pane.emissions ++ events ∧ events.length ≤ 1 ∧
    ∀ emission ∈ events,
      emission.event.kind = .scroll ∧ emission.event.offset = ⟨pane.offset.x, y⟩

theorem jumpTo_jumps {pane next : Pane σ} {y : Px} {now : Millis}
    (jumped : pane.jumpTo y now = .ok next) : Jumps pane y next := by
  obtain ⟨⟨event, moved⟩, reported, same⟩ := Outcome.bind_eq_ok_iff.mp jumped
  cases same
  obtain ⟨⟨movement, movements⟩, filtered, taken⟩ := Outcome.bind_eq_ok_iff.mp reported
  cases movement with
  | none =>
      cases taken
      exact ⟨rfl, [], by simp [push], by simp, by simp⟩
  | some movement =>
      obtain ⟨⟨sent, arrived⟩, placed, same⟩ := Outcome.bind_eq_ok_iff.mp taken
      cases same
      obtain ⟨seen, refreshed, same⟩ := Outcome.bind_eq_ok_iff.mp placed
      cases same
      obtain ⟨culling, rfl⟩ := refreshCulling_eq_ok refreshed
      have target := MovementFilter.report_offset filtered
      refine ⟨rfl, [_], rfl, by simp, ?_⟩
      simp [eventNow, offset, target]

variable [ScrollPhysics σ]

/-! ## The extent in a frame -/

theorem Answer.layout {pane next : Pane σ} {wakeup : Wakeup} {now : Millis}
    (answer : Answer now pane wakeup next) :
    next.content = pane.content ∧ next.extent = pane.extent := by
  cases answer with
  | staleStep => exact ⟨rfl, rfl⟩
  | noPhysics => exact ⟨rfl, rfl⟩
  | spent => exact ⟨rfl, rfl⟩
  | shown held advanced lands jumped =>
      have shows := jumpTo_shows jumped
      exact ⟨shows.content, shows.extent⟩
  | stalePoll => exact ⟨rfl, rfl⟩
  | moving => exact ⟨rfl, rfl⟩
  | snap current quiet paging unsnapped glided => exact (glideToPage_steers glided).layout
  | settled current quiet unpaged placed =>
      have ends := returnToExtent_ends placed
      exact ⟨ends.content, ends.extent⟩

theorem Midway.layout {pane reached : Pane σ} {rest : List Wakeup} {now : Millis}
    (midway : Midway pane now reached rest) :
    reached.content = pane.content ∧ reached.extent = pane.extent := by
  induction midway with
  | begin => exact ⟨rfl, rfl⟩
  | next _ woken ih =>
      obtain ⟨content, extent⟩ := (wake_answer woken).layout
      exact ⟨content.trans ih.1, extent.trans ih.2⟩

/-! ## Steps -/

/-- Physics that has not finished, and is at this position, where it is going to end. -/
structure StandsAt (physics : σ) (y : Px) : Prop where
  unfinished : ScrollPhysics.isIdle physics = false
  position : ScrollPhysics.position physics = y
  destination : ScrollPhysics.destination physics = y

theorem Lands.within_or_stands {extent : Extent} {advanced left : σ} {y : Px}
    (lands : Lands extent true advanced y left) : y ≤ extent.limit ∨ StandsAt left y := by
  cases lands with
  | stopped => exact .inl (Int32.le_refl _)
  | rests _ _ clamped => exact .inl (Extent.clamp_le clamped)
  | follows unfinished short =>
      have running : ScrollPhysics.isIdle advanced = false := by simpa using unfinished
      by_cases arrived : ScrollPhysics.position advanced = ScrollPhysics.destination advanced
      · exact .inr ⟨running, rfl, arrived.symm⟩
      · have underway : Animation.isUnderway advanced = true := by
          simp [Animation.isUnderway, running, arrived]
        have before : ¬ extent.limit ≤ ScrollPhysics.position advanced := by
          intro past
          exact short ⟨underway, past⟩
        rw [Int32.not_le] at before
        exact .inl (Int32.le_of_lt before)

/--
A step in the midst of a frame sends nothing, or else jumps to one position.
However the layout has changed before, the position lies within the extent
unless the physics stands there without having finished.
-/
theorem Midway.step_within_or_stands {pane reached next : Pane σ} {rest : List Wakeup}
    {now : Millis} {generation : UInt64}
    (midway : Midway pane now reached (.step generation :: rest))
    (attached : pane.content.isSome = true)
    (stepped : reached.wake now (.step generation) = .ok next) :
    next.extent = pane.extent ∧
    ((next.commands = reached.commands ∧ next.emissions = reached.emissions) ∨
      ∃ y, Jumps reached y next ∧
        (y ≤ next.extent.limit ∨
          ∃ physics, next.animation.physics = .ok physics ∧ StandsAt physics y)) := by
  obtain ⟨content, extent⟩ := midway.layout
  have answer := wake_answer stepped
  have same := answer.layout.2
  refine ⟨same.trans extent, ?_⟩
  rw [same]
  cases answer with
  | staleStep => exact .inl ⟨rfl, rfl⟩
  | noPhysics => exact .inl ⟨rfl, rfl⟩
  | spent => exact .inl ⟨rfl, rfl⟩
  | @shown _ _ left y carried held advanced lands jumped =>
      right
      have jumps := jumpTo_jumps jumped
      have present : carried.animation.physics = .ok left :=
        congrArg Animation.physics (jumpTo_moves jumped).animation
      rw [content, attached] at lands
      have placed : y ≤ reached.extent.limit ∨
          ∃ physics, carried.animation.physics = .ok physics ∧ StandsAt physics y := by
        rcases lands.within_or_stands with within | stands
        · exact .inl within
        · exact .inr ⟨left, present, stands⟩
      refine ⟨y, ?_⟩
      split
      · exact ⟨⟨jumps.commands, jumps.events⟩, placed⟩
      · exact ⟨⟨jumps.commands, jumps.events⟩, placed⟩

/-! ## Flings past the end -/

/-- A frame with one alarm due is the answer to that alarm. -/
theorem frame_eq_wake {pane : Pane σ} {wakeup : Wakeup} {now : Millis}
    (due : (pane.alarms.ring now).1 = [wakeup]) :
    pane.frame now = wake now { pane with alarms := (pane.alarms.ring now).2 } wakeup := by
  unfold frame
  dsimp only
  rw [due, List.foldlM_cons]
  exact bind_pure _

/-- What a frame with one alarm due shows of the pane before and after the answer. -/
theorem exists_lone_answer {α : Type} (start : Pane σ) (operations : List Operation)
    (now : Millis) (wakeup : Wakeup) (view : Pane σ → Pane σ → α) (seen : α)
    (due : (start.run operations).map (fun pane => (pane.alarms.ring now).1) = .ok [wakeup])
    (shown : (start.run operations >>= fun pane =>
        (pane.frame now).map (view { pane with alarms := (pane.alarms.ring now).2 })) =
      .ok seen) :
    ∃ (pane reached next : Pane σ) (turns : List (Turn σ)),
      Course start turns pane ∧ Midway pane now reached [wakeup] ∧
      reached.wake now wakeup = .ok next ∧ view reached next = seen := by
  obtain ⟨pane, ran, rung⟩ := Outcome.map_eq_ok_iff.mp due
  rw [ran] at shown
  obtain ⟨next, framed, same⟩ := Outcome.map_eq_ok_iff.mp shown
  have midway : Midway pane now _ _ := .begin
  rw [rung] at midway
  rw [frame_eq_wake rung] at framed
  exact ⟨pane, _, next, _, course_history ran, midway, framed, same⟩

/-- A fling over content that can be moved by a hundred pixels. -/
def flingFar (velocity : Px) : List Operation :=
  [.layOut ⟨300, 500, 0, 0⟩ 0, .setContent ⟨300, 600⟩ 0, .fling velocity 0]

/-- What such a fling comes to in its first frame, on strides of two hundred pixels. -/
theorem exists_flingFar {velocity y : Px} {start : Pane Stride}
    (due : (start.run (flingFar velocity)).map (fun pane => (pane.alarms.ring 16).1) =
      .ok [.step 1])
    (shown : (start.run (flingFar velocity) >>= fun pane => (pane.frame 16).map fun next =>
        (pane.content.isSome, pane.commands, next.commands,
          next.emissions.map fun emission => emission.event.offset, next.extent.limit)) =
      .ok (true, [], [.jump ⟨0, y⟩], [⟨0, y⟩], 100)) :
    ∃ (pane reached next : Pane Stride) (turns : List (Turn Stride)),
      Course start turns pane ∧ pane.content.isSome = true ∧
      Midway pane 16 reached [.step 1] ∧ reached.wake 16 (.step 1) = .ok next ∧
      reached.commands = [] ∧ next.commands = [.jump ⟨0, y⟩] ∧
      next.emissions.map (fun emission => emission.event.offset) = [⟨0, y⟩] ∧
      next.extent.limit = 100 := by
  obtain ⟨pane, reached, next, turns, course, midway, woken, same⟩ :=
    exists_lone_answer start (flingFar velocity) 16 (.step 1)
      (fun reached next => (reached.content.isSome, reached.commands, next.commands,
        next.emissions.map fun emission => emission.event.offset, next.extent.limit))
      _ due shown
  simp only [Prod.mk.injEq] at same
  obtain ⟨present, before, after, events, limit⟩ := same
  have attached : pane.content.isSome = true := midway.layout.1 ▸ present
  exact ⟨pane, reached, next, turns, course, attached, midway, woken, before, after, events, limit⟩

theorem Midway.step_stopped_at_end :
    ∃ pane reached next : Pane Stride,
      Midway pane 16 reached [.step 1] ∧ pane.content.isSome = true ∧
      reached.wake 16 (.step 1) = .ok next ∧
      next.commands = [.jump ⟨0, 100⟩] ∧ next.extent.limit = 100 ∧
      next.extent = pane.extent ∧
      ((next.commands = reached.commands ∧ next.emissions = reached.emissions) ∨
        ∃ y, Jumps reached y next ∧
          (y ≤ next.extent.limit ∨
            ∃ physics, next.animation.physics = .ok physics ∧ StandsAt physics y)) := by
  let start : Pane Stride := create .standard .standard (some (.create 200))
  obtain ⟨pane, reached, next, _, _, attached, midway, stepped, _, after, _, limit⟩ :=
    @exists_flingFar 5000 100 start (by decide +kernel) (by decide +kernel)
  obtain ⟨kept, sent⟩ := Midway.step_within_or_stands midway attached stepped
  exact ⟨pane, reached, next, midway, attached, stepped, after, limit, kept, sent⟩

/-- Physics that keeps all promises shows a position past the end while it stands there. -/
theorem Midway.step_shown_past_end :
    LawfulPhysics Stride ∧
    (∀ stride : Stride,
      ScrollPhysics.position (ScrollPhysics.halt stride) = ScrollPhysics.position stride) ∧
    (∀ stride : Stride, ScrollPhysics.keepsBounds stride = true) ∧
    ∃ (start pane reached next : Pane Stride) (turns : List (Turn Stride)),
      Fresh start ∧ Course start turns pane ∧ pane.content.isSome = true ∧
      Midway pane 16 reached [.step 1] ∧ reached.wake 16 (.step 1) = .ok next ∧
      next.commands = reached.commands ++ [.jump ⟨0, 120⟩] ∧
      next.emissions.map (fun emission => emission.event.offset) = [⟨0, 120⟩] ∧
      ¬ (120 : Px) ≤ next.extent.limit := by
  let start : Pane Stride := create .standard .standard (some (.create 200))
  have fresh : Fresh start := .create _ _ _
  obtain ⟨pane, reached, next, turns, course, attached, midway, stepped, before, after, events,
    limit⟩ := @exists_flingFar 120 120 start (by decide +kernel) (by decide +kernel)
  refine ⟨inferInstance, fun _ => rfl, fun _ => rfl, start, pane, reached, next, turns, fresh,
    course, attached, midway, stepped, ?_, events, ?_⟩
  · rw [before, after]
    rfl
  · rw [limit]
    decide

end Pane

end KineticScroll
