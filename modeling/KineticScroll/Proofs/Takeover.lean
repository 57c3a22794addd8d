import KineticScroll.Proofs.Steps

/-!
# Drags that take over

A drag takes nothing out of the alarms.  It closes the settle sequence that was
open and lets the number of the motion pass, so whatever earlier gestures have
left behind finds nothing to do.  Until the finger lifts or a fling comes, a
frame does no more than take the due alarms away.
-/

namespace KineticScroll

theorem Alarms.mem_pending_of_mem_ring {alarms : Alarms} {wakeup : Wakeup} {now : Millis}
    (rung : wakeup ∈ (alarms.ring now).1) : wakeup ∈ alarms.pending.map Alarm.wakeup := by
  rw [ring_fst] at rung
  obtain ⟨alarm, due, rfl⟩ := List.mem_map.mp rung
  exact List.mem_map.mpr ⟨alarm, (List.mem_filter.mp due).1, rfl⟩

/-- What is left after ringing is what is due later. -/
theorem Alarms.ring_snd_eq (alarms : Alarms) (now : Millis) :
    (alarms.ring now).2 = ⟨alarms.pending.filter fun alarm => now < alarm.due⟩ := by
  have left : (alarms.ring now).2.pending = alarms.pending.filter fun alarm => now < alarm.due := by
    rw [ring_snd]
    refine List.filter_congr fun alarm _ => ?_
    rw [isDue, ← decide_not]
    exact decide_eq_decide.mpr UInt64.not_le
  exact congrArg Alarms.mk left

namespace Pane

variable {σ : Type} [ScrollPhysics σ]

/-- The operations that give the content away again: the finger lifts, or a fling comes. -/
def Operation.endsHold : Operation → Bool
  | .touch finger => finger.phase.lifts
  | .fling _ _ => true
  | _ => false

/-- No settle sequence is open, and every step that is waited for is of a motion that has passed. -/
structure TakenOver (pane : Pane σ) : Prop where
  closed : pane.settling.current = none
  passed : ∀ generation, .step generation ∈ pane.waiting →
    generation < pane.animation.generation

namespace TakenOver

variable {pane next : Pane σ}

omit [ScrollPhysics σ] in
theorem keep (taken : TakenOver pane) (settling : next.settling = pane.settling)
    (animation : next.animation = pane.animation) (alarms : next.alarms = pane.alarms) :
    TakenOver next := by
  refine ⟨settling ▸ taken.closed, ?_⟩
  intro generation waits
  rw [waiting_of_alarms_eq alarms] at waits
  rw [animation]
  exact taken.passed generation waits

/-- Whatever is waited for does nothing when it is answered. -/
theorem wake_eq (taken : TakenOver pane) {wakeup : Wakeup} (waits : wakeup ∈ pane.waiting)
    (alarms : Alarms) (now : Millis) :
    wake now { pane with alarms := alarms } wakeup = .ok { pane with alarms := alarms } := by
  cases wakeup with
  | poll number =>
      refine runPoll_of_ne ?_ now
      rw [taken.closed]
      simp
  | step generation =>
      have stale : generation ≠ ({ pane with alarms := alarms } : Pane σ).animation.generation :=
        UInt64.ne_of_lt (taken.passed generation waits)
      exact runStep_of_ne stale now

/-- So a frame takes the due alarms away and leaves everything else. -/
theorem frame_eq (taken : TakenOver pane) (now : Millis) :
    pane.frame now = .ok { pane with alarms := (pane.alarms.ring now).2 } :=
  Outcome.foldlM_eq_self fun _ rung =>
    taken.wake_eq (Alarms.mem_pending_of_mem_ring rung) _ now

theorem frame (taken : TakenOver pane) {now : Millis} (framed : pane.frame now = .ok next) :
    TakenOver next := by
  rw [taken.frame_eq] at framed
  cases framed
  refine ⟨taken.closed, ?_⟩
  intro generation waits
  have ring := pane.alarms.ring_perm now
  exact taken.passed generation (ring.mem_iff.mp (List.mem_append_right _ waits))

end TakenOver

/-- A drag takes over when the next number has not been given to any step yet. -/
theorem Grabs.takenOver {pane next : Pane σ} (grabs : Grabs pane next)
    (numbered : ∀ generation, .step generation ∈ pane.waiting →
      generation ≤ pane.animation.generation)
    (up : pane.animation.generation ≤ next.animation.generation) : TakenOver next := by
  have following : next.animation.generation = pane.animation.generation + 1 := by
    rw [grabs.animation, Animation.abort_generation]
  refine ⟨?_, ?_⟩
  · rw [grabs.settling]
    rfl
  · intro generation waits
    rw [waiting_of_alarms_eq grabs.alarms] at waits
    have before := numbered generation waits
    grind

/-- Nothing but a lifted finger and a fling takes the content away from the drag. -/
theorem TakenOver.perform {pane next : Pane σ} {operation : Operation} {reply : Reply}
    (taken : TakenOver pane) (holding : operation.endsHold = false)
    (performed : pane.perform operation = .ok (reply, next))
    (up : pane.animation.generation ≤ next.animation.generation) : TakenOver next := by
  -- A touch that does not lift the finger ends no drag, whatever else the change may look like.
  have touches {finger : Touch} (same : operation = .touch finger) : TakenOver next := by
    subst same
    cases performed
    have endsNone : (finger.phase.lifts && pane.state.dragging) = false := by
      have stays : finger.phase.lifts = false := holding
      rw [stays, Bool.false_and]
    have drifts := touch_drifts endsNone (rfl : pane.touch finger = (_, _))
    exact taken.keep drifts.settling drifts.animation drifts.alarms
  cases perform_change performed with
  | drift drifts => exact taken.keep drifts.settling drifts.animation drifts.alarms
  | configure drifts => exact taken.keep drifts.settling drifts.animation drifts.alarms
  | grab _ grabs =>
      exact grabs.takenOver (fun generation waits => UInt64.le_of_lt (taken.passed generation waits)) up
  | drop => exact touches rfl
  | release => exact touches rfl
  | glide => cases holding
  | fling => cases holding
  | frame framed => exact taken.frame framed

/--
From the moment a drag begins until the finger lifts or a fling comes, a frame
at any time succeeds and changes nothing but the alarms, from which it takes
those that are due.  Whatever was waited for before, and whatever else is done
meanwhile, there is nothing left for it to answer.
-/
theorem Course.drag_takes_over [LawfulPhysics σ] {start pane held later : Pane σ}
    {turns more : List (Turn σ)} (fresh : Fresh start) (course : Course start turns pane)
    (grabbed : pane.grab = (true, held)) (onward : Course held more later)
    (holding : ∀ turn ∈ more, turn.operation.endsHold = false)
    (few : motionsNumbered (turns ++ ⟨pane, .grab, held⟩ :: more) < 2 ^ 64) (now : Millis) :
    later.frame now =
      .ok { later with alarms := ⟨later.alarms.pending.filter fun alarm => now < alarm.due⟩ } := by
  have zero : start.animation.generation = 0 := fresh.atRest.generation
  have performed : pane.perform .grab = .ok (.taken true, held) := by
    rw [Pane.perform, grabbed]
  have grabbedCourse := course.turn performed
  rw [List.append_cons] at few
  have fewHeld := Nat.lt_of_le_of_lt (climb_le_append _ _ more) few
  have fewBefore := Nat.lt_of_le_of_lt (climb_le_append _ turns _) fewHeld
  have begun : TakenOver held := by
    have up := course.number_le performed (fun pane => pane.animation.generation) zero fewHeld
    unfold Pane.grab at grabbed
    split at grabbed
    · cases grabbed
      exact pane.takeHold_grabs.takenOver (course.paced fresh fewBefore).numbered up
    · cases grabbed
  have taken : TakenOver later :=
    grabbedCourse.keeps_along onward (fun pane => pane.animation.generation) zero few TakenOver
      begun fun turn among _ performed up taken =>
        taken.perform (holding turn among) performed up
  rw [taken.frame_eq, Alarms.ring_snd_eq]

/-- Two flings, each caught by a drag.  Nothing has been answered when the second drag begins. -/
def flungTwice : List Operation :=
  [.layOut ⟨300, 500, 0, 0⟩ 0, .setContent ⟨300, 1000⟩ 0, .fling 100 5, .grab,
    .touch ⟨.up, 0, 0, 10⟩, .fling 200 12]

/-- A drag that follows the finger, begins again and meets another delay between polls. -/
def draggedOn : List Operation :=
  [.touch ⟨.move, 0, 0, 14⟩, .reportPosition ⟨0, 30⟩ 14, .grab,
    .configure fun settings => { settings with pollDelay := 5 }, .frame 15]

theorem Course.drag_takes_over_flung_twice :
    ∃ (start pane held later : Pane Stride) (turns more : List (Turn Stride)),
      Fresh start ∧ Course start turns pane ∧ pane.grab = (true, held) ∧
      Course held more later ∧ (∀ turn ∈ more, turn.operation.endsHold = false) ∧
      motionsNumbered (turns ++ ⟨pane, .grab, held⟩ :: more) < 2 ^ 64 ∧
      held.waiting = [.step 1, .poll 1, .poll 2, .step 3] ∧
      later.waiting = [.poll 1, .poll 2] ∧ later.offset = ⟨0, 30⟩ ∧
      later.frame 1000 = .ok { later with alarms := ⟨[]⟩ } := by
  let start : Pane Stride :=
    create { Settings.standard with momentumEvents := true } .standard (some (.create 40))
  have fresh : Fresh start := .create _ _ _
  have came : (start.run flungTwice).map (fun pane => (pane.grab.1, pane.grab.2.waiting,
        decide (∀ turn ∈ pane.grab.2.history draggedOn, turn.operation.endsHold = false),
        decide (motionsNumbered (start.history flungTwice ++ ⟨pane, .grab, pane.grab.2⟩ ::
          pane.grab.2.history draggedOn) < 2 ^ 64))) =
      .ok (true, [.step 1, .poll 1, .poll 2, .step 3], true, true) := by decide +kernel
  have went : (start.run flungTwice >>= fun pane => pane.grab.2.run draggedOn).map (fun later =>
      (later.waiting, later.offset, later.alarms.pending.filter fun alarm => 1000 < alarm.due)) =
      .ok ([.poll 1, .poll 2], ⟨0, 30⟩, []) := by decide +kernel
  obtain ⟨pane, ran, same⟩ := Outcome.map_eq_ok_iff.mp came
  simp only [Prod.mk.injEq, decide_eq_true_eq] at same
  obtain ⟨accepted, waits, holding, few⟩ := same
  have grabbed : pane.grab = (true, pane.grab.2) := Prod.ext accepted rfl
  rw [ran] at went
  obtain ⟨later, ranOn, same⟩ := Outcome.map_eq_ok_iff.mp went
  simp only [Prod.mk.injEq] at same
  obtain ⟨waitsOn, offset, left⟩ := same
  have course := course_history ran
  have onward := course_history (ranOn : pane.grab.2.run draggedOn = .ok later)
  have framed := Course.drag_takes_over fresh course grabbed onward holding few 1000
  rw [left] at framed
  exact ⟨start, pane, _, later, _, _, fresh, course, grabbed, onward, holding, few, waits, waitsOn,
    offset, framed⟩

end Pane

end KineticScroll
