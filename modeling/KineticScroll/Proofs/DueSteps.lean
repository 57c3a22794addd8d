import KineticScroll.Proofs.Steps
import KineticScroll.Proofs.Whereabouts

/-!
# Steps come due

The step of the present motion is set for the very time at which the motion has
started or was shown last.  As long as the clock does not go back, every frame
therefore answers it, whatever else is waited for.
-/

namespace KineticScroll

namespace Pane

variable {σ : Type}

/-- The step of the present motion is due by now. -/
def StepsDue (clock : Millis) (pane : Pane σ) : Prop :=
  ∀ due, ⟨due, .step pane.animation.generation⟩ ∈ pane.alarms.pending → due ≤ clock

namespace StepsDue

variable {clock later : Millis} {pane next : Pane σ}

theorem wait (due : StepsDue clock pane) (passed : clock ≤ later) : StepsDue later pane :=
  fun time pending => UInt64.le_trans (due time pending) passed

theorem keep (due : StepsDue clock pane)
    (same : next.animation.generation = pane.animation.generation)
    (set : ∀ time generation, ⟨time, .step generation⟩ ∈ next.alarms.pending →
      ⟨time, .step generation⟩ ∈ pane.alarms.pending) : StepsDue clock next :=
  fun time pending => due time (same ▸ set time _ pending)

/-- A step that is set now is due now. -/
theorem set {alarms : Alarms} {generation : UInt64} {time : Millis}
    (before : ⟨time, .step generation⟩ ∈ alarms.pending → time ≤ clock)
    (pending : ⟨time, .step generation⟩ ∈ (alarms.set (.step generation) clock 0).pending) :
    time ≤ clock := by
  rw [Alarms.pending_set, List.mem_append] at pending
  rcases pending with old | new
  · exact before old
  · simp only [List.mem_singleton, Alarm.mk.injEq, and_true] at new
    rw [new, Millis.later_zero]
    exact UInt64.le_refl clock

theorem of_unused (unused : .step pane.animation.generation ∉ pane.waiting) :
    StepsDue clock pane :=
  fun _ pending => absurd (mem_waiting pending) unused

end StepsDue

theorem Settles.stepsDue {now clock : Millis} {cause : SettleCause} {pane next : Pane σ}
    (settles : Settles pane cause now next) (due : StepsDue clock pane) : StepsDue clock next := by
  cases settles with
  | joins => exact due
  | opens _ opens =>
      have same := congrArg Animation.generation opens.animation
      refine due.keep same fun time generation pending => ?_
      rw [opens.alarms] at pending
      exact Alarms.mem_of_mem_set (by simp) pending

variable [ScrollPhysics σ]

theorem Steers.stepsDue {now : Millis} {pane next : Pane σ} (steers : Steers pane now next)
    (numbered : ∀ generation, .step generation ∈ pane.waiting →
      generation ≤ pane.animation.generation)
    (up : pane.animation.generation ≤ next.animation.generation) (due : StepsDue now pane) :
    StepsDue now next := by
  cases steers with
  | move moves =>
      have same := congrArg Animation.generation moves.animation
      refine due.keep same fun time generation pending => ?_
      rwa [moves.alarms] at pending
  | @start moved _ moves starts =>
      have following := starts.generation
      rw [moves.animation] at following
      have unused := next_step_not_mem numbered following up
      cases starts with
      | intro present started =>
          intro time pending
          refine StepsDue.set (fun old => ?_) pending
          rw [moves.alarms] at old
          exact absurd (mem_waiting old) unused

theorem Answer.stepsDue {now : Millis} {pane next : Pane σ} {wakeup : Wakeup}
    (answer : Answer now pane wakeup next)
    (numbered : ∀ generation, .step generation ∈ pane.waiting →
      generation ≤ pane.animation.generation)
    (up : pane.animation.generation ≤ next.animation.generation) (due : StepsDue now pane) :
    StepsDue now next := by
  cases answer with
  | staleStep => exact due
  | noPhysics => exact due
  | spent => exact due
  | @shown _ _ left _ carried held advanced lands jumped =>
      have shows := jumpTo_shows jumped
      have generation := congrArg Animation.generation shows.animation
      intro time pending
      rw [shows.alarms, generation] at pending
      split at pending
      · exact due time pending
      · exact StepsDue.set (due time) pending
  | stalePoll => exact due
  | moving =>
      exact due.keep rfl fun _ _ pending => Alarms.mem_of_mem_set (by simp) pending
  | @snap sequence steered current quiet paging unsnapped glided =>
      have polledDue : StepsDue now (pane.polled
          { sequence with lastPollWasActive := false, snapped := true }) := due
      have steeredDue := (glideToPage_steers glided).stepsDue numbered up polledDue
      exact steeredDue.keep rfl fun _ _ pending => Alarms.mem_of_mem_set (by simp) pending
  | settled current quiet unpaged placed =>
      have ends := returnToExtent_ends placed
      have same := congrArg Animation.generation ends.animation
      refine due.keep same fun time generation pending => ?_
      rwa [ends.alarms] at pending

theorem Midway.stepsDue [LawfulPhysics σ] {broughtNone : Prop} {now : Millis}
    {pane reached : Pane σ} {rest : List Wakeup} (midway : Midway pane now reached rest)
    (paced : Paced broughtNone pane.waiting pane)
    (up : pane.animation.generation ≤ reached.animation.generation) (due : StepsDue now pane) :
    StepsDue now reached := by
  induction midway with
  | begin =>
      refine due.keep rfl fun time generation pending => ?_
      rw [Alarms.ring_snd] at pending
      exact (List.mem_filter.mp pending).1
  | next midway woken ih =>
      have answer := wake_answer woken
      obtain ⟨upBefore, upNow⟩ := midway.up_before answer up
      have numbered := (midway.paced paced upBefore).numbered
      have waiting := fun generation waits =>
        numbered generation (List.mem_append_right _ waits)
      exact answer.stepsDue waiting upNow (ih upBefore)

/-- Whatever is done now, the step of the present motion is due. -/
theorem Change.stepsDue [LawfulPhysics σ] {broughtNone : Prop} {clock : Millis}
    {pane next : Pane σ} {operation : Operation} (change : Change pane operation next)
    (timed : ∀ now, operation.time? = some now → now = clock)
    (paced : Paced broughtNone pane.waiting pane)
    (up : pane.animation.generation ≤ next.animation.generation) (due : StepsDue clock pane) :
    StepsDue clock next := by
  have same {next : Pane σ} (animation : next.animation = pane.animation)
      (alarms : next.alarms = pane.alarms) : StepsDue clock next := by
    refine due.keep (congrArg Animation.generation animation) fun time generation pending => ?_
    rwa [alarms] at pending
  cases change with
  | drift drifts => exact same drifts.animation drifts.alarms
  | configure drifts => exact same drifts.animation drifts.alarms
  | grab _ grabs =>
      refine .of_unused ?_
      have following : next.animation.generation = pane.animation.generation + 1 := by
        rw [grabs.animation, Animation.abort_generation]
      rw [waiting_of_alarms_eq grabs.alarms]
      exact next_step_not_mem paced.numbered following up
  | drop _ _ drops => exact same drops.animation drops.alarms
  | release _ _ drops settles => exact settles.stepsDue (same drops.animation drops.alarms)
  | @glide _ now _ _ steers =>
      have told := timed now rfl
      subst told
      exact steers.stepsDue paced.numbered up due
  | @fling _ now steered _ _ steers settles =>
      have told := timed now rfl
      subst told
      have steered : StepsDue now steered.flung :=
        steers.stepsDue paced.numbered (settles.animation ▸ up) due
      exact settles.stepsDue steered
  | @frame now _ framed =>
      have told := timed now rfl
      subst told
      exact (frame_midway framed).stepsDue paced up due

end Pane

end KineticScroll
