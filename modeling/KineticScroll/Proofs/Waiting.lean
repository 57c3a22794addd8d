import KineticScroll.Proofs.Answer

/-!
# What a pane waits for

The wake-ups that a pane waits for, whatever their times.  A frame takes some of
them out of the alarms and answers them one by one; those still to be answered
and those left in the alarms are together what was waited for before.
-/

namespace KineticScroll

/-- Ringing loses no wake-up and adds none. -/
theorem Alarms.ring_perm (alarms : Alarms) (now : Millis) :
    ((alarms.ring now).1 ++ (alarms.ring now).2.pending.map Alarm.wakeup).Perm
      (alarms.pending.map Alarm.wakeup) := by
  rw [ring_fst, ring_snd, ← List.map_append]
  exact (List.filter_append_perm (isDue now) alarms.pending).map Alarm.wakeup

theorem Alarms.mem_ring {alarms : Alarms} {wakeup : Wakeup} {now due : Millis}
    (pending : ⟨due, wakeup⟩ ∈ alarms.pending) (come : due ≤ now) :
    wakeup ∈ (alarms.ring now).1 := by
  rw [ring_fst]
  refine List.mem_map.mpr ⟨_, List.mem_filter.mpr ⟨pending, ?_⟩, rfl⟩
  simpa [isDue] using come

/-- An alarm that is set for one wake-up adds none for another. -/
theorem Alarms.mem_of_mem_set {alarms : Alarms} {wakeup other : Wakeup} {now delay due : Millis}
    (differ : other ≠ wakeup)
    (pending : ⟨due, other⟩ ∈ (alarms.set wakeup now delay).pending) :
    ⟨due, other⟩ ∈ alarms.pending := by
  rw [pending_set, List.mem_append] at pending
  rcases pending with before | added
  · exact before
  · simp [differ] at added

namespace Pane

variable {σ : Type}

def waiting (pane : Pane σ) : List Wakeup :=
  pane.alarms.pending.map Alarm.wakeup

theorem mem_waiting {pane : Pane σ} {due : Millis} {wakeup : Wakeup}
    (pending : ⟨due, wakeup⟩ ∈ pane.alarms.pending) : wakeup ∈ pane.waiting :=
  List.mem_map.mpr ⟨_, pending, rfl⟩

theorem waiting_of_alarms_eq {pane next : Pane σ} (same : next.alarms = pane.alarms) :
    next.waiting = pane.waiting := by
  rw [waiting, same, waiting]

theorem waiting_of_alarms_set {pane next : Pane σ} {wakeup : Wakeup} {now delay : Millis}
    (set : next.alarms = pane.alarms.set wakeup now delay) :
    next.waiting = pane.waiting ++ [wakeup] := by
  rw [waiting, set, Alarms.pending_set, List.map_append]
  rfl

theorem awaitsFrame_of_mem {pane : Pane σ} {wakeup : Wakeup} (waits : wakeup ∈ pane.waiting) :
    pane.awaitsFrame = true := by
  obtain ⟨alarm, pending, _⟩ := List.mem_map.mp waits
  have somePending : pane.alarms.pending ≠ [] := List.ne_nil_of_mem pending
  simpa [awaitsFrame, Alarms.isEmpty] using somePending

variable [ScrollPhysics σ]

theorem Starts.generation {pane next : Pane σ} {now : Millis} (starts : Starts pane now next) :
    next.animation.generation = pane.animation.generation + 1 := by
  cases starts
  rfl

theorem Starts.waiting {pane next : Pane σ} {now : Millis} (starts : Starts pane now next) :
    next.waiting = pane.waiting ++ [.step next.animation.generation] := by
  cases starts
  exact waiting_of_alarms_set rfl

theorem Shows.waiting {pane next : Pane σ} {left : σ} {now : Millis}
    (shows : Shows pane left now next) : next.waiting = pane.waiting ++
      if ScrollPhysics.isIdle left then [] else [.step pane.animation.generation] := by
  have alarms := shows.alarms
  split at alarms
  · next idle => rw [waiting_of_alarms_eq alarms, if_pos idle, List.append_nil]
  · next running => rw [waiting_of_alarms_set alarms, if_neg running]

/-- Steering waits for steps alone. -/
theorem Steers.count_poll {pane next : Pane σ} {now : Millis} (steers : Steers pane now next)
    (number : UInt64) : next.waiting.count (.poll number) = pane.waiting.count (.poll number) := by
  cases steers with
  | move moves => rw [waiting_of_alarms_eq moves.alarms]
  | start moves starts =>
      rw [starts.waiting, waiting_of_alarms_eq moves.alarms]
      simp

end Pane

end KineticScroll
