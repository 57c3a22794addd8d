import KineticScroll.Proofs.Course
import KineticScroll.Proofs.LawfulPhysics
import KineticScroll.Proofs.Waiting

/-!
# Steps

While a motion runs, exactly one step of it is waited for, and no frame advances
the physics twice.  A motion that starts and a drag that begins take the next
number; the steps of earlier motions are left behind and do nothing.  A frame
gives out one number at most, since a settle sequence snaps only once.  All this
is said of motions that the pane has started.  Physics that its host has started
before is none of its business: no step is set for it.
-/

namespace KineticScroll

/-- Physics that has been halted runs no more. -/
theorem Animation.isRunning_abort {σ : Type} [ScrollPhysics σ] [LawfulPhysics σ]
    (animation : Animation σ) : animation.abort.isRunning = false := by
  unfold abort isRunning
  cases animation.physics with
  | error gap => rfl
  | ok physics =>
      simp only [Except.map]
      split
      · next idle => simp [idle]
      · simp [LawfulPhysics.isIdle_halt]

namespace Pane

variable {σ : Type} [ScrollPhysics σ]

/--
Every step to be answered is of a motion numbered so far, at most one is of the
present motion, and exactly one while it runs.  Motion that the physics has
brought along is left out unless it has brought none: no step is set for it.
-/
structure Paced (broughtNone : Prop) (queue : List Wakeup) (pane : Pane σ) : Prop where
  numbered : ∀ generation, .step generation ∈ queue → generation ≤ pane.animation.generation
  once : queue.count (.step pane.animation.generation) ≤ 1
  running : broughtNone ∨ pane.animation.generation ≠ 0 → pane.isRunning = true →
    queue.count (.step pane.animation.generation) = 1

theorem isRunning_eq_of_ok {pane : Pane σ} {physics : σ}
    (present : pane.animation.physics = .ok physics) :
    pane.isRunning = !ScrollPhysics.isIdle physics := by
  rw [isRunning, Animation.isRunning, present]

theorem isRunning_eq_of_animation_eq {pane next : Pane σ}
    (same : next.animation = pane.animation) : next.isRunning = pane.isRunning := by
  rw [isRunning, same, isRunning]

/-- The next number is new to the queue, unless the numbers have wrapped round. -/
theorem next_step_not_mem {queue : List Wakeup} {last generation : UInt64}
    (numbered : ∀ generation, .step generation ∈ queue → generation ≤ last)
    (following : generation = last + 1) (up : last ≤ generation) : .step generation ∉ queue := by
  intro waits
  have before := numbered _ waits
  grind

namespace Paced

variable {broughtNone : Prop} {queue after : List Wakeup} {pane next : Pane σ}

theorem keep (paced : Paced broughtNone queue pane) (same : next.animation = pane.animation)
    (steps : ∀ generation, after.count (.step generation) = queue.count (.step generation)) :
    Paced broughtNone after next := by
  refine ⟨?_, ?_, ?_⟩
  · intro generation waits
    rw [same]
    refine paced.numbered generation ?_
    rw [← List.count_pos_iff, ← steps]
    exact List.count_pos_iff.mpr waits
  · rw [same, steps]
    exact paced.once
  · rw [same, steps, isRunning_eq_of_animation_eq same]
    exact paced.running

theorem keep_of_eq (paced : Paced broughtNone pane.waiting pane)
    (animation : next.animation = pane.animation) (alarms : next.alarms = pane.alarms) :
    Paced broughtNone next.waiting next := by
  rw [waiting_of_alarms_eq alarms]
  exact paced.keep animation fun _ => rfl

/-- Steps may be lost while nothing runs. -/
theorem lose (paced : Paced broughtNone queue pane)
    (same : next.animation.generation = pane.animation.generation)
    (idle : next.isRunning = false)
    (steps : ∀ generation, after.count (.step generation) ≤ queue.count (.step generation)) :
    Paced broughtNone after next := by
  refine ⟨?_, ?_, by simp [idle]⟩
  · intro generation waits
    rw [same]
    refine paced.numbered generation ?_
    have counted := List.count_pos_iff.mpr waits
    exact List.count_pos_iff.mp (Nat.lt_of_lt_of_le counted (steps generation))
  · rw [same]
    exact Nat.le_trans (steps _) paced.once

/-- The step of the present motion may be set again. -/
theorem again (paced : Paced broughtNone (.step pane.animation.generation :: queue) pane)
    (same : next.animation.generation = pane.animation.generation)
    (steps : after.Perm (.step pane.animation.generation :: queue)) :
    Paced broughtNone after next := by
  have exactlyOne : after.count (.step next.animation.generation) = 1 := by
    have once := paced.once
    rw [same, steps.count_eq]
    rw [List.count_cons_self] at once ⊢
    omega
  refine ⟨?_, Nat.le_of_eq exactlyOne, fun _ _ => exactlyOne⟩
  intro generation waits
  rw [same]
  exact paced.numbered generation (steps.mem_iff.mp waits)

theorem abort [LawfulPhysics σ] (paced : Paced broughtNone queue pane)
    (aborted : next.animation = pane.animation.abort)
    (up : pane.animation.generation ≤ next.animation.generation) :
    Paced broughtNone queue next := by
  have following : next.animation.generation = pane.animation.generation + 1 := by
    rw [aborted, Animation.abort_generation]
  have unused := next_step_not_mem paced.numbered following up
  have idle : next.isRunning = false := by rw [isRunning, aborted, Animation.isRunning_abort]
  refine ⟨?_, ?_, by simp [idle]⟩
  · intro generation waits
    exact UInt64.le_trans (paced.numbered generation waits) up
  · rw [List.count_eq_zero.mpr unused]
    exact Nat.zero_le 1

theorem start {now : Millis} {rest : List Wakeup}
    (paced : Paced broughtNone (rest ++ pane.waiting) pane) (starts : Starts pane now next)
    (up : pane.animation.generation ≤ next.animation.generation) :
    Paced broughtNone (rest ++ next.waiting) next := by
  have unused := next_step_not_mem paced.numbered starts.generation up
  have exactlyOne :
      (rest ++ next.waiting).count (.step next.animation.generation) = 1 := by
    rw [starts.waiting, ← List.append_assoc, List.count_append, List.count_eq_zero.mpr unused]
    simp
  refine ⟨?_, Nat.le_of_eq exactlyOne, fun _ _ => exactlyOne⟩
  intro generation waits
  rw [starts.waiting, ← List.append_assoc, List.mem_append] at waits
  rcases waits with earlier | new
  · exact UInt64.le_trans (paced.numbered generation earlier) up
  · simp only [List.mem_singleton, Wakeup.step.injEq] at new
    rw [new]
    exact UInt64.le_refl _

end Paced

theorem Steers.paced {broughtNone : Prop} {pane next : Pane σ} {now : Millis}
    (rest : List Wakeup) (steers : Steers pane now next)
    (paced : Paced broughtNone (rest ++ pane.waiting) pane)
    (up : pane.animation.generation ≤ next.animation.generation) :
    Paced broughtNone (rest ++ next.waiting) next := by
  cases steers with
  | move moves =>
      exact paced.keep moves.animation fun _ => by rw [waiting_of_alarms_eq moves.alarms]
  | @start moved _ moves starts =>
      have movedPaced : Paced broughtNone (rest ++ moved.waiting) moved :=
        paced.keep moves.animation fun _ => by rw [waiting_of_alarms_eq moves.alarms]
      exact movedPaced.start starts (moves.animation ▸ up)

theorem Settles.paced {broughtNone : Prop} {pane next : Pane σ} {cause : SettleCause}
    {now : Millis} (settles : Settles pane cause now next)
    (paced : Paced broughtNone pane.waiting pane) : Paced broughtNone next.waiting next := by
  cases settles with
  | joins => exact paced
  | opens _ opens =>
      refine paced.keep opens.animation fun generation => ?_
      rw [waiting_of_alarms_set opens.alarms]
      simp

/-! ## Numbers given out in a frame -/

/-- Whether the settle sequence that is open has not asked for a snap yet. -/
def maySnap (pane : Pane σ) : Bool :=
  pane.settling.current.any fun sequence => !sequence.snapped

/-- Answering an alarm gives out a number at the cost of the snap that was left. -/
theorem Answer.generation {pane next : Pane σ} {wakeup : Wakeup} {now : Millis}
    (answer : Answer now pane wakeup next) :
    (next.animation.generation = pane.animation.generation ∧
      (next.maySnap = true → pane.maySnap = true)) ∨
    (next.animation.generation = pane.animation.generation + 1 ∧
      pane.maySnap = true ∧ next.maySnap = false) := by
  cases answer with
  | staleStep => exact .inl ⟨rfl, id⟩
  | noPhysics => exact .inl ⟨rfl, id⟩
  | spent => exact .inl ⟨rfl, id⟩
  | shown held advanced lands jumped =>
      have shows := jumpTo_shows jumped
      refine .inl ⟨by rw [shows.animation], ?_⟩
      rw [maySnap, shows.settling]
      exact id
  | stalePoll => exact .inl ⟨rfl, id⟩
  | moving current =>
      refine .inl ⟨rfl, ?_⟩
      simp [maySnap, schedulePoll, setAlarm, polled, current]
  | @snap sequence steered current quiet paging unsnapped glided =>
      have steers := glideToPage_steers glided
      have could : pane.maySnap = true := by simp [maySnap, current, unsnapped]
      have cannot : steered.maySnap = false := by
        rw [maySnap, steers.carries.settling]
        simp [polled]
      cases steers with
      | move moves =>
          exact .inl ⟨congrArg Animation.generation moves.animation, fun _ => could⟩
      | start moves starts =>
          refine .inr ⟨?_, could, cannot⟩
          exact starts.generation.trans (congrArg (·.generation + 1) moves.animation)
  | settled current quiet unpaged placed =>
      have ends := returnToExtent_ends placed
      refine .inl ⟨congrArg Animation.generation ends.animation, ?_⟩
      simp [maySnap, ends.settling, Settling.close]

theorem Midway.generation {pane reached : Pane σ} {rest : List Wakeup} {now : Millis}
    (midway : Midway pane now reached rest) :
    reached.animation.generation = pane.animation.generation ∨
    (reached.animation.generation = pane.animation.generation + 1 ∧ reached.maySnap = false) := by
  induction midway with
  | begin => exact .inl rfl
  | next _ woken ih =>
      rcases (wake_answer woken).generation with ⟨kept, snaps⟩ | ⟨given, could, cannot⟩
      · rcases ih with first | ⟨second, spent⟩
        · exact .inl (kept.trans first)
        · refine .inr ⟨kept.trans second, ?_⟩
          simpa [spent] using snaps
      · rcases ih with first | ⟨_, spent⟩
        · exact .inr ⟨by rw [given, first], cannot⟩
        · rw [spent] at could
          cases could

theorem Steers.generation {pane next : Pane σ} {now : Millis} (steers : Steers pane now next) :
    next.animation.generation = pane.animation.generation ∨
      next.animation.generation = pane.animation.generation + 1 := by
  cases steers with
  | move moves => exact .inl (congrArg Animation.generation moves.animation)
  | start moves starts =>
      rw [← moves.animation]
      exact .inr starts.generation

/-- An operation gives out one number at most. -/
theorem Change.generation {pane next : Pane σ} {operation : Operation}
    (change : Change pane operation next) :
    next.animation.generation = pane.animation.generation ∨
      next.animation.generation = pane.animation.generation + 1 := by
  cases change with
  | drift drifts => exact .inl (congrArg Animation.generation drifts.animation)
  | configure drifts => exact .inl (congrArg Animation.generation drifts.animation)
  | grab _ grabs =>
      rw [grabs.animation]
      exact .inr (Animation.abort_generation _)
  | drop _ _ drops => exact .inl (congrArg Animation.generation drops.animation)
  | release _ _ drops settles =>
      exact .inl (congrArg Animation.generation (settles.animation.trans drops.animation))
  | glide _ steers => exact steers.generation
  | fling _ steers settles =>
      rw [settles.animation]
      exact steers.generation
  | frame framed => exact (frame_midway framed).generation.imp_right And.left

theorem Course.motionsNumbered_le_length {start pane : Pane σ} {turns : List (Turn σ)}
    (course : Course start turns pane) : motionsNumbered turns ≤ turns.length :=
  course.climb_le_length (fun pane => pane.animation.generation) Change.generation

/-- A frame whose numbers have not wrapped round had not before either. -/
theorem Midway.up_before {pane reached next : Pane σ} {wakeup : Wakeup} {rest : List Wakeup}
    {now : Millis} (midway : Midway pane now reached (wakeup :: rest))
    (answer : Answer now reached wakeup next)
    (up : pane.animation.generation ≤ next.animation.generation) :
    pane.animation.generation ≤ reached.animation.generation ∧
      reached.animation.generation ≤ next.animation.generation := by
  rcases midway.generation with first | ⟨second, spent⟩
  · rw [first]
    exact ⟨UInt64.le_refl _, up⟩
  · rcases answer.generation with ⟨kept, _⟩ | ⟨_, could, _⟩
    · rw [kept] at up ⊢
      exact ⟨up, UInt64.le_refl _⟩
    · rw [spent] at could
      cases could

theorem Shows.paced {broughtNone : Prop} {pane next : Pane σ} {left : σ} {rest : List Wakeup}
    {now : Millis} (shows : Shows pane left now next)
    (paced : Paced broughtNone (.step pane.animation.generation :: (rest ++ pane.waiting)) pane) :
    Paced broughtNone (rest ++ next.waiting) next := by
  have kept : next.animation.generation = pane.animation.generation := by rw [shows.animation]
  have waits := shows.waiting
  split at waits
  · next idle =>
      have runs := isRunning_eq_of_ok (congrArg Animation.physics shows.animation)
      refine paced.lose kept (by rw [runs, idle]; rfl) fun generation => ?_
      rw [waits, List.append_nil]
      exact List.count_le_count_cons
  · refine paced.again kept ?_
    rw [waits, ← List.append_assoc]
    exact List.perm_append_singleton _ _

theorem Answer.paced [LawfulPhysics σ] {broughtNone : Prop} {pane next : Pane σ}
    {wakeup : Wakeup} {rest : List Wakeup} {now : Millis} (answer : Answer now pane wakeup next)
    (paced : Paced broughtNone (wakeup :: (rest ++ pane.waiting)) pane)
    (up : pane.animation.generation ≤ next.animation.generation) :
    Paced broughtNone (rest ++ next.waiting) next := by
  cases answer with
  | @staleStep generation stale =>
      refine ⟨?_, ?_, ?_⟩
      · intro generation waits
        exact paced.numbered generation (List.mem_cons_of_mem _ waits)
      · have once := paced.once
        rwa [List.count_cons_of_ne (by simpa using stale)] at once
      · have running := paced.running
        rwa [List.count_cons_of_ne (by simpa using stale)] at running
  | noPhysics absent =>
      have still := Animation.isRunning_of_absent absent
      exact paced.lose rfl still fun _ => List.count_le_count_cons
  | spent held advanced =>
      refine paced.lose rfl ?_ fun _ => List.count_le_count_cons
      rw [isRunning_eq_of_ok rfl, LawfulPhysics.isIdle_advanced advanced]
      rfl
  | shown held advanced lands jumped => exact (jumpTo_shows jumped).paced paced
  | stalePoll => exact paced.keep rfl (by simp)
  | moving current =>
      refine paced.keep rfl fun generation => ?_
      rw [schedulePoll, waiting_of_alarms_set rfl]
      simp [polled, waiting]
  | @snap sequence steered current quiet paging unsnapped glided =>
      have polledPaced looked :
          Paced broughtNone (rest ++ (pane.polled looked).waiting) (pane.polled looked) :=
        paced.keep rfl (by simp [waiting, polled])
      have steeredPaced := (glideToPage_steers glided).paced rest (polledPaced _) up
      refine steeredPaced.keep rfl fun generation => ?_
      rw [schedulePoll, waiting_of_alarms_set rfl]
      simp
  | settled current quiet unpaged placed =>
      have ends := returnToExtent_ends placed
      refine paced.keep ends.animation fun generation => ?_
      rw [waiting_of_alarms_eq ends.alarms]
      simp

theorem Midway.paced [LawfulPhysics σ] {broughtNone : Prop} {pane reached : Pane σ}
    {rest : List Wakeup} {now : Millis} (midway : Midway pane now reached rest)
    (paced : Paced broughtNone pane.waiting pane)
    (up : pane.animation.generation ≤ reached.animation.generation) :
    Paced broughtNone (rest ++ reached.waiting) reached := by
  induction midway with
  | begin => exact paced.keep rfl fun _ => (pane.alarms.ring_perm now).count_eq _
  | next midway woken ih =>
      have answer := wake_answer woken
      obtain ⟨upBefore, upNow⟩ := midway.up_before answer up
      exact answer.paced (ih upBefore) upNow

/-- Whatever is done, steps stay paced until the numbers of the motions wrap round. -/
theorem Change.paced [LawfulPhysics σ] {broughtNone : Prop} {pane next : Pane σ}
    {operation : Operation} (change : Change pane operation next)
    (paced : Paced broughtNone pane.waiting pane)
    (up : pane.animation.generation ≤ next.animation.generation) :
    Paced broughtNone next.waiting next := by
  cases change with
  | drift drifts => exact paced.keep_of_eq drifts.animation drifts.alarms
  | configure drifts => exact paced.keep_of_eq drifts.animation drifts.alarms
  | grab _ grabs =>
      rw [waiting_of_alarms_eq grabs.alarms]
      exact paced.abort grabs.animation up
  | drop _ _ drops => exact paced.keep_of_eq drops.animation drops.alarms
  | release _ _ drops settles =>
      exact settles.paced (paced.keep_of_eq drops.animation drops.alarms)
  | glide _ steers => exact steers.paced [] paced up
  | @fling _ _ steered _ _ steers settles =>
      have same : next.animation = steered.animation := settles.animation
      have steeredPaced := steers.paced [] paced (same ▸ up)
      exact settles.paced (steeredPaced.keep_of_eq rfl rfl)
  | frame framed =>
      have done := (frame_midway framed).paced paced up
      rwa [List.nil_append] at done

/-! ## How often the physics is advanced -/

/-- A number kept in the physics that goes up by one with every advance and never otherwise. -/
structure CountsAdvances (calls : σ → Nat) : Prop where
  fling {physics flung : σ} {launch : Launch} {now : Millis} :
    ScrollPhysics.fling physics launch now = .ok flung → calls flung = calls physics
  glide (physics : σ) (source distance : Px) (now : Millis) :
    calls (ScrollPhysics.glide physics source distance now) = calls physics
  advance (physics : σ) (now : Millis) :
    calls (ScrollPhysics.advance physics now).2 = calls physics + 1
  halt (physics : σ) : calls (ScrollPhysics.halt physics) = calls physics

def advances (calls : σ → Nat) (pane : Pane σ) : Nat :=
  match pane.animation.physics with
  | .ok physics => calls physics
  | .error _ => 0

omit [ScrollPhysics σ] in
theorem advances_of_animation_eq (calls : σ → Nat) {pane next : Pane σ}
    (same : next.animation = pane.animation) : next.advances calls = pane.advances calls := by
  rw [advances, same, advances]

omit [ScrollPhysics σ] in
theorem advances_of_ok (calls : σ → Nat) {pane : Pane σ} {physics : σ}
    (present : pane.animation.physics = .ok physics) : pane.advances calls = calls physics := by
  rw [advances, present]

theorem CountsAdvances.starts {calls : σ → Nat} (counts : CountsAdvances calls)
    {pane next : Pane σ} {now : Millis} (starts : Starts pane now next) :
    next.advances calls = pane.advances calls := by
  cases starts with
  | intro present started =>
      rw [advances_of_ok calls present, advances_of_ok calls rfl]
      cases started with
      | fling flung => exact counts.fling flung
      | glide source distance => exact counts.glide _ source distance now

theorem CountsAdvances.lands {calls : σ → Nat} (counts : CountsAdvances calls) {extent : Extent}
    {attached : Bool} {advanced left : σ} {y : Px}
    (lands : Lands extent attached advanced y left) : calls left = calls advanced := by
  cases lands with
  | stopped => exact counts.halt advanced
  | rests => rfl
  | follows => rfl

/-- Steps of the present motion that the frame still has to answer are as good as advances. -/
theorem Answer.advances {calls : σ → Nat} (counts : CountsAdvances calls) {pane next : Pane σ}
    {wakeup : Wakeup} {rest : List Wakeup} {now : Millis} (answer : Answer now pane wakeup next)
    (numbered : ∀ generation, .step generation ∈ rest → generation ≤ pane.animation.generation)
    (up : pane.animation.generation ≤ next.animation.generation) :
    next.advances calls + rest.count (.step next.animation.generation) ≤
      pane.advances calls + (wakeup :: rest).count (.step pane.animation.generation) := by
  cases answer with
  | staleStep => exact Nat.add_le_add_left List.count_le_count_cons _
  | noPhysics => exact Nat.add_le_add_left List.count_le_count_cons _
  | @spent physics advanced held result =>
      have counted : calls advanced = calls physics + 1 := by
        rw [← counts.advance physics now, result]
      show calls advanced + rest.count (.step pane.animation.generation) ≤ _
      rw [advances_of_ok calls held, List.count_cons_self]
      omega
  | @shown physics ahead left _ _ held result lands jumped =>
      have shows := jumpTo_shows jumped
      have counted : calls ahead = calls physics + 1 := by
        rw [← counts.advance physics now, result]
      have landed := counts.lands lands
      rw [advances_of_ok calls held, shows.animation, List.count_cons_self,
        advances_of_ok calls (congrArg Animation.physics shows.animation)]
      dsimp only
      omega
  | stalePoll => exact Nat.add_le_add_left List.count_le_count_cons _
  | moving => exact Nat.add_le_add_left List.count_le_count_cons _
  | @snap sequence steered current quiet paging unsnapped glided =>
      refine Nat.le_trans ?_ (Nat.add_le_add_left List.count_le_count_cons _)
      show steered.advances calls + rest.count (.step steered.animation.generation) ≤ _
      cases glideToPage_steers glided with
      | move moves =>
          have same : steered.animation = pane.animation := moves.animation
          exact Nat.le_of_eq (by rw [advances_of_animation_eq calls same, same])
      | @start moved _ moves starts =>
          have same : moved.animation = pane.animation := moves.animation
          have following : steered.animation.generation = pane.animation.generation + 1 := by
            rw [starts.generation, same]
          -- The first step of the new motion waits for a later frame.
          have unused : .step steered.animation.generation ∉ rest :=
            next_step_not_mem numbered following up
          rw [counts.starts starts, advances_of_animation_eq calls same,
            List.count_eq_zero.mpr unused]
          omega
  | settled current quiet unpaged placed =>
      have ends := returnToExtent_ends placed
      rw [advances_of_animation_eq calls ends.animation, ends.animation]
      exact Nat.add_le_add_left List.count_le_count_cons _

/-- However far a frame has come, it has advanced the physics once at most. -/
theorem Midway.advances [LawfulPhysics σ] {calls : σ → Nat} (counts : CountsAdvances calls)
    {broughtNone : Prop} {pane reached : Pane σ} {rest : List Wakeup} {now : Millis}
    (midway : Midway pane now reached rest) (paced : Paced broughtNone pane.waiting pane)
    (up : pane.animation.generation ≤ reached.animation.generation) :
    reached.advances calls + rest.count (.step reached.animation.generation) ≤
      pane.advances calls + 1 := by
  induction midway with
  | begin =>
      have begun := Midway.paced .begin paced up
      have once := begun.once
      rw [List.count_append] at once
      exact Nat.add_le_add_left (Nat.le_trans (Nat.le_add_right _ _) once) _
  | next midway woken ih =>
      have answer := wake_answer woken
      obtain ⟨upBefore, upNow⟩ := midway.up_before answer up
      have numbered := (midway.paced paced upBefore).numbered
      have listed := fun generation waits =>
        numbered generation (List.mem_append_left _ (List.mem_cons_of_mem _ waits))
      exact Nat.le_trans (answer.advances counts listed upNow) (ih upBefore)

/-! ## Every course -/

theorem Course.paced [LawfulPhysics σ] {start pane : Pane σ} {turns : List (Turn σ)}
    (fresh : Fresh start) (course : Course start turns pane)
    (few : motionsNumbered turns < 2 ^ 64) :
    Paced (start.isRunning = false) pane.waiting pane := by
  have rest := fresh.atRest
  have noneWaiting : start.waiting = [] := by rw [waiting, rest.alarms]; rfl
  have first : Paced (start.isRunning = false) start.waiting start := by
    refine ⟨by simp [noneWaiting], by simp [noneWaiting], ?_⟩
    rintro (idle | numbered) runs
    · simp [idle] at runs
    · simp [rest.generation] at numbered
  exact Course.start.keeps course (fun pane => pane.animation.generation) rest.generation few
    (fun pane => Paced (start.isRunning = false) pane.waiting pane) first fun change up paced =>
      change.paced paced up

/--
A promise of the host: the physics is at rest when it is handed over, for it is the
pane that starts a motion and then advances it once per frame.
-/
def HandedAtRest (start : Pane σ) : Prop :=
  start.isRunning = false

end Pane

/-! ## Counting advances -/

/-- Any physics, with a count of its advances. -/
structure Tallied (σ : Type) where
  physics : σ
  calls : Nat

namespace Tallied

variable {σ : Type} [ScrollPhysics σ]

instance : ScrollPhysics (Tallied σ) where
  fling tallied launch now :=
    (ScrollPhysics.fling tallied.physics launch now).map (⟨·, tallied.calls⟩)
  glide tallied source distance now :=
    ⟨ScrollPhysics.glide tallied.physics source distance now, tallied.calls⟩
  advance tallied now :=
    let (running, advanced) := ScrollPhysics.advance tallied.physics now
    (running, ⟨advanced, tallied.calls + 1⟩)
  position tallied := ScrollPhysics.position tallied.physics
  destination tallied := ScrollPhysics.destination tallied.physics
  isIdle tallied := ScrollPhysics.isIdle tallied.physics
  halt tallied := ⟨ScrollPhysics.halt tallied.physics, tallied.calls⟩
  keepsBounds tallied := ScrollPhysics.keepsBounds tallied.physics

theorem advance_physics {tallied after : Tallied σ} {now : Millis} {running : Bool}
    (advanced : ScrollPhysics.advance tallied now = (running, after)) :
    ScrollPhysics.advance tallied.physics now = (running, after.physics) := by
  have told := congrArg Prod.fst advanced
  have left := congrArg (fun outcome => outcome.2.physics) advanced
  exact Prod.ext told left

instance [LawfulPhysics σ] : LawfulPhysics (Tallied σ) where
  isIdle_halt tallied := LawfulPhysics.isIdle_halt tallied.physics
  isIdle_of_advance {tallied _ _} advanced := by
    show ScrollPhysics.isIdle tallied.physics = true
    exact LawfulPhysics.isIdle_of_advance (advance_physics advanced)
  isIdle_advanced {_ after _} advanced := by
    show ScrollPhysics.isIdle after.physics = true
    exact LawfulPhysics.isIdle_advanced (advance_physics advanced)

end Tallied

namespace Pane

/-- Physics that is handed over while it runs, and that no step is waited for. -/
theorem Course.running_unattended :
    ∃ start : Pane Stride, Fresh start ∧ Course start [] start ∧ ¬HandedAtRest start ∧
      start.isRunning = true ∧ start.waiting = [] ∧ start.awaitsFrame = false :=
  ⟨create .standard .standard (some ((Stride.create 40).walk 0 100)), .create _ _ _, .start,
    by unfold HandedAtRest; decide, rfl, rfl, rfl⟩

end Pane

end KineticScroll
