import KineticScroll.Proofs.DueSteps
import KineticScroll.Proofs.QuietPeriod

/-!
# Ending at rest

A settle sequence ends when a poll has seen no movement since the one before.
That is taken to mean that the motion is over, and it does mean so as long as
the motion moves the content at every step and each poll comes after a step.
A fling that joins a sequence in which nothing has moved yet sets its first step
behind the poll: the sequence can then end while the motion has not even begun.
And a motion that is slow enough stands for a frame now and then: on the slow tail
of stock physics the sequence can end while the content still creeps on.
-/

namespace KineticScroll

/-- One wake-up comes before any occurrence of another. -/
def Wakeup.Leads (first second : Wakeup) (queue : List Wakeup) : Prop :=
  ∃ before after, queue = before ++ first :: after ∧ second ∉ before

namespace Wakeup.Leads

variable {first second other : Wakeup} {queue : List Wakeup}

theorem tail (leads : Leads first second (other :: queue)) (differ : other ≠ first) :
    Leads first second queue := by
  obtain ⟨before, after, same, absent⟩ := leads
  cases before with
  | nil =>
      injection same with head
      exact absurd head differ
  | cons head before =>
      injection same with _ rest
      exact ⟨before, after, rest, fun among => absent (List.mem_cons_of_mem _ among)⟩

theorem ne_head (leads : Leads first second (second :: queue)) : first = second := by
  obtain ⟨before, after, same, absent⟩ := leads
  cases before with
  | nil =>
      injection same with head
      exact head.symm
  | cons head before =>
      injection same with top
      exact absurd (top ▸ List.mem_cons_self) absent

theorem of_not_mem (waits : first ∈ queue) (absent : second ∉ queue) (more : List Wakeup) :
    Leads first second (queue ++ more) := by
  obtain ⟨before, after, rfl⟩ := List.append_of_mem waits
  refine ⟨before, after ++ more, by simp, ?_⟩
  intro among
  exact absent (List.mem_append_left _ among)

/-- The order is kept when alarms ring, if the one in front is due. -/
theorem ring {alarms : Alarms} {now : Millis}
    (leads : Leads first second (alarms.pending.map Alarm.wakeup))
    (due : ∀ time, ⟨time, first⟩ ∈ alarms.pending → time ≤ now) (more : List Wakeup) :
    Leads first second ((alarms.ring now).1 ++ more) := by
  obtain ⟨before, after, same, absent⟩ := leads
  obtain ⟨early, rest, split, earlyMap, restMap⟩ := List.map_eq_append_iff.mp same
  obtain ⟨alarm, late, rfl, isFirst, lateMap⟩ := List.map_eq_cons_iff.mp restMap
  have rings : Alarms.isDue now alarm = true := by
    have pending : ⟨alarm.due, first⟩ ∈ alarms.pending := by
      rw [split, ← isFirst]
      exact List.mem_append_right _ List.mem_cons_self
    simpa [Alarms.isDue] using due alarm.due pending
  rw [Alarms.ring_fst, split, List.filter_append, List.filter_cons_of_pos rings, List.map_append,
    List.map_cons, isFirst, List.append_assoc, List.cons_append]
  refine ⟨_, _, rfl, ?_⟩
  intro among
  obtain ⟨other, kept, isSecond⟩ := List.mem_map.mp among
  refine absent ?_
  rw [← earlyMap, ← isSecond]
  exact List.mem_map_of_mem (List.mem_filter.mp kept).1

end Wakeup.Leads

namespace Pane

variable {σ : Type} [ScrollPhysics σ]

/-! ## Looking for movement -/

/--
A poll has movement to see while a motion runs: something has moved already, or
the step of the motion comes first.
-/
def Ahead (queue : List Wakeup) (pane : Pane σ) : Prop :=
  ∀ number, pane.openNumber? = some number → pane.isRunning = true →
    pane.state.active = true ∨
      Wakeup.Leads (.step pane.animation.generation) (.poll number) queue

namespace Ahead

variable {queue after : List Wakeup} {pane next : Pane σ}

theorem of_closed (closed : pane.openNumber? = none) : Ahead queue pane := by
  simp [Ahead, closed]

theorem of_still (still : pane.isRunning = false) : Ahead queue pane := by
  simp [Ahead, still]

theorem of_active (active : pane.state.active = true) : Ahead queue pane :=
  fun _ _ _ => .inl active

/-- What leaves motion and sequence alone and forgets no movement keeps polls from missing it. -/
theorem keep (ahead : Ahead queue pane) (same : next.openNumber? = pane.openNumber?)
    (animation : next.animation = pane.animation)
    (active : next.state.active = pane.state.active ∨ next.state.active = true)
    (leads : ∀ number, pane.openNumber? = some number →
      Wakeup.Leads (.step pane.animation.generation) (.poll number) queue →
      Wakeup.Leads (.step pane.animation.generation) (.poll number) after) :
    Ahead after next := by
  intro number isOpen runs
  rw [same] at isOpen
  rw [isRunning_eq_of_animation_eq animation] at runs
  rw [animation]
  rcases ahead number isOpen runs with before | first
  · left
    rcases active with still | moved
    · rw [still, before]
    · exact moved
  · exact .inr (leads number isOpen first)

/-- A poll that is set now comes behind every step that is waited for. -/
theorem of_set {number : UInt64} (isOpen : pane.openNumber? = some number)
    (lone : .poll number ∉ queue)
    (stepped : pane.isRunning = true → .step pane.animation.generation ∈ queue) :
    Ahead (queue ++ [.poll number]) pane := by
  intro other current runs
  rw [isOpen, Option.some.injEq] at current
  subst current
  exact .inr (.of_not_mem (stepped runs) lone _)

end Ahead

/-- Every step among these wake-ups that leaves the motion running moves the content. -/
def keepsMoving (now : Millis) : Pane σ → List Wakeup → Bool
  | _, [] => true
  | pane, wakeup :: rest =>
      match pane.wake now wakeup with
      | .error _ => true
      | .ok next =>
          (wakeup != .step pane.animation.generation || !next.isRunning ||
            next.offset != pane.offset) && next.keepsMoving now rest

/-- Every step in a frame that leaves the motion running moves the content. -/
def frameKeepsMoving (pane : Pane σ) (now : Millis) : Bool :=
  { pane with alarms := (pane.alarms.ring now).2 }.keepsMoving now (pane.alarms.ring now).1

theorem Midway.keepsMoving {pane reached : Pane σ} {rest : List Wakeup} {now : Millis}
    (midway : Midway pane now reached rest) (moving : pane.frameKeepsMoving now = true) :
    reached.keepsMoving now rest = true := by
  induction midway with
  | begin => exact moving
  | next midway woken ih =>
      rw [Pane.keepsMoving, woken] at ih
      exact (Bool.and_eq_true_iff.mp ih).2

theorem offset_ne_of_keepsMoving {pane next : Pane σ} {rest : List Wakeup} {now : Millis}
    (moving : pane.keepsMoving now (.step pane.animation.generation :: rest) = true)
    (stepped : pane.wake now (.step pane.animation.generation) = .ok next)
    (runs : next.isRunning = true) : next.offset ≠ pane.offset := by
  rw [Pane.keepsMoving, stepped] at moving
  simpa [runs] using (Bool.and_eq_true_iff.mp moving).1

omit [ScrollPhysics σ] in
theorem jumpTo_active_or_stands {pane next : Pane σ} {y : Px} {now : Millis}
    (jumped : pane.jumpTo y now = .ok next) :
    next.state.active = true ∨ next.offset = pane.offset := by
  cases jumpTo_arrives jumped with
  | repeats => exact .inr rfl
  | moves _ _ active _ => exact .inl active

theorem Answer.ahead [LawfulPhysics σ] {broughtNone : Prop} {now : Millis} {pane next : Pane σ}
    {wakeup : Wakeup} {rest : List Wakeup} (answer : Answer now pane wakeup next) (idle : broughtNone)
    (attended : Attended (wakeup :: (rest ++ pane.waiting)) pane)
    (paced : Paced broughtNone (rest ++ next.waiting) next)
    (moves : wakeup = .step pane.animation.generation → next.isRunning = true →
      next.offset ≠ pane.offset)
    (ahead : Ahead (wakeup :: (rest ++ pane.waiting)) pane) :
    Ahead (rest ++ next.waiting) next := by
  -- A poll that is set again is the last thing waited for, and the step is not.
  have again {number : UInt64} {placed : Pane σ}
      (waits : next.waiting = placed.waiting ++ [.poll number])
      (isOpen : next.openNumber? = some number) (lone : .poll number ∉ rest ++ placed.waiting) :
      Ahead (rest ++ next.waiting) next := by
    rw [waits, ← List.append_assoc] at paced ⊢
    refine .of_set isOpen lone fun runs => ?_
    have once := paced.running (.inl idle) runs
    have among : .step next.animation.generation ∈ (rest ++ placed.waiting) ++ [.poll number] :=
      List.count_pos_iff.mp (once ▸ Nat.one_pos)
    simpa using among
  cases answer with
  | @staleStep generation stale =>
      exact ahead.keep rfl rfl (.inl rfl) fun number _ leads => leads.tail (by simpa using stale)
  | noPhysics absent => exact .of_still (Animation.isRunning_of_absent absent)
  | spent held advanced =>
      refine .of_still ?_
      rw [isRunning_eq_of_ok rfl, LawfulPhysics.isIdle_advanced advanced]
      rfl
  | @shown _ _ left _ carried held advanced lands jumped =>
      have present : carried.animation.physics = .ok left :=
        congrArg Animation.physics (jumpTo_moves jumped).animation
      cases finished : ScrollPhysics.isIdle left with
      | true =>
          simp only [if_true]
          refine .of_still ?_
          rw [isRunning_eq_of_ok present, finished]
          rfl
      | false =>
          simp only [finished, Bool.false_eq_true, if_false] at moves ⊢
          have runs : carried.isRunning = true := by
            rw [isRunning_eq_of_ok present, finished]
            rfl
          rcases jumpTo_active_or_stands jumped with active | stands
          · exact .of_active active
          · exact absurd stands (moves trivial runs)
  | @stalePoll number stale =>
      refine ahead.keep rfl rfl (.inl rfl) fun number _ leads => leads.tail (by simp)
  | @moving sequence current active =>
      have isOpen : pane.openNumber? = some sequence.number := by rw [openNumber?, current]; rfl
      exact again (waiting_of_alarms_set rfl) rfl (attended.lone isOpen)
  | @snap sequence steered current quiet paging unsnapped glided =>
      have steers := glideToPage_steers glided
      have isOpen : pane.openNumber? = some sequence.number := by rw [openNumber?, current]; rfl
      have stillOpen : steered.openNumber? = some sequence.number := by
        rw [openNumber?, (glideToPage_defers glided).settling]
        rfl
      have lone : .poll sequence.number ∉ rest ++ steered.waiting := by
        have before := attended.lone isOpen
        rw [← List.count_eq_zero, List.count_append] at before ⊢
        rw [steers.count_poll]
        exact before
      exact again (waiting_of_alarms_set rfl) stillOpen lone
  | settled current quiet unpaged placed =>
      refine .of_closed ?_
      rw [openNumber?, (returnToExtent_ends placed).settling]
      rfl

theorem Midway.ahead [LawfulPhysics σ] {broughtNone : Prop} {now : Millis} {pane reached : Pane σ}
    {rest : List Wakeup} (midway : Midway pane now reached rest) (idle : broughtNone)
    (attended : Attended pane.waiting pane) (paced : Paced broughtNone pane.waiting pane)
    (up : pane.animation.generation ≤ reached.animation.generation) (due : StepsDue now pane)
    (moving : pane.frameKeepsMoving now = true) (ahead : Ahead pane.waiting pane) :
    Ahead (rest ++ reached.waiting) reached := by
  induction midway with
  | begin => exact ahead.keep rfl rfl (.inl rfl) fun number _ leads => leads.ring due _
  | @next reached after wakeup rest midway woken ih =>
      have answer := wake_answer woken
      obtain ⟨upBefore, _⟩ := midway.up_before answer up
      have pacedAfter := (midway.next woken).paced paced up
      have moves (isStep : wakeup = .step reached.animation.generation)
          (runs : after.isRunning = true) : after.offset ≠ reached.offset := by
        subst isStep
        exact offset_ne_of_keepsMoving (midway.keepsMoving moving) woken runs
      exact answer.ahead idle (midway.attended attended) pacedAfter moves (ih upBefore)

/-- The poll that ends a sequence brings the content back and announces the end. -/
theorem Answer.concludes {now : Millis} {pane next : Pane σ} {number : UInt64}
    (answer : Answer now pane (.poll number) next)
    (decided : pane.verdict? number = some .settled) :
    ∃ returned, pane.concluded.returnToExtent now = .ok returned ∧
      next = (returned.emitMomentum .momentumEnd).callMeter .disable := by
  obtain ⟨isOpen, quiet⟩ := verdict?_settled decided
  cases answer with
  | stalePoll stale => exact absurd isOpen stale
  | moving current active =>
      rw [quiet] at active
      cases active
  | snap current _ paging unsnapped glided =>
      simp [verdict?, Settling.poll, current, quiet, paging, unsnapped] at decided
  | settled current _ unpaged placed => exact ⟨_, placed, rfl⟩

/-- What ends the sequence leaves the motion as it is. -/
theorem Answer.ends_of_settled {now : Millis} {pane next : Pane σ} {number : UInt64}
    (answer : Answer now pane (.poll number) next)
    (decided : pane.verdict? number = some .settled) : Ends pane next := by
  obtain ⟨returned, placed, rfl⟩ := answer.concludes decided
  exact returnToExtent_ends placed

/-- In a frame, a sequence ends only when no motion runs. -/
theorem Midway.isRunning_of_settled [LawfulPhysics σ] {broughtNone : Prop} {now : Millis}
    {pane reached : Pane σ} {number : UInt64} {rest : List Wakeup}
    (midway : Midway pane now reached (.poll number :: rest)) (idle : broughtNone)
    (attended : Attended pane.waiting pane) (paced : Paced broughtNone pane.waiting pane)
    (up : pane.animation.generation ≤ reached.animation.generation) (due : StepsDue now pane)
    (moving : pane.frameKeepsMoving now = true) (ahead : Ahead pane.waiting pane)
    (decided : reached.verdict? number = some .settled) : reached.isRunning = false := by
  obtain ⟨isOpen, quiet⟩ := verdict?_settled decided
  cases runs : reached.isRunning with
  | false => rfl
  | true =>
      have looked := midway.ahead idle attended paced up due moving ahead
      rcases looked number isOpen runs with active | leads
      · rw [quiet] at active
        cases active
      · cases leads.ne_head

/-! ## Operations -/

theorem Opens.ahead {broughtNone : Prop} {now : Millis} {cause : SettleCause} {pane next : Pane σ}
    (opens : Opens pane cause now next) (idle : broughtNone)
    (attended : Attended pane.waiting pane) (paced : Paced broughtNone pane.waiting pane)
    (up : pane.settling.lastNumber ≤ next.settling.lastNumber) : Ahead next.waiting next := by
  rw [waiting_of_alarms_set opens.alarms]
  refine .of_set opens.openNumber? (opens.lone attended.numbered up) fun runs => ?_
  rw [isRunning_eq_of_animation_eq opens.animation] at runs
  rw [opens.animation]
  exact List.count_pos_iff.mp (paced.running (.inl idle) runs ▸ Nat.one_pos)

/--
Whatever is done, polls have movement to see while a motion runs.  A fling must
not come while a sequence is open in which nothing has moved since the last poll.
-/
theorem perform_ahead [LawfulPhysics σ] {broughtNone : Prop} {clock : Millis} {pane next : Pane σ}
    {operation : Operation} {reply : Reply} (performed : pane.perform operation = .ok (reply, next))
    (timed : ∀ now, operation.time? = some now → now = clock) (idle : broughtNone)
    (attended : Attended pane.waiting pane) (paced : Paced broughtNone pane.waiting pane)
    (numbered : pane.settling.lastNumber ≤ next.settling.lastNumber)
    (up : pane.animation.generation ≤ next.animation.generation) (due : StepsDue clock pane)
    (apart : operation.isFling = true → pane.isSettling = true → pane.state.active = true)
    (moving : ∀ now, operation = .frame now → pane.frameKeepsMoving now = true)
    (ahead : Ahead pane.waiting pane) : Ahead next.waiting next := by
  rcases perform_frames_or_tracks performed with ⟨now, rfl, framed⟩ | ⟨between, tracks⟩
  · have told := timed now rfl
    subst told
    have midway := frame_midway framed
    have framedAhead := midway.ahead idle attended paced up due (moving now rfl) ahead
    rwa [List.nil_append] at framedAhead
  · have still (settling : next.settling = pane.settling)
        (animation : next.animation = pane.animation) (alarms : next.alarms = pane.alarms) :
        Ahead next.waiting next := by
      have active := tracks.active (by rw [isSettling, settling, isSettling])
      rw [waiting_of_alarms_eq alarms]
      exact ahead.keep (openNumber?_of_settling_eq settling) animation active fun _ _ leads => leads
    -- A motion that joins an open sequence is no matter once something has moved.
    have joined (isFling : operation.isFling = true)
        (settling : next.settling = pane.settling) : Ahead next.waiting next := by
      cases isOpen : pane.isSettling with
      | false =>
          refine .of_closed ?_
          rw [openNumber?_of_settling_eq settling]
          simpa [isSettling_eq_isSome] using isOpen
      | true =>
          refine .of_active ?_
          have active := tracks.active (by rw [isSettling, settling, isSettling])
          rcases active with same | moved
          · rw [same]
            exact apart isFling isOpen
          · exact moved
    cases perform_change performed with
    | drift drifts => exact still drifts.settling drifts.animation drifts.alarms
    | configure drifts => exact still drifts.settling drifts.animation drifts.alarms
    | grab _ grabs =>
        refine .of_closed ?_
        rw [openNumber?, grabs.settling]
        rfl
    | drop _ _ drops => exact still drops.settling drops.animation drops.alarms
    | @release _ dropped _ _ _ drops settles =>
        cases settles with
        | joins => exact still drops.settling drops.animation drops.alarms
        | opens _ opens =>
            have droppedAttended :=
              attended.keep_of_eq drops.settling drops.flinging drops.alarms
            have droppedPaced := paced.keep_of_eq drops.animation drops.alarms
            rw [← drops.settling] at numbered
            exact opens.ahead idle droppedAttended droppedPaced numbered
    | glide _ steers => exact joined rfl steers.carries.settling
    | fling _ steers settles =>
        cases settles with
        | joins => exact joined rfl steers.carries.settling
        | opens _ opens =>
            refine .of_active ?_
            rw [opens.state]
            rfl
    | frame framed => exact absurd rfl (between _)

/-! ## Every course -/

/-- In a frame, every step that leaves the motion running moves the content. -/
def Turn.keepsMoving (turn : Turn σ) : Bool :=
  match turn.operation with
  | .frame now => turn.before.frameKeepsMoving now
  | _ => true

theorem Course.ahead [LawfulPhysics σ] {start pane : Pane σ} {turns : List (Turn σ)}
    {clock : Millis} (fresh : Fresh start) (idle : start.isRunning = false)
    (course : Course start turns pane) (few : sequencesOpened turns < 2 ^ 64)
    (fewMotions : motionsNumbered turns < 2 ^ 64) (ordered : (times turns).Pairwise (· ≤ ·))
    (past : ∀ time ∈ times turns, time ≤ clock)
    (apart : ∀ turn ∈ turns, turn.operation.isFling = true → turn.before.isSettling = true →
      turn.before.state.active = true)
    (moving : ∀ turn ∈ turns, turn.keepsMoving = true) :
    StepsDue clock pane ∧ Ahead pane.waiting pane := by
  have rest := fresh.atRest
  refine course.keeps_timed ordered past
    (fun turns clock pane => sequencesOpened turns < 2 ^ 64 → motionsNumbered turns < 2 ^ 64 →
      (∀ turn ∈ turns, turn.operation.isFling = true → turn.before.isSettling = true →
        turn.before.state.active = true) →
      (∀ turn ∈ turns, turn.keepsMoving = true) →
      StepsDue clock pane ∧ Ahead pane.waiting pane)
    ?_ ?_ ?_ few fewMotions apart moving
  · intro clock _ _ _ _
    have noneWaiting : start.waiting = [] := by rw [waiting, rest.alarms]; rfl
    exact ⟨.of_unused (by simp [noneWaiting]), .of_still idle⟩
  · intro _ _ _ _ holds passed few fewMotions apart moving
    obtain ⟨due, ahead⟩ := holds few fewMotions apart moving
    exact ⟨due.wait passed, ahead⟩
  · intro turns pane next operation reply clock course performed timed holds few fewMotions apart
      moving
    have zero : start.settling.lastNumber = 0 := by rw [rest.settling]; rfl
    have numbered := course.number_le performed (fun pane => pane.settling.lastNumber) zero few
    have up := course.number_le performed (fun pane => pane.animation.generation) rest.generation
      fewMotions
    have fewBefore := Nat.lt_of_le_of_lt (climb_le_append _ turns _) few
    have fewMotionsBefore := Nat.lt_of_le_of_lt (climb_le_append _ turns _) fewMotions
    have attended := course.attended fresh fewBefore
    have paced := course.paced fresh fewMotionsBefore
    obtain ⟨due, ahead⟩ := holds fewBefore fewMotionsBefore
      (fun turn taken => apart turn (List.mem_append_left _ taken))
      (fun turn taken => moving turn (List.mem_append_left _ taken))
    have mine : ⟨pane, operation, next⟩ ∈ turns ++ [(⟨pane, operation, next⟩ : Turn σ)] := by simp
    have framed now (isFrame : operation = .frame now) : pane.frameKeepsMoving now = true := by
      subst isFrame
      exact moving _ mine
    exact ⟨(perform_change performed).stepsDue timed paced up due,
      perform_ahead performed timed idle attended paced numbered up due (apart _ mine) framed ahead⟩

/-- A frame does not bring the number of the motion down, unless the numbers wrap round. -/
theorem Course.generation_le_midway {start pane reached : Pane σ} {turns : List (Turn σ)}
    {now : Millis} {rest : List Wakeup} (fresh : Fresh start) (course : Course start turns pane)
    (fewMotions : motionsNumbered turns + 1 < 2 ^ 64) (midway : Midway pane now reached rest) :
    pane.animation.generation ≤ reached.animation.generation := by
  have counted := course.toNat_eq_climb (fun pane => pane.animation.generation)
    fresh.atRest.generation (Nat.lt_of_succ_lt fewMotions)
  have bound : pane.animation.generation.toNat + 1 < 2 ^ 64 := by
    rw [counted]
    exact fewMotions
  rcases midway.generation with same | ⟨following, _⟩
  · rw [same]
    exact UInt64.le_refl _
  · rw [following, UInt64.le_iff_toNat_le, UInt64.toNat_add, UInt64.toNat_one]
    omega

/--
A settle sequence ends at rest, as long as the clock does not go back, every
motion moves the content at each step until it has finished, and no fling comes
while a sequence is open in which nothing has moved since the last poll.  None of
the last two can be done without: see the two runs of stock physics below.
-/
theorem Course.settles_at_rest [LawfulPhysics σ] {start pane reached : Pane σ}
    {turns : List (Turn σ)} {now : Millis} {number : UInt64} {rest : List Wakeup}
    (fresh : Fresh start) (idle : start.isRunning = false) (course : Course start turns pane)
    (few : sequencesOpened turns < 2 ^ 64) (fewMotions : motionsNumbered turns + 1 < 2 ^ 64)
    (ordered : (times turns ++ [now]).Pairwise (· ≤ ·))
    (apart : ∀ turn ∈ turns, turn.operation.isFling = true → turn.before.isSettling = true →
      turn.before.state.active = true)
    (moving : ∀ turn ∈ turns, turn.keepsMoving = true)
    (movingNow : pane.frameKeepsMoving now = true)
    (midway : Midway pane now reached (.poll number :: rest))
    (decided : reached.verdict? number = some .settled) :
    reached.isRunning = false ∧
      ∀ next, reached.wake now (.poll number) = .ok next → next.isRunning = false := by
  obtain ⟨orderedBefore, _, increasing⟩ := List.pairwise_append.mp ordered
  have past time (given : time ∈ times turns) : time ≤ now := increasing time given now (by simp)
  have fewBefore := Nat.lt_of_succ_lt fewMotions
  obtain ⟨due, ahead⟩ :=
    course.ahead fresh idle few fewBefore orderedBefore past apart moving
  have up := course.generation_le_midway fresh fewMotions midway
  have still := midway.isRunning_of_settled idle (course.attended fresh few)
    (course.paced fresh fewBefore) up due movingNow ahead decided
  refine ⟨still, fun next woken => ?_⟩
  have ends := (wake_answer woken).ends_of_settled decided
  rw [isRunning_eq_of_animation_eq ends.animation]
  exact still

/-- A fling on stock physics, with so much friction that the content moves in every frame. -/
def flungAndWatched : List Operation :=
  [.layOut ⟨300, 500, 0, 0⟩ 0, .setContent ⟨300, 1000⟩ 0, .fling 3000 10,
    .frame 20, .frame 40, .frame 60, .frame 80]

theorem Course.settles_at_rest_watched :
    ∃ (start pane reached : Pane Decay) (turns : List (Turn Decay)),
      Fresh start ∧ start.isRunning = false ∧ Course start turns pane ∧
      sequencesOpened turns < 2 ^ 64 ∧ motionsNumbered turns + 1 < 2 ^ 64 ∧
      (times turns ++ [110]).Pairwise (· ≤ ·) ∧
      (∀ turn ∈ turns, turn.operation.isFling = true → turn.before.isSettling = true →
        turn.before.state.active = true) ∧
      (∀ turn ∈ turns, turn.keepsMoving = true) ∧ pane.frameKeepsMoving 110 = true ∧
      Midway pane 110 reached [.poll 1] ∧ reached.verdict? 1 = some .settled ∧
      reached.isRunning = false ∧
      ∀ next, reached.wake 110 (.poll 1) = .ok next → next.isRunning = false := by
  let start : Pane Decay :=
    create { Settings.standard with momentumEvents := true } .standard
      (some (Decay.initial.withFriction 0.9))
  have fresh : Fresh start := .create _ _ _
  have idle : start.isRunning = false := rfl
  have came : (start.run flungAndWatched).map (fun pane =>
      ((pane.alarms.ring 110).1, pane.verdict? 1, pane.frameKeepsMoving 110)) =
      .ok ([.poll 1], some .settled, true) := by decide +kernel
  obtain ⟨few, fewMotions, ordered, apart, moving⟩ :
      sequencesOpened (start.history flungAndWatched) < 2 ^ 64 ∧
      motionsNumbered (start.history flungAndWatched) + 1 < 2 ^ 64 ∧
      (times (start.history flungAndWatched) ++ [110]).Pairwise (· ≤ ·) ∧
      (∀ turn ∈ start.history flungAndWatched, turn.operation.isFling = true →
        turn.before.isSettling = true → turn.before.state.active = true) ∧
      ∀ turn ∈ start.history flungAndWatched, turn.keepsMoving = true := by decide +kernel
  obtain ⟨pane, ran, same⟩ := Outcome.map_eq_ok_iff.mp came
  simp only [Prod.mk.injEq] at same
  obtain ⟨rung, decided, movingNow⟩ := same
  have course := course_history ran
  have midway : Midway pane 110 { pane with alarms := (pane.alarms.ring 110).2 } [.poll 1] :=
    rung ▸ .begin
  have ended := course.settles_at_rest fresh idle few fewMotions ordered apart moving movingNow
    midway decided
  exact ⟨start, pane, _, _, fresh, idle, course, few, fewMotions, ordered, apart, moving,
    movingNow, midway, decided, ended⟩

/-- What a frame comes to that ends the first settle sequence and then moves the content. -/
theorem exists_settled_running (start : Pane Decay) (operations : List Operation) (now : Millis)
    (generation : UInt64) (sent : List EventKind)
    (came : (start.run operations).map (fun pane =>
        ((pane.alarms.ring now).1, pane.verdict? 1, pane.isRunning, pane.kinds)) =
      .ok ([.poll 1, .step generation], some .settled, true, sent))
    (framed : (start.run operations >>= fun pane => pane.frame now).map kinds =
      .ok (sent ++ [.momentumEnd, .scroll])) :
    ∃ pane reached next, Course start (start.history operations) pane ∧
      Midway pane now reached [.poll 1, .step generation] ∧
      reached.verdict? 1 = some .settled ∧ reached.isRunning = true ∧
      pane.frame now = .ok next ∧ next.kinds = pane.kinds ++ [.momentumEnd, .scroll] := by
  obtain ⟨pane, ran, same⟩ := Outcome.map_eq_ok_iff.mp came
  simp only [Prod.mk.injEq] at same
  obtain ⟨rung, decided, runs, before⟩ := same
  rw [ran] at framed
  obtain ⟨next, done, after⟩ := Outcome.map_eq_ok_iff.mp framed
  have midway : Midway pane now { pane with alarms := (pane.alarms.ring now).2 }
      [.poll 1, .step generation] := rung ▸ .begin
  exact ⟨pane, _, next, course_history ran, midway, decided, runs, done, by rw [before, after]⟩

/-- A drag that is released and flung, with the next frame later than the first poll. -/
def flungLate : List Operation :=
  [.layOut ⟨300, 500, 0, 0⟩ 0, .setContent ⟨300, 1000⟩ 0, .grab, .touch ⟨.up, 0, 0, 0⟩,
    .fling 1000 0]

/-- The fling has joined the sequence of the drag, whose poll ends it before the first step. -/
theorem Course.settled_before_motion :
    ∃ (start pane reached next : Pane Decay) (turns : List (Turn Decay)),
      Fresh start ∧ Course start turns pane ∧
      (∀ turn ∈ turns, turn.before.settings.momentumEvents = true) ∧
      Midway pane 30 reached [.poll 1, .step 2] ∧ reached.verdict? 1 = some .settled ∧
      reached.isRunning = true ∧
      pane.frame 30 = .ok next ∧ next.kinds = pane.kinds ++ [.momentumEnd, .scroll] := by
  let start : Pane Decay :=
    create { Settings.standard with momentumEvents := true } .standard (some .initial)
  have asked : ∀ turn ∈ start.history flungLate,
      turn.before.settings.momentumEvents = true := by decide +kernel
  obtain ⟨pane, reached, next, course, settles⟩ := exists_settled_running start flungLate 30 2
    [.dragBegin, .dragEnd, .momentumBegin] (by decide +kernel) (by decide +kernel)
  exact ⟨start, pane, reached, next, _, .create _ _ _, course, asked, settles⟩

/-- A fling so slow that some frames do not move the content by a whole pixel. -/
def flungSlowly : List Operation :=
  [.layOut ⟨300, 500, 0, 0⟩ 0, .setContent ⟨300, 1000⟩ 0, .fling 50 0, .frame 11, .frame 26]

/-- The content has stood for a frame, and the poll ends the sequence before the next step. -/
theorem Course.settled_in_slow_motion :
    ∃ (start pane reached next : Pane Decay) (turns : List (Turn Decay)),
      Fresh start ∧ Course start turns pane ∧
      (∀ turn ∈ turns, turn.before.settings.momentumEvents = true) ∧
      ¬(∀ turn ∈ turns, turn.keepsMoving = true) ∧
      Midway pane 48 reached [.poll 1, .step 1] ∧ reached.verdict? 1 = some .settled ∧
      reached.isRunning = true ∧
      pane.frame 48 = .ok next ∧ next.kinds = pane.kinds ++ [.momentumEnd, .scroll] := by
  let start : Pane Decay :=
    create { Settings.standard with momentumEvents := true } .standard (some .initial)
  obtain ⟨asked, stands⟩ :
      (∀ turn ∈ start.history flungSlowly, turn.before.settings.momentumEvents = true) ∧
      ¬(∀ turn ∈ start.history flungSlowly, turn.keepsMoving = true) := by decide +kernel
  obtain ⟨pane, reached, next, course, settles⟩ := exists_settled_running start flungSlowly 48 1
    [.momentumBegin, .scroll] (by decide +kernel) (by decide +kernel)
  exact ⟨start, pane, reached, next, _, .create _ _ _, course, asked, stands, settles⟩

end Pane

end KineticScroll
