import KineticScroll.Proofs.Agreement
import KineticScroll.Proofs.Polls
import KineticScroll.Proofs.Takeover

/-!
# Panes that come to an end

A pane without physics waits for nothing but polls.  Each poll that is not
stale brings the end of its sequence nearer: it uses up the movement that was
seen, or the one snap of the sequence, or it is the last.  So a host that runs
a frame whenever an alarm is due need not run many of them.
-/

namespace KineticScroll

namespace Pane

variable {σ : Type}

/-! ## Polls of open sequences -/

/--
A poll of the sequence that is open is among these wake-ups, and nothing is flung
unless a sequence is open.  This holds also when numbers have wrapped round and
several polls are of that sequence.
-/
structure Polled (queue : List Wakeup) (pane : Pane σ) : Prop where
  waits : ∀ number, pane.openNumber? = some number → .poll number ∈ queue
  flinging : pane.state.flinging = true → pane.isSettling = true

namespace Polled

variable {queue after : List Wakeup} {pane next : Pane σ}

theorem keep (polled : Polled queue pane) (same : next.openNumber? = pane.openNumber?)
    (flinging : next.state.flinging = pane.state.flinging)
    (still : ∀ number, pane.openNumber? = some number → .poll number ∈ queue →
      .poll number ∈ after) : Polled after next := by
  constructor
  · intro number isOpen
    rw [same] at isOpen
    exact still number isOpen (polled.waits number isOpen)
  · intro flung
    rw [isSettling_eq_isSome, same, ← isSettling_eq_isSome]
    exact polled.flinging (flinging ▸ flung)

theorem keep_of_eq (polled : Polled pane.waiting pane) (settling : next.settling = pane.settling)
    (flinging : next.state.flinging = pane.state.flinging) (alarms : next.alarms = pane.alarms) :
    Polled next.waiting next := by
  rw [waiting_of_alarms_eq alarms]
  exact polled.keep (openNumber?_of_settling_eq settling) flinging fun _ _ waits => waits

theorem of_closed (closed : pane.openNumber? = none) (still : pane.state.flinging = false) :
    Polled queue pane :=
  ⟨by simp [closed], by simp [still]⟩

theorem of_open {number : UInt64} (isOpen : pane.openNumber? = some number)
    (waits : .poll number ∈ queue) : Polled queue pane := by
  constructor
  · intro other current
    rw [isOpen] at current
    cases current
    exact waits
  · intro _
    rw [isSettling_eq_isSome, isOpen]
    rfl

end Polled

theorem Opens.polled {pane next : Pane σ} {cause : SettleCause} {now : Millis}
    (opens : Opens pane cause now next) : Polled next.waiting next := by
  have isOpen : next.openNumber? = some (pane.settling.lastNumber + 1) := by
    rw [openNumber?, opens.settling]
    rfl
  refine .of_open isOpen ?_
  rw [waiting_of_alarms_set opens.alarms]
  exact List.mem_append_right _ List.mem_cons_self

theorem Settles.polled {pane next : Pane σ} {cause : SettleCause} {now : Millis}
    (settles : Settles pane cause now next) (waits : ∀ number, pane.openNumber? = some number →
      .poll number ∈ pane.waiting) : Polled next.waiting next := by
  cases settles with
  | joins isOpen => exact ⟨waits, fun _ => isOpen⟩
  | opens _ opens => exact opens.polled

variable [ScrollPhysics σ]

theorem Answer.polled {pane next : Pane σ} {wakeup : Wakeup} {rest : List Wakeup}
    {now : Millis} (answer : Answer now pane wakeup next)
    (polled : Polled (wakeup :: (rest ++ pane.waiting)) pane) :
    Polled (rest ++ next.waiting) next := by
  cases answer with
  | staleStep => exact polled.keep rfl rfl (by simp)
  | noPhysics => exact polled.keep rfl rfl (by simp)
  | spent => exact polled.keep rfl rfl (by simp [waiting])
  | shown held advanced lands jumped =>
      have shows := jumpTo_shows jumped
      refine polled.keep (openNumber?_of_settling_eq shows.settling) shows.flinging ?_
      intro number _ waits
      rw [shows.waiting, ← List.append_assoc]
      exact List.mem_append_left _ (by simpa using waits)
  | stalePoll stale =>
      refine polled.keep rfl rfl ?_
      intro number isOpen waits
      rcases List.mem_cons.mp waits with isStale | among
      · cases isStale
        exact absurd isOpen stale
      · exact among
  -- The poll that is answered is set again, here and at a snap.
  | @moving sequence current active =>
      have isOpen : ((pane.polled { sequence with lastPollWasActive := true }).schedulePoll
          sequence.number now).openNumber? = some sequence.number := rfl
      refine .of_open isOpen ?_
      rw [schedulePoll, waiting_of_alarms_set rfl]
      simp
  | @snap sequence steered current quiet paging unsnapped glided =>
      have isOpen : (steered.schedulePoll sequence.number now).openNumber? =
          some sequence.number := by
        rw [openNumber?, schedulePoll, setAlarm, (glideToPage_steers glided).carries.settling]
        rfl
      refine .of_open isOpen ?_
      rw [schedulePoll, waiting_of_alarms_set rfl]
      simp
  | settled current quiet unpaged placed =>
      have ends := returnToExtent_ends placed
      refine .of_closed ?_ ends.flinging
      rw [openNumber?, ends.settling]
      rfl

theorem Midway.polled {pane reached : Pane σ} {rest : List Wakeup} {now : Millis}
    (midway : Midway pane now reached rest) (polled : Polled pane.waiting pane) :
    Polled (rest ++ reached.waiting) reached := by
  induction midway with
  | begin =>
      refine polled.keep rfl rfl ?_
      intro number _ waits
      exact (pane.alarms.ring_perm now).mem_iff.mpr waits
  | next _ woken ih => exact (wake_answer woken).polled ih

theorem Steers.polled {pane next : Pane σ} {now : Millis} (steers : Steers pane now next)
    (polled : Polled pane.waiting pane) : Polled next.waiting next := by
  have carries := steers.carries
  refine polled.keep (openNumber?_of_settling_eq carries.settling) carries.flinging ?_
  intro number _ waits
  rw [← List.count_pos_iff, steers.count_poll]
  exact List.count_pos_iff.mpr waits

theorem Change.polled {pane next : Pane σ} {operation : Operation}
    (change : Change pane operation next) (polled : Polled pane.waiting pane) :
    Polled next.waiting next := by
  cases change with
  | drift drifts => exact polled.keep_of_eq drifts.settling drifts.flinging drifts.alarms
  | configure drifts => exact polled.keep_of_eq drifts.settling drifts.flinging drifts.alarms
  | grab _ grabs =>
      refine .of_closed ?_ ?_
      · rw [openNumber?, grabs.settling]
        rfl
      · rw [grabs.flinging]
        cases flung : pane.state.flinging with
        | false => exact Bool.and_false _
        | true => rw [polled.flinging flung]; rfl
  | drop _ _ drops => exact polled.keep_of_eq drops.settling drops.flinging drops.alarms
  | release _ _ drops settles =>
      exact settles.polled (polled.keep_of_eq drops.settling drops.flinging drops.alarms).waits
  | glide _ steers => exact steers.polled polled
  | fling _ steers settles => exact settles.polled (steers.polled polled).waits
  | frame framed => simpa using (frame_midway framed).polled polled

theorem Course.polled {start pane : Pane σ} {turns : List (Turn σ)} (fresh : Fresh start)
    (course : Course start turns pane) : Polled pane.waiting pane := by
  induction course with
  | start =>
      have rest := fresh.atRest
      refine .of_closed ?_ ?_
      · rw [openNumber?, rest.settling]
        rfl
      · rw [rest.state]
        rfl
  | turn _ performed ih => exact (perform_change performed).polled ih

/-! ## The way to the end -/

omit [ScrollPhysics σ] in
/--
How many polls the open sequence takes at most while nothing moves: one for
the movement seen before, one for its snap, and the last.
-/
def pollsLeft (pane : Pane σ) : Nat :=
  match pane.settling.current with
  | none => 0
  | some sequence =>
      (if pane.state.active then 1 else 0) +
        (if pane.settings.pagingEnabled && !sequence.snapped then 1 else 0) + 1

omit [ScrollPhysics σ] in
theorem pollsLeft_le (pane : Pane σ) : pane.pollsLeft ≤ 3 := by
  unfold pollsLeft
  split
  · exact Nat.zero_le 3
  · split <;> split <;> decide

omit [ScrollPhysics σ] in
theorem pollsLeft_eq_zero_iff (pane : Pane σ) :
    pane.pollsLeft = 0 ↔ pane.isSettling = false := by
  unfold pollsLeft isSettling Settling.isOpen
  cases pane.settling.current <;> simp

/-- Where there is no physics, a motion is left to the host. -/
theorem Steers.moves_of_absent {pane next : Pane σ} {now : Millis} (steers : Steers pane now next)
    (absent : pane.animation.hasPhysics = false) : Moves pane next := by
  cases steers with
  | move moves => exact moves
  | start moves starts =>
      cases starts with
      | intro present _ =>
          rw [moves.animation] at present
          rw [hasPhysics_of_ok present] at absent
          cases absent

/--
What answering an alarm comes to where there is no physics: nothing, or else a
poll that counts.  Only a poll that is not the last is set again.
-/
inductive Counts (now : Millis) (pane : Pane σ) (wakeup : Wakeup) (next : Pane σ) : Prop where
  | idle : (∀ number, wakeup = .poll number → pane.openNumber? ≠ some number) → next = pane →
      Counts now pane wakeup next
  | again (number : UInt64) : next.pollsLeft < pane.pollsLeft → 0 < next.pollsLeft →
      next.alarms = pane.alarms.set (.poll number) now pane.settings.pollDelay →
      Counts now pane wakeup next
  | last : next.pollsLeft = 0 → 0 < pane.pollsLeft → next.alarms = pane.alarms →
      Counts now pane wakeup next

theorem Answer.counts {pane next : Pane σ} {wakeup : Wakeup} {now : Millis}
    (answer : Answer now pane wakeup next) (absent : pane.animation.hasPhysics = false) :
    Counts now pane wakeup next := by
  cases answer with
  | staleStep => exact .idle nofun rfl
  | noPhysics => exact .idle nofun rfl
  | spent held =>
      rw [hasPhysics_of_ok held] at absent
      cases absent
  | shown held =>
      rw [hasPhysics_of_ok held] at absent
      cases absent
  | stalePoll stale =>
      refine .idle ?_ rfl
      rintro number ⟨⟩
      exact stale
  | @moving sequence current active =>
      refine .again sequence.number ?_ ?_ rfl
      · simp [pollsLeft, schedulePoll, setAlarm, Pane.polled, current, active]
      · simp [pollsLeft, schedulePoll, setAlarm, Pane.polled]
  | @snap sequence steered current quiet paging unsnapped glided =>
      have moves := (glideToPage_steers glided).moves_of_absent absent
      have still := congrArg PaneState.active (glideToPage_defers glided).state
      have opened := moves.settling
      have paged := congrArg Settings.pagingEnabled moves.settings
      refine .again sequence.number ?_ ?_ ?_
      · simp [pollsLeft, schedulePoll, setAlarm, opened, still, paged, Pane.polled, current, quiet,
          paging, unsnapped]
      · simp [pollsLeft, schedulePoll, setAlarm, opened, Pane.polled]
      · rw [schedulePoll, setAlarm, moves.alarms, moves.settings]
        rfl
  | settled current quiet unpaged placed =>
      have ends := returnToExtent_ends placed
      refine .last ?_ ?_ ends.alarms
      · rw [pollsLeft_eq_zero_iff, ends.isSettling]
      · simp [pollsLeft, current]

omit [ScrollPhysics σ] in
theorem exists_openNumber {pane : Pane σ} (left : pane.pollsLeft ≠ 0) :
    ∃ number, pane.openNumber? = some number := by
  rw [ne_eq, pollsLeft_eq_zero_iff, isSettling_eq_isSome, Bool.not_eq_false] at left
  exact Option.isSome_iff_exists.mp left

/--
What a frame that has every alarm rung has come to, with some wake-ups still to
be answered: a poll has counted, or it is still among them.  The alarms set
meanwhile are for polls that are not the last, one delay later.
-/
structure Unwinds (pane : Pane σ) (now : Millis) (reached : Pane σ) (rest : List Wakeup) :
    Prop where
  settings : reached.settings = pane.settings
  absent : reached.animation.hasPhysics = false
  counted : reached.pollsLeft ≤ pane.pollsLeft - 1 ∨ reached.pollsLeft = pane.pollsLeft ∧
    ∃ number, reached.openNumber? = some number ∧ .poll number ∈ rest
  due : ∀ alarm ∈ reached.alarms.pending, alarm.due = Millis.later now pane.settings.pollDelay
  several : reached.alarms.pending ≠ [] → 1 < pane.pollsLeft

namespace Unwinds

variable {pane reached next : Pane σ} {now : Millis} {wakeup : Wakeup} {rest : List Wakeup}

omit [ScrollPhysics σ] in
theorem down (unwinds : Unwinds pane now reached rest) : reached.pollsLeft ≤ pane.pollsLeft := by
  rcases unwinds.counted with fewer | ⟨same, _⟩ <;> omega

omit [ScrollPhysics σ] in
theorem begin (polled : Polled pane.waiting pane) (absent : pane.animation.hasPhysics = false)
    (allDue : ∀ alarm ∈ pane.alarms.pending, alarm.due ≤ now) :
    Unwinds pane now { pane with alarms := (pane.alarms.ring now).2 }
      (pane.alarms.ring now).1 := by
  have emptied : (pane.alarms.ring now).2.pending = [] := by
    rw [Alarms.ring_snd]
    refine List.filter_eq_nil_iff.mpr fun alarm pending => ?_
    simp [Alarms.isDue, allDue alarm pending]
  refine ⟨rfl, absent, ?_, by simp [emptied], by simp [emptied]⟩
  by_cases ended : pane.pollsLeft = 0
  · exact .inl (Nat.le_trans (Nat.le_of_eq ended) (Nat.zero_le _))
  · obtain ⟨number, isOpen⟩ := exists_openNumber ended
    obtain ⟨alarm, pending, isPoll⟩ := List.mem_map.mp (polled.waits number isOpen)
    exact .inr ⟨rfl, number, isOpen, Alarms.mem_ring (isPoll ▸ pending) (allDue alarm pending)⟩

/-- The invariant of a frame: `Answer.counts` says which of its cases an answer makes. -/
theorem wake (unwinds : Unwinds pane now reached (wakeup :: rest))
    (woken : reached.wake now wakeup = .ok next) : Unwinds pane now next rest := by
  have answer := wake_answer woken
  have settings := answer.settings.trans unwinds.settings
  have absent := answer.guides.hasPhysics.trans unwinds.absent
  have down := unwinds.down
  cases answer.counts unwinds.absent with
  | idle other same =>
      subst same
      refine ⟨settings, absent, ?_, unwinds.due, unwinds.several⟩
      rcases unwinds.counted with fewer | ⟨same, number, isOpen, waits⟩
      · exact .inl fewer
      · rcases List.mem_cons.mp waits with answered | left
        · exact absurd isOpen (other number answered.symm)
        · exact .inr ⟨same, number, isOpen, left⟩
  | again number fewer more alarms =>
      refine ⟨settings, absent, .inl (by omega), ?_, fun _ => by omega⟩
      intro alarm pending
      rw [alarms, Alarms.pending_set, List.mem_append] at pending
      rcases pending with before | new
      · exact unwinds.due alarm before
      · rw [List.mem_singleton.mp new, unwinds.settings]
  | last none _ alarms =>
      refine ⟨settings, absent, .inl (by omega), ?_, ?_⟩
      · rw [alarms]
        exact unwinds.due
      · rw [alarms]
        exact unwinds.several

end Unwinds

theorem frame_unwinds {pane next : Pane σ} {now : Millis} (framed : pane.frame now = .ok next)
    (polled : Polled pane.waiting pane) (absent : pane.animation.hasPhysics = false)
    (allDue : ∀ alarm ∈ pane.alarms.pending, alarm.due ≤ now) : Unwinds pane now next [] :=
  Outcome.foldlM_keeps (Unwinds pane now) (fun unwinds woken => unwinds.wake woken)
    (.begin polled absent allDue) framed

omit [ScrollPhysics σ] in
/-- At the end of a frame the poll that was waited for has counted. -/
theorem Unwinds.pollsLeft_le {pane next : Pane σ} {now : Millis}
    (unwinds : Unwinds pane now next []) :
    next.pollsLeft ≤ pane.pollsLeft - 1 := by
  rcases unwinds.counted with fewer | ⟨_, _, _, waits⟩
  · exact fewer
  · cases waits

/-- A frame of a pane that waits for nothing leaves it as it is. -/
theorem frame_of_pending_eq_nil {pane : Pane σ} (nothing : pane.alarms.pending = [])
    (now : Millis) : pane.frame now = .ok pane := by
  have rung : pane.alarms.ring now = ([], pane.alarms) := by
    refine Prod.ext ?_ (congrArg Alarms.mk ?_)
    · rw [Alarms.ring_fst, nothing]
      rfl
    · show (pane.alarms.ring now).2.pending = pane.alarms.pending
      rw [Alarms.ring_snd, nothing]
      rfl
  rw [frame, rung]
  rfl

/--
A pane without usable physics comes to an end within three frames, whatever it
was in the midst of, if nothing else is done to it and each frame runs when
every alarm is due: the first at such a time, the others a delay between polls
after the one before.  Then it waits for no frame, no settle sequence and no
fling is left, and no later frame changes anything.
-/
theorem Course.quiet_after_three_frames {start pane first second third : Pane σ}
    {turns : List (Turn σ)} {now next last : Millis} (fresh : Fresh start)
    (course : Course start turns pane) (absent : pane.animation.hasPhysics = false)
    (allDue : ∀ alarm ∈ pane.alarms.pending, alarm.due ≤ now)
    (framed : pane.frame now = .ok first)
    (waited : Millis.later now pane.settings.pollDelay ≤ next)
    (framedNext : first.frame next = .ok second)
    (waitedNext : Millis.later next pane.settings.pollDelay ≤ last)
    (framedLast : second.frame last = .ok third) :
    third.awaitsFrame = false ∧ third.isSettling = false ∧ third.state.flinging = false ∧
      ∀ later, third.frame later = .ok third := by
  have performed {pane next : Pane σ} {now : Millis} (framed : pane.frame now = .ok next) :
      pane.perform (.frame now) = .ok (.done, next) := by
    rw [perform, framed]
    rfl
  have courseFirst := course.turn (performed framed)
  have courseSecond := courseFirst.turn (performed framedNext)
  have polled := (courseSecond.turn (performed framedLast)).polled fresh
  -- The measure is at most three, and every frame finds all the alarms due.
  have most := pane.pollsLeft_le
  have begun := frame_unwinds framed (course.polled fresh) absent allDue
  have afterFirst := begun.pollsLeft_le
  have went := frame_unwinds framedNext (courseFirst.polled fresh) begun.absent
    fun alarm pending => begun.due alarm pending ▸ waited
  have afterSecond := went.pollsLeft_le
  have ended := frame_unwinds framedLast (courseSecond.polled fresh) went.absent
    fun alarm pending => by rw [went.due alarm pending, begun.settings]; exact waitedNext
  have afterThird := ended.pollsLeft_le
  have closed : third.isSettling = false := by
    rw [← pollsLeft_eq_zero_iff]
    omega
  have nothing : third.alarms.pending = [] := by
    by_contra some
    have several := ended.several some
    omega
  refine ⟨?_, closed, ?_, frame_of_pending_eq_nil nothing⟩
  · simp [awaitsFrame, Alarms.isEmpty, nothing]
  · by_contra flung
    have isOpen := polled.flinging (by simpa using flung)
    rw [closed] at isOpen
    cases isOpen

/-- Two drags of a paged pane, each let go, and a movement after the second. -/
def draggedTwice : List Operation :=
  [.layOut ⟨300, 500, 0, 0⟩ 0, .setContent ⟨300, 2000⟩ 0, .grab, .touch ⟨.up, 0, 0, 0⟩, .grab,
    .touch ⟨.up, 0, 0, 5⟩, .reportPosition ⟨0, 130⟩ 10]

/--
Polls of both sequences wait, and the physics is not taken.  The first frame
waits on, the second has the host glide to the page, the third settles.
-/
theorem Course.quiet_after_three_frames_dragged_twice :
    ∃ (start pane first second third : Pane Decay) (turns : List (Turn Decay)),
      Fresh start ∧ Course start turns pane ∧ pane.animation.hasPhysics = false ∧
      pane.waiting = [.poll 1, .poll 2] ∧ pane.frame 25 = .ok first ∧
      first.waiting = [.poll 2] ∧ first.commands = [] ∧ first.frame 45 = .ok second ∧
      second.waiting = [.poll 2] ∧ second.commands = [.glide ⟨0, 0⟩] ∧
      second.frame 70 = .ok third ∧ third.kinds = second.kinds ++ [.momentumEnd] ∧
      third.awaitsFrame = false ∧ third.isSettling = false ∧ third.state.flinging = false ∧
      ∀ later, third.frame later = .ok third := by
  let settings : Settings :=
    { Settings.standard with pagingEnabled := true, momentumEvents := true }
  let start : Pane Decay := create settings .standard (some (Decay.initial.withKeepsBounds false))
  have fresh : Fresh start := .create _ _ _
  have came : (start.run draggedTwice).map (fun pane =>
      (pane.animation.hasPhysics, pane.waiting, pane.settings.pollDelay,
        decide (∀ alarm ∈ pane.alarms.pending, alarm.due ≤ 25))) =
      .ok (false, [.poll 1, .poll 2], 20, true) := by decide +kernel
  have went : (start.run draggedTwice >>= fun pane => pane.frame 25 >>= fun first =>
      first.frame 45 >>= fun second => (second.frame 70).map fun third =>
        ((first.waiting, first.commands), (second.waiting, second.commands),
          decide (third.kinds = second.kinds ++ [.momentumEnd]))) =
      .ok (([.poll 2], []), ([.poll 2], [.glide ⟨0, 0⟩]), true) := by decide +kernel
  obtain ⟨pane, ran, same⟩ := Outcome.map_eq_ok_iff.mp came
  simp only [Prod.mk.injEq, decide_eq_true_eq] at same
  obtain ⟨absent, waits, delay, allDue⟩ := same
  obtain ⟨_, again, went⟩ := Outcome.bind_eq_ok_iff.mp went
  cases ran.symm.trans again
  obtain ⟨first, framed, went⟩ := Outcome.bind_eq_ok_iff.mp went
  obtain ⟨second, framedNext, went⟩ := Outcome.bind_eq_ok_iff.mp went
  obtain ⟨third, framedLast, same⟩ := Outcome.map_eq_ok_iff.mp went
  simp only [Prod.mk.injEq, decide_eq_true_eq] at same
  obtain ⟨⟨waitsFirst, sentFirst⟩, ⟨waitsSecond, sentSecond⟩, ended⟩ := same
  have course := course_history ran
  have quiet := course.quiet_after_three_frames fresh absent allDue framed
    (by rw [delay]; decide) framedNext (by rw [delay]; decide) framedLast
  exact ⟨start, pane, first, second, third, _, fresh, course, absent, waits, framed, waitsFirst,
    sentFirst, framedNext, waitsSecond, sentSecond, framedLast, ended, quiet⟩

end Pane

end KineticScroll
