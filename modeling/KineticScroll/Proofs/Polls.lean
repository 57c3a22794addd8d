import KineticScroll.Proofs.Course
import KineticScroll.Proofs.LawfulPhysics
import KineticScroll.Proofs.Waiting

/-!
# Polls

While a settle sequence is open, exactly one poll of it is waited for.  A poll
is taken out of the alarms before it is answered and set again only by some
answers, and drags leave the polls of the sequences that they cut short behind.
Those belong to numbers that have passed, and do nothing.
-/

namespace KineticScroll

namespace Pane

variable {σ : Type}

/-- The number of the settle sequence that is open, if there is one. -/
def openNumber? (pane : Pane σ) : Option UInt64 :=
  pane.settling.current.map SettleSequence.number

theorem openNumber?_of_settling_eq {pane next : Pane σ} (same : next.settling = pane.settling) :
    next.openNumber? = pane.openNumber? := by
  rw [openNumber?, same, openNumber?]

theorem isSettling_eq_isSome (pane : Pane σ) : pane.isSettling = pane.openNumber?.isSome := by
  rw [isSettling, Settling.isOpen, openNumber?, Option.isSome_map]

/--
Every poll to be answered is of a sequence opened so far, and there is exactly
one poll of the sequence that is open.
-/
structure Attended (queue : List Wakeup) (pane : Pane σ) : Prop where
  numbered : ∀ number, .poll number ∈ queue → number ≤ pane.settling.lastNumber
  latest : ∀ number, pane.openNumber? = some number → number = pane.settling.lastNumber
  polled : ∀ number, pane.openNumber? = some number → queue.count (.poll number) = 1
  flinging : pane.state.flinging = true → pane.isSettling = true

namespace Attended

variable {queue after : List Wakeup} {pane next : Pane σ}

theorem keep (attended : Attended queue pane)
    (same : next.openNumber? = pane.openNumber?)
    (last : next.settling.lastNumber = pane.settling.lastNumber)
    (flinging : next.state.flinging = pane.state.flinging)
    (polls : ∀ number, after.count (.poll number) = queue.count (.poll number)) :
    Attended after next := by
  refine ⟨?_, ?_, ?_, ?_⟩
  · intro number waits
    rw [last]
    refine attended.numbered number ?_
    rw [← List.count_pos_iff, ← polls]
    exact List.count_pos_iff.mpr waits
  · intro number isOpen
    rw [last]
    exact attended.latest number (same ▸ isOpen)
  · intro number isOpen
    rw [polls]
    exact attended.polled number (same ▸ isOpen)
  · intro flung
    rw [isSettling_eq_isSome, same, ← isSettling_eq_isSome]
    exact attended.flinging (flinging ▸ flung)

theorem keep_of_eq (attended : Attended pane.waiting pane)
    (settling : next.settling = pane.settling) (flinging : next.state.flinging = pane.state.flinging)
    (alarms : next.alarms = pane.alarms) : Attended next.waiting next := by
  have last := congrArg Settling.lastNumber settling
  rw [waiting_of_alarms_eq alarms]
  exact attended.keep (openNumber?_of_settling_eq settling) last flinging fun _ => rfl

theorem close (attended : Attended queue pane) (closed : next.openNumber? = none)
    (last : next.settling.lastNumber = pane.settling.lastNumber)
    (still : next.state.flinging = false)
    (polls : ∀ number, .poll number ∈ after → .poll number ∈ queue) : Attended after next := by
  refine ⟨?_, by simp [closed], by simp [closed], by simp [still]⟩
  intro number waits
  rw [last]
  exact attended.numbered number (polls number waits)

end Attended

/-- The sequence that opens has a number of its own, unless the numbers have wrapped round. -/
theorem Opens.attended {pane next : Pane σ} {cause : SettleCause} {now : Millis}
    (opens : Opens pane cause now next)
    (numbered : ∀ number, .poll number ∈ pane.waiting → number ≤ pane.settling.lastNumber)
    (up : pane.settling.lastNumber ≤ next.settling.lastNumber) : Attended next.waiting next := by
  have last : next.settling.lastNumber = pane.settling.lastNumber + 1 := by rw [opens.settling]
  have isOpen : next.openNumber? = some next.settling.lastNumber := by
    rw [openNumber?, opens.settling]
    rfl
  have waiting := waiting_of_alarms_set opens.alarms
  rw [← last] at waiting
  have unused : .poll next.settling.lastNumber ∉ pane.waiting := by
    intro waits
    have before := numbered _ waits
    grind
  refine ⟨?_, ?_, ?_, ?_⟩
  · intro number waits
    rw [waiting, List.mem_append] at waits
    rcases waits with earlier | new
    · exact UInt64.le_trans (numbered number earlier) up
    · simp only [List.mem_singleton, Wakeup.poll.injEq] at new
      rw [new]
      exact UInt64.le_refl _
  · intro number current
    rw [isOpen] at current
    exact (Option.some.inj current).symm
  · intro number current
    rw [isOpen] at current
    cases current
    rw [waiting, List.count_append, List.count_eq_zero.mpr unused]
    simp
  · intro _
    rw [isSettling_eq_isSome, isOpen]
    rfl

variable [ScrollPhysics σ]

/-! ## Numbers that have passed -/

theorem Answer.lastNumber {pane next : Pane σ} {wakeup : Wakeup} {now : Millis}
    (answer : Answer now pane wakeup next) :
    next.settling.lastNumber = pane.settling.lastNumber := by
  cases answer with
  | staleStep => rfl
  | noPhysics => rfl
  | spent => rfl
  | shown held advanced lands jumped =>
      exact congrArg Settling.lastNumber (jumpTo_shows jumped).settling
  | stalePoll => rfl
  | moving => rfl
  | snap current quiet paging unsnapped glided =>
      rw [schedulePoll, setAlarm, (glideToPage_steers glided).carries.settling]
      rfl
  | settled current quiet unpaged placed =>
      rw [(returnToExtent_ends placed).settling]
      rfl

/-- Answering an alarm opens no sequence. -/
theorem Answer.keeps_or_closes {pane next : Pane σ} {wakeup : Wakeup} {now : Millis}
    (answer : Answer now pane wakeup next) :
    next.openNumber? = pane.openNumber? ∨ next.openNumber? = none := by
  cases answer with
  | staleStep => exact .inl rfl
  | noPhysics => exact .inl rfl
  | spent => exact .inl rfl
  | shown held advanced lands jumped =>
      exact .inl (openNumber?_of_settling_eq (jumpTo_shows jumped).settling)
  | stalePoll => exact .inl rfl
  | moving current =>
      exact .inl (by simp [openNumber?, schedulePoll, setAlarm, polled, current])
  | snap current quiet paging unsnapped glided =>
      left
      rw [openNumber?, schedulePoll, setAlarm, (glideToPage_steers glided).carries.settling]
      simp [openNumber?, polled, current]
  | settled current quiet unpaged placed =>
      right
      rw [openNumber?, (returnToExtent_ends placed).settling]
      rfl

theorem Midway.lastNumber {pane reached : Pane σ} {rest : List Wakeup} {now : Millis}
    (midway : Midway pane now reached rest) :
    reached.settling.lastNumber = pane.settling.lastNumber := by
  induction midway with
  | begin => rfl
  | next _ woken ih => exact (wake_answer woken).lastNumber.trans ih

omit [ScrollPhysics σ] in
theorem Settles.lastNumber {pane next : Pane σ} {cause : SettleCause} {now : Millis}
    (settles : Settles pane cause now next) :
    next.settling.lastNumber = pane.settling.lastNumber ∨
      next.settling.lastNumber = pane.settling.lastNumber + 1 := by
  cases settles with
  | joins => exact .inl rfl
  | opens _ opens => exact .inr (congrArg Settling.lastNumber opens.settling)

/-- An operation opens one sequence at most. -/
theorem Change.lastNumber {pane next : Pane σ} {operation : Operation}
    (change : Change pane operation next) :
    next.settling.lastNumber = pane.settling.lastNumber ∨
      next.settling.lastNumber = pane.settling.lastNumber + 1 := by
  cases change with
  | drift drifts => exact .inl (congrArg Settling.lastNumber drifts.settling)
  | configure drifts => exact .inl (congrArg Settling.lastNumber drifts.settling)
  | grab _ grabs =>
      rw [grabs.settling]
      exact .inl rfl
  | drop _ _ drops => exact .inl (congrArg Settling.lastNumber drops.settling)
  | release _ _ drops settles =>
      rw [← drops.settling]
      exact settles.lastNumber
  | glide _ steers => exact .inl (congrArg Settling.lastNumber steers.carries.settling)
  | fling _ steers settles =>
      rw [← steers.carries.settling]
      exact settles.lastNumber
  | frame framed => exact .inl (frame_midway framed).lastNumber

/-- So the numbers do not wrap round in fewer than two to the sixty-fourth turns. -/
theorem Course.sequencesOpened_le_length {start pane : Pane σ} {turns : List (Turn σ)}
    (course : Course start turns pane) : sequencesOpened turns ≤ turns.length :=
  course.climb_le_length (fun pane => pane.settling.lastNumber) Change.lastNumber

/-- A number that has been given to a sequence which is not open any more. -/
structure Past (number : UInt64) (pane : Pane σ) : Prop where
  given : number ≤ pane.settling.lastNumber
  closed : pane.openNumber? ≠ some number

theorem Answer.past {pane next : Pane σ} {wakeup : Wakeup} {now : Millis} {number : UInt64}
    (answer : Answer now pane wakeup next) (past : Past number pane) : Past number next := by
  refine ⟨answer.lastNumber ▸ past.given, ?_⟩
  rcases answer.keeps_or_closes with same | closed
  · rw [same]
    exact past.closed
  · simp [closed]

theorem Midway.past {pane reached : Pane σ} {rest : List Wakeup} {now : Millis}
    {number : UInt64} (midway : Midway pane now reached rest) (past : Past number pane) :
    Past number reached := by
  induction midway with
  | begin => exact ⟨past.given, past.closed⟩
  | next _ woken ih => exact (wake_answer woken).past ih

omit [ScrollPhysics σ] in
theorem Past.of_settling_eq {pane next : Pane σ} {number : UInt64} (past : Past number pane)
    (same : next.settling = pane.settling) : Past number next := by
  refine ⟨same ▸ past.given, ?_⟩
  rw [openNumber?_of_settling_eq same]
  exact past.closed

omit [ScrollPhysics σ] in
theorem Settles.past {pane next : Pane σ} {cause : SettleCause} {now : Millis} {number : UInt64}
    (settles : Settles pane cause now next) (past : Past number pane)
    (up : pane.settling.lastNumber ≤ next.settling.lastNumber) : Past number next := by
  cases settles with
  | joins => exact past
  | opens _ opens =>
      have last : next.settling.lastNumber = pane.settling.lastNumber + 1 := by rw [opens.settling]
      have given := past.given
      refine ⟨UInt64.le_trans given up, ?_⟩
      rw [openNumber?, opens.settling]
      simp only [Option.map_some, ne_eq, Option.some.injEq]
      grind

/-- A number that has passed comes back only when the numbers wrap round. -/
theorem Change.past {pane next : Pane σ} {operation : Operation} {number : UInt64}
    (change : Change pane operation next) (past : Past number pane)
    (up : pane.settling.lastNumber ≤ next.settling.lastNumber) : Past number next := by
  cases change with
  | drift drifts => exact past.of_settling_eq drifts.settling
  | configure drifts => exact past.of_settling_eq drifts.settling
  | grab _ grabs =>
      refine ⟨UInt64.le_trans past.given up, ?_⟩
      rw [openNumber?, grabs.settling]
      simp [Settling.close]
  | drop _ _ drops => exact past.of_settling_eq drops.settling
  | release _ _ drops settles =>
      exact settles.past (past.of_settling_eq drops.settling) (drops.settling ▸ up)
  | glide _ steers => exact past.of_settling_eq steers.carries.settling
  | @fling _ _ steered _ _ steers settles =>
      have same : steered.flung.settling = pane.settling := steers.carries.settling
      exact settles.past (past.of_settling_eq same) (same ▸ up)
  | frame framed => exact (frame_midway framed).past past

theorem Course.past {start pane later : Pane σ} {turns more : List (Turn σ)} {number : UInt64}
    (course : Course start turns pane) (zero : start.settling.lastNumber = 0)
    (onward : Course pane more later)
    (few : sequencesOpened (turns ++ more) < 2 ^ 64) (past : Past number pane) :
    Past number later :=
  course.keeps onward (fun pane => pane.settling.lastNumber) zero few (Past number) past
    fun change up held => change.past held up

/-! ## What keeps polls attended to -/

theorem Answer.attended {pane next : Pane σ} {wakeup : Wakeup} {rest : List Wakeup}
    {now : Millis} (answer : Answer now pane wakeup next)
    (attended : Attended (wakeup :: (rest ++ pane.waiting)) pane) :
    Attended (rest ++ next.waiting) next := by
  cases answer with
  | staleStep => exact attended.keep rfl rfl rfl (by simp)
  | noPhysics => exact attended.keep rfl rfl rfl (by simp)
  | spent => exact attended.keep rfl rfl rfl (by simp [waiting])
  | @shown _ _ left _ _ held advanced lands jumped =>
      have shows := jumpTo_shows jumped
      refine attended.keep (openNumber?_of_settling_eq shows.settling)
        (congrArg Settling.lastNumber shows.settling) shows.flinging ?_
      intro number
      rw [shows.waiting]
      split <;> simp
  | stalePoll stale =>
      refine ⟨?_, attended.latest, ?_, attended.flinging⟩
      · intro number waits
        exact attended.numbered number (List.mem_cons_of_mem _ waits)
      · intro number isOpen
        have others := attended.polled number isOpen
        rwa [List.count_cons_of_ne (by grind [openNumber?])] at others
  -- The poll that is answered is the one that is set again, here and at a snap.
  | @moving sequence current active =>
      refine attended.keep (by simp [openNumber?, schedulePoll, setAlarm, polled, current])
        rfl rfl ?_
      intro number
      rw [schedulePoll, waiting_of_alarms_set rfl, ← List.append_assoc,
        (List.perm_append_singleton _ _).count_eq]
      rfl
  | @snap sequence steered current quiet paging unsnapped glided =>
      have steers := glideToPage_steers glided
      have same : steered.openNumber? = pane.openNumber? := by
        rw [openNumber?, steers.carries.settling]
        simp [polled, openNumber?, current]
      have last : steered.settling.lastNumber = pane.settling.lastNumber := by
        rw [steers.carries.settling]
        rfl
      refine attended.keep same last steers.carries.flinging ?_
      intro number
      rw [schedulePoll, waiting_of_alarms_set rfl, ← List.append_assoc,
        (List.perm_append_singleton _ _).count_eq, List.count_cons, List.count_cons,
        List.count_append, List.count_append, steers.count_poll]
      rfl
  | settled current quiet unpaged placed =>
      have ends := returnToExtent_ends placed
      refine attended.close ?_ ?_ ends.flinging ?_
      · rw [openNumber?, ends.settling]
        rfl
      · rw [ends.settling]
        rfl
      · intro number waits
        rw [waiting_of_alarms_eq ends.alarms] at waits
        exact List.mem_cons_of_mem _ waits

theorem Midway.attended {pane reached : Pane σ} {rest : List Wakeup} {now : Millis}
    (midway : Midway pane now reached rest) (attended : Attended pane.waiting pane) :
    Attended (rest ++ reached.waiting) reached := by
  induction midway with
  | begin => exact attended.keep rfl rfl rfl fun _ => (pane.alarms.ring_perm now).count_eq _
  | next _ woken ih => exact (wake_answer woken).attended ih

theorem Steers.attended {pane next : Pane σ} {now : Millis} (steers : Steers pane now next)
    (attended : Attended pane.waiting pane) : Attended next.waiting next := by
  have carries := steers.carries
  have last := congrArg Settling.lastNumber carries.settling
  exact attended.keep (openNumber?_of_settling_eq carries.settling) last carries.flinging
    steers.count_poll

omit [ScrollPhysics σ] in
theorem Settles.attended {pane next : Pane σ} {cause : SettleCause} {now : Millis}
    (settles : Settles pane cause now next) (attended : Attended pane.waiting pane)
    (up : pane.settling.lastNumber ≤ next.settling.lastNumber) : Attended next.waiting next := by
  cases settles with
  | joins => exact attended
  | opens _ opens => exact opens.attended attended.numbered up

/-- Whatever is done, polls stay attended to until the numbers of the sequences wrap round. -/
theorem Change.attended {pane next : Pane σ} {operation : Operation}
    (change : Change pane operation next) (attended : Attended pane.waiting pane)
    (up : pane.settling.lastNumber ≤ next.settling.lastNumber) : Attended next.waiting next := by
  cases change with
  | drift drifts => exact attended.keep_of_eq drifts.settling drifts.flinging drifts.alarms
  | configure drifts => exact attended.keep_of_eq drifts.settling drifts.flinging drifts.alarms
  | grab _ grabs =>
      refine attended.close ?_ ?_ ?_ ?_
      · rw [openNumber?, grabs.settling]
        rfl
      · rw [grabs.settling]
        rfl
      · rw [grabs.flinging]
        grind [attended.flinging]
      · intro number waits
        rwa [waiting_of_alarms_eq grabs.alarms] at waits
  | drop _ _ drops => exact attended.keep_of_eq drops.settling drops.flinging drops.alarms
  | release _ _ drops settles =>
      have dropped := attended.keep_of_eq drops.settling drops.flinging drops.alarms
      exact settles.attended dropped (drops.settling ▸ up)
  | glide _ steers => exact steers.attended attended
  | @fling _ _ steered _ _ steers settles =>
      have steadied := steers.attended attended
      have last : steered.settling.lastNumber = pane.settling.lastNumber := by
        rw [steers.carries.settling]
      cases settles with
      | joins settling =>
          exact ⟨steadied.numbered, steadied.latest, steadied.polled, fun _ => settling⟩
      | opens closed opens => exact opens.attended steadied.numbered (last ▸ up)
  | frame framed =>
      have done := (frame_midway framed).attended attended
      rwa [List.nil_append] at done

/-! ## Every course -/

theorem Course.attended {start pane : Pane σ} {turns : List (Turn σ)} (fresh : Fresh start)
    (course : Course start turns pane) (few : sequencesOpened turns < 2 ^ 64) :
    Attended pane.waiting pane := by
  have rest := fresh.atRest
  have zero : start.settling.lastNumber = 0 := by rw [rest.settling]; rfl
  have noneWaiting : start.waiting = [] := by rw [waiting, rest.alarms]; rfl
  have noneOpen : start.openNumber? = none := by rw [openNumber?, rest.settling]; rfl
  have first : Attended start.waiting start := by
    refine ⟨by simp [noneWaiting], by simp [noneOpen], by simp [noneOpen], ?_⟩
    simp [rest.state, PaneState.initial]
  exact Course.start.keeps course (fun pane => pane.settling.lastNumber) zero few
    (fun pane => Attended pane.waiting pane) first fun change up attended =>
      change.attended attended up

/--
While a settle sequence is open, exactly one poll of it is waited for.  Any
other poll that is waited for does nothing whenever it is answered, and its
sequence does not open again.
-/
theorem Course.one_poll_while_settling {start pane : Pane σ} {turns : List (Turn σ)}
    (fresh : Fresh start) (course : Course start turns pane)
    (few : sequencesOpened turns < 2 ^ 64) :
    (∀ sequence, pane.settling.current = some sequence →
      pane.waiting.count (.poll sequence.number) = 1 ∧ pane.awaitsFrame = true) ∧
    (∀ number, .poll number ∈ pane.waiting → pane.openNumber? ≠ some number →
      (∀ now, pane.wake now (.poll number) = .ok pane) ∧
      (∀ now reached rest, Midway pane now reached (.poll number :: rest) →
        reached.wake now (.poll number) = .ok reached) ∧
      (∀ more later, Course pane more later → sequencesOpened (turns ++ more) < 2 ^ 64 →
        later.openNumber? ≠ some number)) ∧
    (pane.state.flinging = true → pane.isSettling = true) := by
  have attended := course.attended fresh few
  have zero : start.settling.lastNumber = 0 := by rw [fresh.atRest.settling]; rfl
  refine ⟨?_, ?_, attended.flinging⟩
  · intro sequence current
    have once := attended.polled sequence.number (by rw [openNumber?, current]; rfl)
    have waits : .poll sequence.number ∈ pane.waiting :=
      List.count_pos_iff.mp (once ▸ Nat.one_pos)
    exact ⟨once, awaitsFrame_of_mem waits⟩
  · intro number waits stale
    have past : Past number pane := ⟨attended.numbered number waits, stale⟩
    refine ⟨fun now => runPoll_of_ne stale now, ?_, ?_⟩
    · intro now reached rest midway
      exact runPoll_of_ne (midway.past past).closed now
    · intro more later onward fewMore
      exact (course.past zero onward fewMore past).closed

/-- A drag, its release, and another drag that cuts the settling short and is released too. -/
def interrupted : List Operation :=
  [.layOut ⟨300, 500, 0, 0⟩ 0, .setContent ⟨300, 1000⟩ 0, .grab, .touch ⟨.up, 0, 0, 10⟩,
    .grab, .touch ⟨.up, 0, 0, 15⟩]

theorem Course.one_poll_interrupted :
    ∃ (start pane : Pane Stride) (turns : List (Turn Stride)) (sequence : SettleSequence),
      Fresh start ∧ Course start turns pane ∧ sequencesOpened turns < 2 ^ 64 ∧
      pane.waiting = [.poll 1, .poll 2] ∧ pane.settling.current = some sequence ∧
      (pane.waiting.count (.poll sequence.number) = 1 ∧ pane.awaitsFrame = true) ∧
      (∀ now, pane.wake now (.poll 1) = .ok pane) ∧
      (∀ more later, Course pane more later → sequencesOpened (turns ++ more) < 2 ^ 64 →
        later.openNumber? ≠ some 1) ∧
      (pane.state.flinging = true → pane.isSettling = true) := by
  let start : Pane Stride :=
    create { Settings.standard with momentumEvents := true } .standard (some (.create 40))
  have fresh : Fresh start := .create _ _ _
  have came : (start.run interrupted).map (fun pane => (pane.waiting, pane.settling.current)) =
      .ok ([.poll 1, .poll 2], some ⟨2, false, false⟩) := by decide +kernel
  have few : sequencesOpened (start.history interrupted) < 2 ^ 64 := by decide +kernel
  obtain ⟨pane, ran, same⟩ := Outcome.map_eq_ok_iff.mp came
  obtain ⟨waits, current⟩ := Prod.mk.inj same
  have course := course_history ran
  obtain ⟨once, stale, flinging⟩ := Course.one_poll_while_settling fresh course few
  have first : .poll 1 ∈ pane.waiting := by simp [waits]
  have notOpen : pane.openNumber? ≠ some 1 := by simp [openNumber?, current]
  obtain ⟨idle, _, never⟩ := stale 1 first notOpen
  exact ⟨start, pane, _, _, fresh, course, few, waits, current, once _ current, idle, never,
    flinging⟩

end Pane

end KineticScroll
