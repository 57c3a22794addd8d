import KineticScroll.Proofs.Fitting

/-!
# Echoes

A host that follows a jump reports the position it was sent to, and so does one
that reports its position more than once.  Such a report is an echo: the content
has been seen there last.  Two things give the content a position, a report of
the host and a jump of the pane, and whatever else is done to a pane, the
movement filter remembers the last of these and the offset is the same.  So an
echo changes nothing, and a report that is no echo is never dropped.
-/

namespace KineticScroll

/-- Where a command takes the host at once, if it does. -/
def Command.target? : Command → Option Offset
  | .jump target => some target
  | _ => none

/-- The targets of the jumps among commands. -/
def Command.targets (commands : List Command) : List Offset :=
  commands.filterMap Command.target?

theorem Command.targets_append (early late : List Command) :
    targets (early ++ late) = targets early ++ targets late :=
  List.filterMap_append

theorem Command.target?_of_startsMotion {command : Command}
    (starts : command.startsMotion = true) : command.target? = none := by
  cases command with
  | jump target => cases starts
  | _ => rfl

namespace Pane

variable {σ : Type}

/-- The offset at which the content has been seen last, if it has been seen at all. -/
def sighted? (pane : Pane σ) : Option Offset :=
  pane.movements.last.map Sighting.offset

/-- The commands that a turn has added to those the host has not taken yet. -/
def Turn.sent (turn : Turn σ) : List Command :=
  turn.after.commands.drop turn.before.commands.length

/-- The positions that a turn gives to the content: the one reported, or those jumped to. -/
def Turn.positions (turn : Turn σ) : List Offset :=
  match turn.operation with
  | .reportPosition position _ => [position]
  | _ => Command.targets turn.sent

/-! ## Jumps -/

/-- The content has been seen last where the last of the jumps that were sent has led. -/
structure Traces (pane next : Pane σ) : Prop where
  sent : ∃ sent, next.commands = pane.commands ++ sent ∧
    next.sighted? = (Command.targets sent).getLast?.or pane.sighted?

namespace Traces

theorem trans {first second third : Pane σ} (begun : Traces first second)
    (ended : Traces second third) : Traces first third := by
  obtain ⟨early, sentEarly, seenEarly⟩ := begun.sent
  obtain ⟨late, sentLate, seenLate⟩ := ended.sent
  refine ⟨early ++ late, ?_, ?_⟩
  · rw [sentLate, sentEarly, List.append_assoc]
  · rw [seenLate, seenEarly, Command.targets_append, List.getLast?_append, Option.or_assoc]

/-- Nothing is seen of the content, and at most a motion is asked for. -/
theorem of_still {pane next : Pane σ} (movements : next.movements = pane.movements)
    (asks : next.commands = pane.commands ∨
      ∃ command, command.startsMotion = true ∧ next.commands = pane.commands ++ [command]) :
    Traces pane next := by
  have sighted : next.sighted? = pane.sighted? := by rw [sighted?, movements, sighted?]
  rcases asks with same | ⟨command, starts, asked⟩
  · exact ⟨[], by rw [same, List.append_nil], sighted⟩
  · refine ⟨[command], asked, ?_⟩
    simp [Command.targets, Command.target?_of_startsMotion starts, sighted]

end Traces

theorem Stays.traces {pane next : Pane σ} (stays : Stays pane next) : Traces pane next :=
  .of_still stays.movements (.inl stays.commands)

/-- The content has been seen where it was reported, now or before. -/
theorem Arrives.sighted {pane next : Pane σ} {target : Offset} {now : Millis}
    (arrives : Arrives pane target now next) : next.sighted? = some target := by
  cases arrives with
  | repeats seen => exact seen
  | moves last _ _ _ => rw [sighted?, last]; rfl

theorem jumpTo_traces {pane next : Pane σ} {y : Px} {now : Millis}
    (jumped : pane.jumpTo y now = .ok next) : Traces pane next := by
  have arrives := jumpTo_arrives jumped
  exact ⟨[.jump ⟨pane.offset.x, y⟩], arrives.commands_eq, arrives.sighted⟩

theorem Shifts.traces {pane next : Pane σ} {now : Millis} (shifts : Shifts pane now next) :
    Traces pane next := by
  cases shifts with
  | stays stays _ => exact stays.traces
  | jumps stays _ jumped => exact stays.traces.trans (jumpTo_traces jumped)

theorem Defers.traces {pane next : Pane σ} (defers : Defers pane next) : Traces pane next :=
  .of_still defers.movements (defers.asks.imp_right fun ⟨_, asked⟩ => asked)

variable [ScrollPhysics σ]

theorem fling_traces {pane next : Pane σ} {velocity : Px} {now : Millis}
    (flung : pane.fling velocity now = .ok next) : Traces pane next := by
  obtain ⟨asked, defers, same⟩ := fling_defers flung
  rcases same with rfl | rfl
  · exact defers.traces
  · have settled := (asked.flung.startSettling_stays .fling now).traces
    exact defers.traces.trans ⟨settled.sent⟩

theorem Answer.traces {pane next : Pane σ} {wakeup : Wakeup} {now : Millis}
    (answer : Answer now pane wakeup next) : Traces pane next := by
  cases answer with
  | staleStep => exact (Stays.refl pane).traces
  | noPhysics => exact (Stays.refl pane).traces
  | spent => exact .of_still rfl (.inl rfl)
  | shown held advanced lands jumped =>
      have shown := (jumpTo_traces jumped).sent
      split <;> exact ⟨shown⟩
  | stalePoll => exact (Stays.refl pane).traces
  | moving => exact .of_still rfl (.inl rfl)
  | snap current quiet paging unsnapped glided => exact ⟨(glideToPage_defers glided).traces.sent⟩
  | @settled sequence returned current quiet unpaged placed =>
      have announced := (announce_stays returned .momentumEnd .disable).traces
      have back : Traces pane returned := by
        rcases returnToExtent_eq_ok placed with rfl | ⟨y, moved, jumped, rfl⟩
        · exact .of_still rfl (.inl rfl)
        · exact ⟨(jumpTo_traces jumped).sent⟩
      exact back.trans announced

theorem frame_traces {pane next : Pane σ} {now : Millis} (framed : pane.frame now = .ok next) :
    Traces pane next :=
  frame_keeps (Traces pane) framed (.of_still rfl (.inl rfl)) fun answer traces =>
    traces.trans answer.traces

/-! ## Positions -/

omit [ScrollPhysics σ] in
/-- Where an operation reports no position, the jumps that it sends are the ones it gives. -/
theorem Traces.positions {pane next : Pane σ} (traces : Traces pane next) {operation : Operation}
    (others : ∀ position now, operation ≠ .reportPosition position now) :
    next.sighted? = (Turn.positions ⟨pane, operation, next⟩).getLast?.or pane.sighted? := by
  obtain ⟨sent, asked, sighted⟩ := traces.sent
  have added : Turn.sent ⟨pane, operation, next⟩ = sent := by
    rw [Turn.sent, asked, List.drop_left]
  unfold Turn.positions
  cases operation with
  | reportPosition position now => exact absurd rfl (others position now)
  | _ => rw [added]; exact sighted

/-- Whatever else is done than reporting a position, jumps alone tell where the content is. -/
theorem perform_traces {pane next : Pane σ} {operation : Operation} {reply : Reply}
    (performed : pane.perform operation = .ok (reply, next))
    (others : ∀ position now, operation ≠ .reportPosition position now)
    (left : operation ≠ .collectCommands) : Traces pane next := by
  cases perform_performs performed with
  | reportPosition => exact absurd rfl (others _ _)
  | collectCommands => exact absurd rfl left
  | configure configured => exact (configure_stays configured).1.traces
  | layOut laid => exact (layOut_shifts laid).traces
  | setContent set => exact (setContent_shifts set).traces
  | resizeContent resized => exact (resizeContent_shifts resized).traces
  | enterWindow entered =>
      obtain ⟨culling, rfl⟩ := refreshCulling_eq_ok entered
      exact .of_still rfl (.inl rfl)
  | refreshCulling refreshed => exact (refreshCulling_stays refreshed).1.traces
  | grab grabbed => exact (grab_stays grabbed).traces
  | touch touched => exact (touch_stays touched).traces
  | fling flung => exact fling_traces flung
  | frame framed => exact frame_traces framed
  | flashIndicators => exact ⟨[.flashIndicators], rfl, rfl⟩
  | _ => exact .of_still rfl (.inl rfl)

/-- The content has been seen last at the last position that a turn has given it. -/
theorem perform_sighted {pane next : Pane σ} {operation : Operation} {reply : Reply}
    (performed : pane.perform operation = .ok (reply, next)) :
    next.sighted? = (Turn.positions ⟨pane, operation, next⟩).getLast?.or pane.sighted? := by
  cases operation with
  | reportPosition position now =>
      obtain ⟨⟨event, moved⟩, reported, same⟩ := Outcome.map_eq_ok_iff.mp performed
      cases same
      rw [(reportPosition_arrives reported).sighted]
      rfl
  -- Commands that are taken away were sent before.
  | collectCommands =>
      cases performed
      simp [Turn.positions, Turn.sent, Command.targets, sighted?]
  | _ => exact (perform_traces performed (by simp) (by simp)).positions (by simp)

/-- The movement filter remembers the last position that anything has given the content. -/
theorem Course.sighted {start pane : Pane σ} {turns : List (Turn σ)} (fresh : Fresh start)
    (course : Course start turns pane) :
    pane.sighted? = (turns.flatMap Turn.positions).getLast? := by
  induction course with
  | start => rw [sighted?, fresh.atRest.movements]; rfl
  | turn _ performed ih =>
      rw [perform_sighted performed, ih, List.flatMap_append, List.getLast?_append]
      simp

/-! ## Reports -/

omit [ScrollPhysics σ] in
/-- A report of the position seen last is taken without a fault and changes nothing. -/
theorem reportPosition_of_seen {pane : Pane σ} {position : Offset}
    (seen : pane.sighted? = some position) (now : Millis) :
    pane.reportPosition position now = .ok (none, pane) := by
  unfold reportPosition
  rw [MovementFilter.report_of_last_eq seen]
  rfl

/-- A report has moved the content, and one scroll event tells of it. -/
structure Reports (pane : Pane σ) (position : Offset) (event : PaneEvent) (next : Pane σ) :
    Prop where
  kind : event.kind = .scroll
  told : event.offset = position
  offset : next.offset = position
  active : next.state.active = true
  sent : next.emissions = pane.emissions ++ [⟨pane.settings.listening, event⟩]

omit [ScrollPhysics σ] in
theorem reportPosition_reports {pane next : Pane σ} {position : Offset} {now : Millis}
    {event : Option PaneEvent} (unseen : pane.sighted? ≠ some position)
    (reported : pane.reportPosition position now = .ok (event, next)) :
    ∃ sent, event = some sent ∧ Reports pane position sent next := by
  obtain ⟨offset, _, sent, same, kind, told, emissions⟩ := reportPosition_of_unseen unseen reported
  refine ⟨sent, same, kind, told, offset, ?_, emissions⟩
  cases reportPosition_arrives reported with
  | repeats seen => exact absurd seen unseen
  | moves _ _ active _ => exact active

/--
The content is where it was last reported or jumped to.  A report makes an event
unless it echoes that position; then it leaves the pane as it is, and else the
event and the offset carry the position reported.  So an echo of the last jump
never makes a second event.
-/
theorem Course.only_echoes_dropped {start pane : Pane σ} {turns : List (Turn σ)}
    (fresh : Fresh start) (course : Course start turns pane) :
    pane.sighted? = (turns.flatMap Turn.positions).getLast? ∧
    pane.offset = pane.sighted?.getD ⟨0, 0⟩ ∧
    (∀ position now event next, pane.reportPosition position now = .ok (event, next) →
      (event.isSome = true ↔ turns.flatMap Turn.positions = [] ∨ position ≠ pane.offset) ∧
      (event = none → next = pane) ∧
      ∀ sent, event = some sent → Reports pane position sent next) ∧
    ∀ target, (turns.flatMap Turn.positions).getLast? = some target →
      ∀ now, pane.reportPosition target now = .ok (none, pane) := by
  have sighted := course.sighted fresh
  have located : pane.offset = pane.sighted?.getD ⟨0, 0⟩ := course.located fresh
  refine ⟨sighted, located, ?_, ?_⟩
  · intro position now event next reported
    by_cases seen : pane.sighted? = some position
    · rw [reportPosition_of_seen seen] at reported
      cases reported
      refine ⟨?_, fun _ => rfl, nofun⟩
      have there : pane.offset = position := by rw [located, seen]; rfl
      have given : turns.flatMap Turn.positions ≠ [] := by
        intro empty
        rw [seen, empty] at sighted
        cases sighted
      simp [given, there]
    · obtain ⟨sent, rfl, reports⟩ := reportPosition_reports seen reported
      refine ⟨?_, nofun, ?_⟩
      · simp only [Option.isSome_some, true_iff]
        cases last : pane.sighted? with
        | none =>
            left
            rw [last] at sighted
            exact List.getLast?_eq_none_iff.mp sighted.symm
        | some there =>
            right
            rintro rfl
            rw [located, last] at seen
            exact seen rfl
      · rintro _ ⟨⟩
        exact reports
  · intro target last now
    exact reportPosition_of_seen (sighted.trans last) now

/-- Content that is scrolled and then shrinks, a host that takes the jump, and a fling. -/
def scrolledAndCut : List Operation :=
  [.layOut ⟨300, 500, 0, 0⟩ 0, .setContent ⟨300, 1000⟩ 0, .reportPosition ⟨0, 400⟩ 10,
    .resizeContent ⟨300, 600⟩ 20, .collectCommands, .fling (-40) 30]

theorem Course.only_echoes_dropped_cut :
    ∃ (start pane next : Pane Stride) (turns : List (Turn Stride)) (event : Option PaneEvent),
      Fresh start ∧ Course start turns pane ∧
      turns.flatMap Turn.positions = [⟨0, 400⟩, ⟨0, 100⟩] ∧
      pane.reportPosition ⟨0, 100⟩ 40 = .ok (none, pane) ∧
      pane.reportPosition ⟨0, 90⟩ 40 = .ok (event, next) ∧ event.isSome = true ∧
      ∀ sent, event = some sent → Reports pane ⟨0, 90⟩ sent next := by
  let start : Pane Stride := create .standard .standard (some (.create 40))
  have fresh : Fresh start := .create _ _ _
  have given : (start.history scrolledAndCut).flatMap Turn.positions = [⟨0, 400⟩, ⟨0, 100⟩] := by
    decide +kernel
  have came : (start.run scrolledAndCut).map Pane.offset = .ok ⟨0, 100⟩ := by decide +kernel
  have told : (start.run scrolledAndCut >>= fun pane => pane.reportPosition ⟨0, 90⟩ 40).map
      (fun reported => reported.2.offset) = .ok ⟨0, 90⟩ := by decide +kernel
  obtain ⟨pane, ran, there⟩ := Outcome.map_eq_ok_iff.mp came
  rw [ran] at told
  obtain ⟨⟨event, next⟩, reported, _⟩ := Outcome.map_eq_ok_iff.mp told
  have course := course_history ran
  obtain ⟨_, _, reports, echoes⟩ := Course.only_echoes_dropped fresh course
  have moved : pane.reportPosition ⟨0, 90⟩ 40 = .ok (event, next) := reported
  obtain ⟨some_iff, _, carries⟩ := reports ⟨0, 90⟩ 40 event next moved
  have away : (⟨0, 90⟩ : Offset) ≠ pane.offset := by rw [there]; decide
  exact ⟨start, pane, next, _, event, fresh, course, given, echoes ⟨0, 100⟩ (by rw [given]; rfl) 40,
    moved, some_iff.mpr (.inr away), carries⟩

end Pane

end KineticScroll
