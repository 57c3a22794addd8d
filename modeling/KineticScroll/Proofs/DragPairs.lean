import KineticScroll.Proofs.EventProtocol

/-!
# Drags begin and end by turns

A host gives a touch to the pane at most once, between the moment a finger comes
down and the moment it lifts.  As long as scrolling is enabled when the finger
lifts, every drag that has begun ends there, whatever becomes of the settings
meanwhile.  A finger that lifts while scrolling is disabled leaves the drag
going on, and the next one begins before it has ended.
-/

namespace KineticScroll

namespace EventProtocol

/-- Beginnings and ends of drags take turns, with a drag under way as they tell. -/
inductive Paired : List EventKind → (dragging : Bool) → Prop where
  | initial : Paired [] false
  | begins {kinds : List EventKind} : Paired kinds false → Paired (kinds ++ [.dragBegin]) true
  | ends {kinds : List EventKind} : Paired kinds true → Paired (kinds ++ [.dragEnd]) false

theorem Paired.exists_eq_flatten {kinds : List EventKind} {dragging : Bool}
    (paired : Paired kinds dragging) :
    ∃ drags, kinds = (List.replicate drags [.dragBegin, .dragEnd]).flatten ++
      if dragging then [.dragBegin] else [] := by
  induction paired with
  | initial => exact ⟨0, rfl⟩
  | begins _ ih =>
      obtain ⟨drags, rfl⟩ := ih
      exact ⟨drags, by simp⟩
  | ends _ ih =>
      obtain ⟨drags, rfl⟩ := ih
      refine ⟨drags + 1, ?_⟩
      rw [List.replicate_succ', List.flatten_append]
      simp

end EventProtocol

namespace Pane

open EventProtocol

/-! ## Touches -/

/-- The finger lifts. -/
def Operation.lifts : Operation → Bool
  | .touch finger => finger.phase.lifts
  | _ => false

/-- Where the host is with a touch: whether a finger is down, and was given to the pane. -/
inductive Contact where
  | lifted
  | down
  | given
deriving DecidableEq

namespace Contact

def after (contact : Contact) : Operation → Contact
  | .touch finger =>
      match finger.phase with
      | .down => if contact = .lifted then .down else contact
      | .move => contact
      | .up => .lifted
      | .cancel => .lifted
  | .grab => .given
  | _ => contact

/-- A touch is given to the pane while the finger is down, and no second time. -/
def allows (contact : Contact) : Operation → Bool
  | .grab => contact = .down
  | _ => true

/-- Whether a host that starts there gives touches to the pane only as it may. -/
def allowsAll (contact : Contact) : List Operation → Bool
  | [] => true
  | operation :: rest => contact.allows operation && (contact.after operation).allowsAll rest

theorem allowsAll_append (contact : Contact) (early late : List Operation) :
    contact.allowsAll (early ++ late) =
      (contact.allowsAll early && (early.foldl after contact).allowsAll late) := by
  induction early generalizing contact with
  | nil => rfl
  | cons operation rest ih =>
      rw [List.cons_append, allowsAll, allowsAll, ih, List.foldl_cons, Bool.and_assoc]

theorem after_of_lifts {operation : Operation} (lifted : operation.lifts = true)
    (contact : Contact) : contact.after operation = .lifted := by
  cases operation with
  | touch finger =>
      simp only [Operation.lifts, TouchPhase.lifts] at lifted
      cases phase : finger.phase <;> simp [phase] at lifted <;> simp [after, phase]
  | _ => cases lifted

/-- A touch that has been given stays so until the finger lifts. -/
theorem after_given {operation : Operation} (holds : operation.lifts = false) :
    Contact.given.after operation = .given := by
  cases operation with
  | touch finger =>
      simp only [Operation.lifts, TouchPhase.lifts] at holds
      cases phase : finger.phase <;> simp [phase] at holds <;> simp [after, phase]
  | _ => rfl

end Contact

variable {σ : Type}

/-! ## What leaves a drag alone -/

/-- The drag goes on as before, or there is none as before. -/
structure SameDrag (before after : Pane σ) : Prop where
  dragging : after.state.dragging = before.state.dragging
  sent : after.kinds.filter EventKind.isOfDrag = before.kinds.filter EventKind.isOfDrag

theorem SameDrag.refl (pane : Pane σ) : SameDrag pane pane :=
  ⟨rfl, rfl⟩

theorem SameDrag.trans {first second third : Pane σ} (begun : SameDrag first second)
    (ended : SameDrag second third) : SameDrag first third :=
  ⟨ended.dragging.trans begun.dragging, ended.sent.trans begun.sent⟩

theorem filter_momentumKinds (pane : Pane σ) {kind : EventKind}
    (other : kind.isOfDrag = false) :
    (pane.momentumKinds kind).filter EventKind.isOfDrag = [] := by
  unfold momentumKinds
  split <;> simp [other]

theorem Quiet.sameDrag {pane next : Pane σ} (quiet : Quiet pane next) : SameDrag pane next := by
  obtain ⟨count, sent⟩ := quiet.sent
  refine ⟨quiet.dragging, ?_⟩
  rw [sent, List.filter_append, List.filter_replicate]
  simp [EventKind.isOfDrag]

theorem Settles.sameDrag {pane next : Pane σ} {cause : SettleCause} {now : Millis}
    (settles : Settles pane cause now next) : SameDrag pane next := by
  cases settles with
  | joins => exact .refl pane
  | opens _ opens =>
      refine ⟨by rw [opens.state], ?_⟩
      rw [opens.sent, List.filter_append, filter_momentumKinds pane rfl, List.append_nil]

variable [ScrollPhysics σ]

theorem Answer.sameDrag {pane next : Pane σ} {wakeup : Wakeup} {now : Millis}
    (answer : Answer now pane wakeup next) : SameDrag pane next := by
  rcases answer.quiet_or_ends with quiet | ⟨_, ends⟩
  · exact quiet.sameDrag
  · obtain ⟨count, sent⟩ := ends.sent
    refine ⟨ends.dragging, ?_⟩
    rw [sent, List.filter_append, List.filter_append, List.filter_replicate,
      filter_momentumKinds pane rfl]
    simp [EventKind.isOfDrag]

theorem Midway.sameDrag {pane reached : Pane σ} {rest : List Wakeup} {now : Millis}
    (midway : Midway pane now reached rest) : SameDrag pane reached := by
  induction midway with
  | begin => exact ⟨rfl, rfl⟩
  | next _ woken ih => exact ih.trans (wake_answer woken).sameDrag

/-- Only touches and giving them to the pane begin or end a drag. -/
theorem Change.sameDrag {pane next : Pane σ} {operation : Operation}
    (change : Change pane operation next) (notGrab : operation ≠ .grab)
    (notTouch : ∀ finger, operation ≠ .touch finger) : SameDrag pane next := by
  cases change with
  | drift drifts => exact drifts.toCarries.quiet.sameDrag
  | configure drifts =>
      have carried := drifts.toCarries.quiet.sameDrag
      exact ⟨carried.dragging, carried.sent⟩
  | grab => exact absurd rfl notGrab
  | drop => exact absurd rfl (notTouch _)
  | release => exact absurd rfl (notTouch _)
  | glide _ steers => exact steers.carries.quiet.sameDrag
  | @fling _ _ steered _ _ steers settles =>
      have carried := steers.carries.quiet.sameDrag
      have flung : SameDrag pane steered.flung := ⟨carried.dragging, carried.sent⟩
      exact flung.trans settles.sameDrag
  | frame framed => exact (frame_midway framed).sameDrag

/-! ## Drags that a host holds -/

/-- Drags are paired, and only a touch that was given to the pane drags. -/
structure Holds (contact : Contact) (pane : Pane σ) : Prop where
  paired : Paired (pane.kinds.filter EventKind.isOfDrag) pane.state.dragging
  given : pane.state.dragging = true → contact = .given

namespace Holds

variable {contact : Contact} {pane next : Pane σ}

omit [ScrollPhysics σ] in
/-- Where the finger does not lift, an unchanged drag is held as before. -/
theorem keep (holds : Holds contact pane) (same : SameDrag pane next) {operation : Operation}
    (stays : pane.state.dragging = true → operation.lifts = false) :
    Holds (contact.after operation) next := by
  refine ⟨?_, ?_⟩
  · rw [same.dragging, same.sent]
    exact holds.paired
  · intro dragging
    rw [same.dragging] at dragging
    rw [holds.given dragging]
    exact Contact.after_given (stays dragging)

theorem grab (holds : Holds contact pane) (free : contact = .down) {accepted : Bool}
    (grabbed : pane.grab = (accepted, next)) : Holds .given next := by
  have idle : pane.state.dragging = false := by
    cases dragging : pane.state.dragging with
    | false => rfl
    | true =>
        rw [free] at holds
        cases holds.given dragging
  unfold Pane.grab at grabbed
  split at grabbed
  · cases grabbed
    have grabs := pane.takeHold_grabs
    refine ⟨?_, fun _ => rfl⟩
    have cut : (if pane.isSettling then pane.momentumKinds .momentumEnd else []).filter
        EventKind.isOfDrag = [] := by
      split
      · exact filter_momentumKinds pane rfl
      · rfl
    have paired := holds.paired
    rw [idle] at paired
    rw [grabs.dragging, grabs.sent, List.filter_append, List.filter_append, cut, List.append_nil]
    exact paired.begins
  · cases grabbed
    exact ⟨holds.paired, fun _ => rfl⟩

omit [ScrollPhysics σ] in
/-- The drag ends, whether or not settling follows. -/
theorem letGo (holds : Holds contact pane) (dragging : pane.state.dragging = true)
    (speedometer : Option Speedometer) (now : Millis) :
    Holds .lifted ({ pane with speedometer := speedometer }.letGo now) := by
  obtain ⟨dropped, drops, same⟩ := pane.letGo_drops speedometer now
  rw [same]
  have settled : SameDrag dropped
      (if dropped.settlesAfterDrag then dropped.startSettling .drag now else dropped) := by
    split
    · exact (dropped.startSettling_settles .drag now).sameDrag
    · exact .refl dropped
  have free := settled.dragging.trans drops.dragging
  refine ⟨?_, by simp [free]⟩
  have paired := holds.paired
  rw [dragging] at paired
  rw [free, settled.sent, drops.sent, List.filter_append]
  exact paired.ends

omit [ScrollPhysics σ] in
/-- A finger that lifts during a drag has to find scrolling enabled. -/
theorem touch (holds : Holds contact pane) {finger : Touch} {accepted : Bool}
    (enabled : finger.phase.lifts = true → pane.state.dragging = true →
      pane.settings.scrollEnabled = true)
    (touched : pane.touch finger = (accepted, next)) :
    Holds (contact.after (.touch finger)) next := by
  rcases touch_eq_observed_or_letGo touched with
    ⟨endsNone, speedometer, rfl⟩ | ⟨_, ends, speedometer, rfl⟩
  · have same : SameDrag pane { pane with speedometer := speedometer } := ⟨rfl, rfl⟩
    refine holds.keep same fun dragging => ?_
    show finger.phase.lifts = false
    cases lifts : finger.phase.lifts with
    | false => rfl
    | true =>
        have stays := endsNone (enabled lifts dragging)
        rw [lifts, dragging] at stays
        cases stays
  · obtain ⟨lifts, dragging⟩ := Bool.and_eq_true_iff.mp ends
    have lifted : (Operation.touch finger).lifts = true := lifts
    rw [Contact.after_of_lifts lifted]
    exact holds.letGo dragging speedometer finger.time

theorem perform (holds : Holds contact pane) {operation : Operation} {reply : Reply}
    (allowed : contact.allows operation = true)
    (enabled : operation.lifts = true → pane.state.dragging = true →
      pane.settings.scrollEnabled = true)
    (performed : pane.perform operation = .ok (reply, next)) :
    Holds (contact.after operation) next := by
  cases perform_performs performed with
  | grab grabbed => exact holds.grab (by simpa [Contact.allows] using allowed) grabbed
  | touch touched => exact holds.touch enabled touched
  | _ =>
      have same := (perform_change performed).sameDrag (by simp) (by simp)
      exact holds.keep same fun _ => rfl

end Holds

/-! ## Runs -/

/-- Where a host is with a touch after these turns. -/
def contactAfter (turns : List (Turn σ)) : Contact :=
  (turns.map Turn.operation).foldl Contact.after .lifted

theorem Course.holds {start pane : Pane σ} {turns : List (Turn σ)} (fresh : Fresh start)
    (course : Course start turns pane)
    (allowed : Contact.lifted.allowsAll (turns.map Turn.operation) = true)
    (enabled : ∀ turn ∈ turns, turn.operation.lifts = true → turn.before.state.dragging = true →
      turn.before.settings.scrollEnabled = true) :
    Holds (contactAfter turns) pane := by
  induction course with
  | start =>
      have idle : start.state.dragging = false := by rw [fresh.atRest.state]; rfl
      refine ⟨?_, by simp [idle]⟩
      rw [idle, kinds, fresh.atRest.emissions]
      exact .initial
  | @turn turns pane next operation reply course performed ih =>
      rw [List.map_append, Contact.allowsAll_append, Bool.and_eq_true_iff] at allowed
      obtain ⟨before, now⟩ := allowed
      have allowedNow : (contactAfter turns).allows operation = true :=
        (Bool.and_eq_true_iff.mp now).1
      have held := ih before fun turn taken => enabled turn (List.mem_append_left _ taken)
      have enabledNow := enabled ⟨pane, operation, next⟩ (by simp)
      rw [contactAfter, List.map_append, List.foldl_append]
      exact held.perform allowedNow enabledNow performed

/-- So no drag outlasts its touch. -/
theorem Course.dragging_eq_false_of_lifts {start pane : Pane σ} {turns : List (Turn σ)}
    (fresh : Fresh start) (course : Course start turns pane)
    (allowed : Contact.lifted.allowsAll (turns.map Turn.operation) = true)
    (enabled : ∀ turn ∈ turns, turn.operation.lifts = true → turn.before.state.dragging = true →
      turn.before.settings.scrollEnabled = true) :
    ∀ turn ∈ turns, turn.operation.lifts = true → turn.after.state.dragging = false := by
  induction course with
  | start => simp
  | @turn turns pane next operation reply course performed ih =>
      intro turn taken lifts
      rcases List.mem_append.mp taken with earlier | last
      · have before := allowed
        rw [List.map_append, Contact.allowsAll_append, Bool.and_eq_true_iff] at before
        exact ih before.1 (fun turn taken => enabled turn (List.mem_append_left _ taken)) turn
          earlier lifts
      · rw [List.mem_singleton.mp last] at lifts ⊢
        have held := (course.turn performed).holds fresh allowed enabled
        rw [contactAfter, List.map_append, List.foldl_append] at held
        have off : Contact.after (contactAfter turns) operation = .lifted :=
          Contact.after_of_lifts lifts _
        cases dragging : next.state.dragging with
        | false => rfl
        | true =>
            have given := held.given dragging
            cases off.symm.trans given

/--
Where the host gives a touch to the pane at most once and only while the finger
is down, and scrolling is enabled whenever the finger lifts during a drag, drags
begin and end by turns, and none is left when the finger has lifted.
-/
theorem Course.drags_end {start pane : Pane σ} {turns : List (Turn σ)} (fresh : Fresh start)
    (course : Course start turns pane)
    (allowed : Contact.lifted.allowsAll (turns.map Turn.operation) = true)
    (enabled : ∀ turn ∈ turns, turn.operation.lifts = true → turn.before.state.dragging = true →
      turn.before.settings.scrollEnabled = true) :
    (∃ drags, pane.kinds.filter EventKind.isOfDrag =
      (List.replicate drags [.dragBegin, .dragEnd]).flatten ++
        if pane.state.dragging then [.dragBegin] else []) ∧
    ∀ turn ∈ turns, turn.operation.lifts = true → turn.after.state.dragging = false := by
  have held := course.holds fresh allowed enabled
  exact ⟨held.paired.exists_eq_flatten, course.dragging_eq_false_of_lifts fresh allowed enabled⟩

/-- Scrolling is switched off or on. -/
def switchScrolling (enabled : Bool) : Operation :=
  .configure fun settings => { settings with scrollEnabled := enabled }

/-- A drag in the midst of which scrolling is switched off and on again, a tap, and another drag. -/
def draggedThroughSwitch : List Operation :=
  [.layOut ⟨300, 500, 0, 0⟩ 0, .setContent ⟨300, 1000⟩ 0, .touch ⟨.down, 0, 0, 0⟩, .grab,
    switchScrolling false, .touch ⟨.move, 0, 0, 10⟩, switchScrolling true,
    .touch ⟨.up, 0, 0, 20⟩, .fling 100 20, .touch ⟨.down, 0, 0, 30⟩, switchScrolling false,
    .touch ⟨.cancel, 0, 0, 40⟩, switchScrolling true, .touch ⟨.down, 0, 0, 50⟩, .grab]

theorem Course.drags_end_through_switch :
    ∃ (start pane : Pane Stride) (turns : List (Turn Stride)),
      Fresh start ∧ Course start turns pane ∧
      Contact.lifted.allowsAll (turns.map Turn.operation) = true ∧
      (∀ turn ∈ turns, turn.operation.lifts = true → turn.before.state.dragging = true →
        turn.before.settings.scrollEnabled = true) ∧
      pane.state.dragging = true ∧
      pane.kinds.filter EventKind.isOfDrag = [.dragBegin, .dragEnd, .dragBegin] ∧
      (∃ drags, pane.kinds.filter EventKind.isOfDrag =
        (List.replicate drags [.dragBegin, .dragEnd]).flatten ++
          if pane.state.dragging then [.dragBegin] else []) ∧
      ∀ turn ∈ turns, turn.operation.lifts = true → turn.after.state.dragging = false := by
  let start : Pane Stride := create .standard .standard (some (.create 40))
  have fresh : Fresh start := .create _ _ _
  have came : (start.run draggedThroughSwitch).map (fun pane =>
      (pane.state.dragging, pane.kinds.filter EventKind.isOfDrag)) =
      .ok (true, [.dragBegin, .dragEnd, .dragBegin]) := by decide +kernel
  have allowed : Contact.lifted.allowsAll
      ((start.history draggedThroughSwitch).map Turn.operation) = true := by decide +kernel
  have enabled : ∀ turn ∈ start.history draggedThroughSwitch, turn.operation.lifts = true →
      turn.before.state.dragging = true → turn.before.settings.scrollEnabled = true := by
    decide +kernel
  obtain ⟨pane, ran, same⟩ := Outcome.map_eq_ok_iff.mp came
  simp only [Prod.mk.injEq] at same
  obtain ⟨dragging, kinds⟩ := same
  have course := course_history ran
  obtain ⟨paired, free⟩ := Course.drags_end fresh course allowed enabled
  exact ⟨start, pane, _, fresh, course, allowed, enabled, dragging, kinds, paired, free⟩

/-- A drag during which scrolling is switched off, a finger that lifts, and another drag. -/
def liftedWhileOff : List Operation :=
  [.layOut ⟨300, 500, 0, 0⟩ 0, .setContent ⟨300, 1000⟩ 0, .touch ⟨.down, 0, 0, 0⟩, .grab,
    switchScrolling false, .touch ⟨.up, 0, 0, 10⟩, switchScrolling true,
    .touch ⟨.down, 0, 0, 20⟩, .grab]

/-- The drag goes on after the finger has lifted, and a second one begins before it has ended. -/
theorem Course.drag_outlasts_touch :
    ∃ (start pane : Pane Stride) (turns : List (Turn Stride)),
      Fresh start ∧ Course start turns pane ∧
      Contact.lifted.allowsAll (turns.map Turn.operation) = true ∧
      (∃ turn ∈ turns, turn.operation.lifts = true ∧ turn.after.state.dragging = true) ∧
      pane.kinds.filter EventKind.isOfDrag = [.dragBegin, .dragBegin] := by
  let start : Pane Stride := create .standard .standard (some (.create 40))
  have fresh : Fresh start := .create _ _ _
  have sent : (start.run liftedWhileOff).map (fun pane => pane.kinds.filter EventKind.isOfDrag) =
      .ok [.dragBegin, .dragBegin] := by decide +kernel
  have allowed : Contact.lifted.allowsAll
      ((start.history liftedWhileOff).map Turn.operation) = true := by decide +kernel
  have outlasts : ∃ turn ∈ start.history liftedWhileOff,
      turn.operation.lifts = true ∧ turn.after.state.dragging = true := by decide +kernel
  obtain ⟨pane, ran, kinds⟩ := Outcome.map_eq_ok_iff.mp sent
  exact ⟨start, pane, _, fresh, course_history ran, allowed, outlasts, kinds⟩

end Pane

end KineticScroll
