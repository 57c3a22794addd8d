import KineticScroll.Proofs.Course
import KineticScroll.Proofs.LawfulPhysics
import Mathlib.Computability.RegularExpressions

/-!
# The order of events

Scroll events apart, a pane with momentum events sends sequences of two forms:
a drag, its end and the settling after it, or the settling after a fling that
followed no drag.  What has been sent tells whether a drag or a settling is
under way.
-/

namespace KineticScroll

namespace EventKind

def isOfDrag : EventKind → Bool
  | .dragBegin => true
  | .dragEnd => true
  | _ => false

def isOfMomentum : EventKind → Bool
  | .momentumBegin => true
  | .momentumEnd => true
  | _ => false

end EventKind

namespace EventProtocol

open RegularExpression

/-- A drag, which may be begun again before it ends, and the settling after it. -/
def gesture : RegularExpression EventKind :=
  char .dragBegin * star (char .dragBegin) * char .dragEnd *
    (char .momentumBegin * char .momentumEnd)

/-- The settling after a fling that followed no drag. -/
def settling : RegularExpression EventKind :=
  char .momentumBegin * char .momentumEnd

def sequences : RegularExpression EventKind :=
  star (gesture + settling)

def settlings : RegularExpression EventKind :=
  star settling

/-- The end of every drag is followed at once by the beginning of a settling. -/
def AnswersDrags (kinds : List EventKind) : Prop :=
  ∀ before after, kinds = before ++ .dragEnd :: after → after.head? = some .momentumBegin

/-! ## Words -/

theorem char_mem (kind : EventKind) : [kind] ∈ (char kind).matches' :=
  rfl

theorem settling_mem : [.momentumBegin, .momentumEnd] ∈ settling.matches' :=
  Language.append_mem_mul (char_mem .momentumBegin) (char_mem .momentumEnd)

theorem gesture_mem (again : Nat) :
    List.replicate (again + 1) .dragBegin ++ [.dragEnd, .momentumBegin, .momentumEnd] ∈
      gesture.matches' := by
  have repeated : List.replicate again EventKind.dragBegin ∈
      (star (char EventKind.dragBegin)).matches' := by
    refine Language.mem_kstar.mpr ⟨List.replicate again [.dragBegin], by simp, ?_⟩
    intro word listed
    rw [List.eq_of_mem_replicate listed]
    rfl
  have begun := Language.append_mem_mul (char_mem .dragBegin) repeated
  have ended := Language.append_mem_mul begun (char_mem .dragEnd)
  have settled := Language.append_mem_mul ended settling_mem
  rw [List.append_assoc, List.append_assoc] at settled
  exact settled

/-- A finished sequence may follow any others. -/
theorem star_append {form : RegularExpression EventKind} {word next : List EventKind}
    (before : word ∈ (star form).matches') (finished : next ∈ form.matches') :
    word ++ next ∈ (star form).matches' := by
  obtain ⟨parts, rfl, forms⟩ := Language.mem_kstar.mp before
  refine Language.mem_kstar.mpr ⟨parts ++ [next], by simp, ?_⟩
  intro part listed
  rcases List.mem_append.mp listed with earlier | last
  · exact forms part earlier
  · rw [List.mem_singleton.mp last]
    exact finished

/-! ## What has been sent so far -/

/-- How a sequence that is not finished begins, with what is under way meanwhile. -/
inductive Unfinished : List EventKind → (dragging settling : Bool) → Prop where
  | atRest : Unfinished [] false false
  | held (again : Nat) : Unfinished (List.replicate (again + 1) .dragBegin) true false
  | released (again : Nat) :
      Unfinished (List.replicate (again + 1) .dragBegin ++ [.dragEnd, .momentumBegin]) false true
  | flung : Unfinished [.momentumBegin] false true

theorem Unfinished.settle {part : List EventKind} {dragging : Bool}
    (unfinished : Unfinished part dragging true) :
    dragging = false ∧ part ++ [.momentumEnd] ∈ (gesture + settling).matches' := by
  cases unfinished with
  | released again =>
      refine ⟨rfl, Or.inl ?_⟩
      rw [List.append_assoc]
      exact gesture_mem again
  | flung => exact ⟨rfl, Or.inr settling_mem⟩

/-- What is not finished yet can be finished. -/
theorem Unfinished.exists_finish {part : List EventKind} {dragging settling : Bool}
    (unfinished : Unfinished part dragging settling) :
    part = [] ∨ ∃ rest, part ++ rest ∈ (gesture + EventProtocol.settling).matches' := by
  cases settling with
  | true => exact .inr ⟨_, unfinished.settle.2⟩
  | false =>
      cases unfinished with
      | atRest => exact .inl rfl
      | held again => exact .inr ⟨_, .inl (gesture_mem again)⟩

/-- The events so far are in order, with a drag or a settling under way as they tell. -/
structure Orderly (kinds : List EventKind) (dragging settling : Bool) : Prop where
  sections : ∃ word part, kinds.filter (· != .scroll) = word ++ part ∧
    word ∈ sequences.matches' ∧ Unfinished part dragging settling
  answered : AnswersDrags kinds
  dragging : dragging = true ↔ (kinds.filter EventKind.isOfDrag).getLast? = some .dragBegin

/-- Beginnings and ends of settlings take turns. -/
def Alternates (kinds : List EventKind) (settling : Bool) : Prop :=
  ∃ count, kinds.filter EventKind.isOfMomentum =
    (List.replicate count [.momentumBegin, .momentumEnd]).flatten ++
      if settling then [.momentumBegin] else []

theorem AnswersDrags.append {early late : List EventKind}
    (begun : AnswersDrags early) (ended : AnswersDrags late) : AnswersDrags (early ++ late) := by
  intro before after split
  rcases List.append_eq_append_iff.mp split with ⟨gap, rfl, rest⟩ | ⟨gap, rfl, rest⟩
  · exact ended gap after rest
  · cases gap with
    | nil => exact ended [] after rest.symm
    | cons first gap =>
        rw [List.cons_append] at rest
        injection rest with isEnd follows
        subst isEnd
        rw [follows, List.head?_append, begun before gap rfl]
        rfl

theorem answersDrags_of_not_mem {kinds : List EventKind} (noEnds : .dragEnd ∉ kinds) :
    AnswersDrags kinds := by
  rintro before after rfl
  simp at noEnds

theorem answersDrags_release : AnswersDrags [.dragEnd, .momentumBegin] := by
  intro before after split
  rcases List.cons_eq_append_iff.mp split with ⟨rfl, rest⟩ | ⟨front, rfl, rest⟩
  · injection rest with _ follows
    rw [follows]
    rfl
  · exact answersDrags_of_not_mem (by simp) front after rest

namespace Orderly

variable {kinds : List EventKind} {dragging settling : Bool}

theorem initial : Orderly [] false false :=
  ⟨⟨[], [], rfl, Language.nil_mem_kstar _, .atRest⟩, answersDrags_of_not_mem (by simp), by simp⟩

theorem scrolls (orderly : Orderly kinds dragging settling) (count : Nat) :
    Orderly (kinds ++ List.replicate count .scroll) dragging settling := by
  obtain ⟨word, part, split, finished, unfinished⟩ := orderly.sections
  refine ⟨⟨word, part, ?_, finished, unfinished⟩,
    orderly.answered.append (answersDrags_of_not_mem (by simp [List.mem_replicate])), ?_⟩
  · rw [List.filter_append, split, List.filter_replicate]
    simp
  · rw [List.filter_append, List.filter_replicate]
    simpa [EventKind.isOfDrag] using orderly.dragging

theorem dragBegin (orderly : Orderly kinds dragging false) :
    Orderly (kinds ++ [.dragBegin]) true false := by
  obtain ⟨word, part, split, finished, unfinished⟩ := orderly.sections
  refine ⟨⟨word, part ++ [.dragBegin], ?_, finished, ?_⟩,
    orderly.answered.append (answersDrags_of_not_mem (by simp)), ?_⟩
  · rw [List.filter_append, split, ← List.append_assoc]
    rfl
  · cases unfinished with
    | atRest => exact .held 0
    | held again =>
        rw [← List.replicate_succ']
        exact .held (again + 1)
  · simp [List.filter_append, EventKind.isOfDrag]

theorem release (orderly : Orderly kinds true settling) :
    Orderly (kinds ++ [.dragEnd, .momentumBegin]) false true := by
  obtain ⟨word, part, split, finished, unfinished⟩ := orderly.sections
  refine ⟨⟨word, part ++ [.dragEnd, .momentumBegin], ?_, finished, ?_⟩,
    orderly.answered.append answersDrags_release, ?_⟩
  · rw [List.filter_append, split, ← List.append_assoc]
    rfl
  · cases unfinished with
    | held again => exact .released again
  · simp [List.filter_append, EventKind.isOfDrag]

theorem momentumBegin (orderly : Orderly kinds false false) :
    Orderly (kinds ++ [.momentumBegin]) false true := by
  obtain ⟨word, part, split, finished, unfinished⟩ := orderly.sections
  refine ⟨⟨word, part ++ [.momentumBegin], ?_, finished, ?_⟩,
    orderly.answered.append (answersDrags_of_not_mem (by simp)), ?_⟩
  · rw [List.filter_append, split, ← List.append_assoc]
    rfl
  · cases unfinished with
    | atRest => exact .flung
  · simpa [List.filter_append, EventKind.isOfDrag] using orderly.dragging

theorem momentumEnd (orderly : Orderly kinds dragging true) :
    Orderly (kinds ++ [.momentumEnd]) false false := by
  obtain ⟨word, part, split, finished, unfinished⟩ := orderly.sections
  obtain ⟨rfl, completes⟩ := unfinished.settle
  refine ⟨⟨word ++ (part ++ [.momentumEnd]), [], ?_, star_append finished completes, .atRest⟩,
    orderly.answered.append (answersDrags_of_not_mem (by simp)), ?_⟩
  · rw [List.filter_append, split, List.append_nil, ← List.append_assoc]
    rfl
  · simpa [List.filter_append, EventKind.isOfDrag] using orderly.dragging

/-- No drag goes on during a settling. -/
theorem free (orderly : Orderly kinds dragging true) : dragging = false := by
  obtain ⟨word, part, split, finished, unfinished⟩ := orderly.sections
  exact unfinished.settle.1

/-- Whatever has been sent in order is the beginning of some finished sequences. -/
theorem exists_prefix (orderly : Orderly kinds dragging settling) :
    ∃ word ∈ sequences.matches', kinds.filter (· != .scroll) <+: word := by
  obtain ⟨word, part, split, finished, unfinished⟩ := orderly.sections
  rcases unfinished.exists_finish with rfl | ⟨rest, completes⟩
  · refine ⟨word, finished, ?_⟩
    rw [split, List.append_nil]
  · refine ⟨word ++ (part ++ rest), star_append finished completes, rest, ?_⟩
    rw [split, List.append_assoc]

end Orderly

namespace Alternates

variable {kinds : List EventKind} {settling : Bool}

theorem initial : Alternates [] false :=
  ⟨0, rfl⟩

theorem skip (alternates : Alternates kinds settling) {more : List EventKind}
    (others : ∀ kind ∈ more, kind.isOfMomentum = false) : Alternates (kinds ++ more) settling := by
  obtain ⟨count, taken⟩ := alternates
  refine ⟨count, ?_⟩
  have dropped : more.filter EventKind.isOfMomentum = [] :=
    List.filter_eq_nil_iff.mpr fun kind sent => by simp [others kind sent]
  rw [List.filter_append, dropped, List.append_nil, taken]

theorem momentumBegin (alternates : Alternates kinds false) :
    Alternates (kinds ++ [.momentumBegin]) true := by
  obtain ⟨count, taken⟩ := alternates
  refine ⟨count, ?_⟩
  rw [List.filter_append, taken]
  simp [EventKind.isOfMomentum]

theorem momentumEnd (alternates : Alternates kinds true) :
    Alternates (kinds ++ [.momentumEnd]) false := by
  obtain ⟨count, taken⟩ := alternates
  refine ⟨count + 1, ?_⟩
  rw [List.filter_append, taken, List.replicate_succ', List.flatten_append]
  simp [EventKind.isOfMomentum]

theorem exists_prefix (alternates : Alternates kinds settling) :
    ∃ word ∈ settlings.matches', kinds.filter EventKind.isOfMomentum <+: word := by
  obtain ⟨count, taken⟩ := alternates
  have pairs : ∀ more, (List.replicate more
      [EventKind.momentumBegin, EventKind.momentumEnd]).flatten ∈ settlings.matches' := by
    intro more
    refine Language.mem_kstar.mpr ⟨_, rfl, ?_⟩
    intro word listed
    rw [List.eq_of_mem_replicate listed]
    exact settling_mem
  refine ⟨_, pairs (count + 1), ?_⟩
  rw [taken, List.replicate_succ', List.flatten_append, List.prefix_append_right_inj]
  cases settling with
  | true => exact ⟨[.momentumEnd], rfl⟩
  | false => exact ⟨_, rfl⟩

theorem settling_iff (alternates : Alternates kinds settling) :
    settling = true ↔ (kinds.filter EventKind.isOfMomentum).getLast? = some .momentumBegin := by
  obtain ⟨count, taken⟩ := alternates
  rw [taken]
  cases settling with
  | true => simp
  | false =>
      cases count with
      | zero => simp
      | succ count => simp [List.replicate_succ']

end Alternates

end EventProtocol

namespace Pane

open EventProtocol

variable {σ : Type} [ScrollPhysics σ]

/-! ## What operations send -/

/-- Only scroll events are sent, and what is under way stays so. -/
structure Quiet (pane next : Pane σ) : Prop where
  dragging : next.state.dragging = pane.state.dragging
  settling : next.isSettling = pane.isSettling
  sent : ∃ count, next.kinds = pane.kinds ++ List.replicate count .scroll

omit [ScrollPhysics σ] in
theorem Carries.quiet {pane next : Pane σ} (carries : Carries pane next) : Quiet pane next :=
  ⟨carries.dragging, by rw [isSettling, carries.settling, isSettling], carries.kinds⟩

/-- An alarm is answered quietly, unless the answer is that the content has settled. -/
theorem Answer.quiet_or_ends {pane next : Pane σ} {wakeup : Wakeup} {now : Millis}
    (answer : Answer now pane wakeup next) :
    Quiet pane next ∨ (pane.isSettling = true ∧ Ends pane next) := by
  have unchanged : Quiet pane pane := ⟨rfl, rfl, 0, by simp⟩
  cases answer with
  | staleStep => exact .inl unchanged
  | noPhysics => exact .inl unchanged
  | spent => exact .inl ⟨rfl, rfl, 0, by simp [kinds]⟩
  | shown held advanced lands jumped => exact .inl (jumpTo_shows jumped).toCarries.quiet
  | stalePoll => exact .inl unchanged
  | moving current =>
      exact .inl ⟨rfl, by simp [isSettling, Settling.isOpen, schedulePoll, setAlarm, polled, current],
        0, by simp [kinds, schedulePoll, setAlarm, polled]⟩
  | snap current quiet paging unsnapped glided =>
      have steered := (glideToPage_steers glided).carries.quiet
      refine .inl ⟨steered.dragging, steered.settling.trans ?_, steered.sent⟩
      simp [isSettling, Settling.isOpen, polled, current]
  | settled current quiet unpaged placed =>
      exact .inr ⟨by simp [isSettling, Settling.isOpen, current], returnToExtent_ends placed⟩

omit [ScrollPhysics σ] in
theorem momentumKinds_of_asked {pane : Pane σ} (asked : pane.settings.momentumEvents = true)
    (kind : EventKind) : pane.momentumKinds kind = [kind] :=
  if_pos asked

/-! ## Settlings take turns -/

omit [ScrollPhysics σ] in
theorem Quiet.alternates {pane next : Pane σ} (quiet : Quiet pane next)
    (alternates : Alternates pane.kinds pane.isSettling) :
    Alternates next.kinds next.isSettling := by
  obtain ⟨count, sent⟩ := quiet.sent
  rw [sent, quiet.settling]
  refine alternates.skip ?_
  intro kind scrolled
  rw [List.eq_of_mem_replicate scrolled]
  rfl

omit [ScrollPhysics σ] in
theorem Settles.alternates {pane next : Pane σ} {cause : SettleCause} {now : Millis}
    (asked : pane.settings.momentumEvents = true) (settles : Settles pane cause now next)
    (alternates : Alternates pane.kinds pane.isSettling) :
    Alternates next.kinds next.isSettling := by
  cases settles with
  | joins => exact alternates
  | opens closed opens =>
      rw [opens.sent, momentumKinds_of_asked asked, opens.isSettling]
      rw [closed] at alternates
      exact alternates.momentumBegin

theorem Answer.alternates {pane next : Pane σ} {wakeup : Wakeup} {now : Millis}
    (asked : pane.settings.momentumEvents = true) (answer : Answer now pane wakeup next)
    (alternates : Alternates pane.kinds pane.isSettling) :
    Alternates next.kinds next.isSettling := by
  rcases answer.quiet_or_ends with quiet | ⟨wasOpen, ends⟩
  · exact quiet.alternates alternates
  · obtain ⟨count, sent⟩ := ends.sent
    rw [sent, momentumKinds_of_asked asked, ends.isSettling]
    rw [wasOpen] at alternates
    refine (alternates.skip ?_).momentumEnd
    intro kind scrolled
    rw [List.eq_of_mem_replicate scrolled]
    rfl

theorem Midway.alternates {pane reached : Pane σ} {rest : List Wakeup} {now : Millis}
    (asked : pane.settings.momentumEvents = true) (midway : Midway pane now reached rest)
    (alternates : Alternates pane.kinds pane.isSettling) :
    Alternates reached.kinds reached.isSettling := by
  induction midway with
  | begin => exact alternates
  | @next reached _ _ _ midway woken ih =>
      have askedStill : reached.settings.momentumEvents = true := by rw [midway.settings, asked]
      exact (wake_answer woken).alternates askedStill ih

theorem Change.alternates {pane next : Pane σ} {operation : Operation}
    (asked : pane.settings.momentumEvents = true) (change : Change pane operation next)
    (alternates : Alternates pane.kinds pane.isSettling) :
    Alternates next.kinds next.isSettling := by
  cases change with
  | drift drifts => exact drifts.toCarries.quiet.alternates alternates
  | configure drifts => exact drifts.toCarries.quiet.alternates alternates
  | grab _ grabs =>
      rw [grabs.sent, grabs.isSettling, momentumKinds_of_asked asked]
      refine Alternates.skip ?_ (by simp [EventKind.isOfMomentum])
      cases settling : pane.isSettling with
      | true =>
          rw [settling] at alternates
          exact alternates.momentumEnd
      | false =>
          rw [settling] at alternates
          exact alternates.skip (by simp)
  | drop _ _ drops =>
      rw [drops.sent, isSettling, drops.settling]
      exact alternates.skip (by simp [EventKind.isOfMomentum])
  | @release _ dropped _ _ _ drops settles =>
      have askedStill : dropped.settings.momentumEvents = true := by rw [drops.settings, asked]
      refine settles.alternates askedStill ?_
      rw [drops.sent, isSettling, drops.settling]
      exact alternates.skip (by simp [EventKind.isOfMomentum])
  | glide _ steers => exact steers.carries.quiet.alternates alternates
  | @fling _ _ steered _ _ steers settles =>
      have askedStill : steered.flung.settings.momentumEvents = true := by
        rw [flung, steers.carries.settings, asked]
      have flungAlternates : Alternates steered.flung.kinds steered.flung.isSettling :=
        steers.carries.quiet.alternates alternates
      exact settles.alternates askedStill flungAlternates
  | frame framed => exact (frame_midway framed).alternates asked alternates

/-! ## Drags and settlings in order -/

omit [ScrollPhysics σ] in
theorem Quiet.orderly {pane next : Pane σ} (quiet : Quiet pane next)
    (orderly : Orderly pane.kinds pane.state.dragging pane.isSettling) :
    Orderly next.kinds next.state.dragging next.isSettling := by
  obtain ⟨count, sent⟩ := quiet.sent
  rw [sent, quiet.dragging, quiet.settling]
  exact orderly.scrolls count

theorem Answer.orderly {pane next : Pane σ} {wakeup : Wakeup} {now : Millis}
    (asked : pane.settings.momentumEvents = true) (answer : Answer now pane wakeup next)
    (orderly : Orderly pane.kinds pane.state.dragging pane.isSettling) :
    Orderly next.kinds next.state.dragging next.isSettling := by
  rcases answer.quiet_or_ends with quiet | ⟨wasOpen, ends⟩
  · exact quiet.orderly orderly
  · obtain ⟨count, sent⟩ := ends.sent
    rw [wasOpen] at orderly
    rw [sent, momentumKinds_of_asked asked, ends.isSettling, ends.dragging, orderly.free]
    exact (orderly.scrolls count).momentumEnd

theorem Midway.orderly {pane reached : Pane σ} {rest : List Wakeup} {now : Millis}
    (asked : pane.settings.momentumEvents = true) (midway : Midway pane now reached rest)
    (orderly : Orderly pane.kinds pane.state.dragging pane.isSettling) :
    Orderly reached.kinds reached.state.dragging reached.isSettling := by
  induction midway with
  | begin => exact orderly
  | @next reached _ _ _ midway woken ih =>
      have askedStill : reached.settings.momentumEvents = true := by rw [midway.settings, asked]
      exact (wake_answer woken).orderly askedStill ih

theorem Change.orderly {pane next : Pane σ} {operation : Operation}
    (asked : pane.settings.momentumEvents = true) (change : Change pane operation next)
    (mannered : operation.isFling = true → pane.state.dragging = false)
    (orderly : Orderly pane.kinds pane.state.dragging pane.isSettling) :
    Orderly next.kinds next.state.dragging next.isSettling := by
  cases change with
  | drift drifts => exact drifts.toCarries.quiet.orderly orderly
  | configure drifts => exact drifts.toCarries.quiet.orderly orderly
  | grab _ grabs =>
      rw [grabs.sent, grabs.isSettling, grabs.dragging, momentumKinds_of_asked asked]
      refine @Orderly.dragBegin _ pane.state.dragging ?_
      cases settling : pane.isSettling with
      | true =>
          rw [settling] at orderly
          rw [orderly.free]
          exact orderly.momentumEnd
      | false =>
          rw [settling] at orderly
          simpa using orderly
  | drop _ _ drops notWorth => simp [settlesAfterDrag, drops.settings, asked] at notWorth
  | @release _ dropped _ _ dragging drops settles =>
      rw [dragging] at orderly
      cases settles with
      -- No sequence is open while a drag goes on.
      | joins settling =>
          rw [isSettling, drops.settling] at settling
          rw [isSettling, settling] at orderly
          cases orderly.free
      | opens closed opens =>
          have askedStill : dropped.settings.momentumEvents = true := by
            rw [drops.settings, asked]
          rw [opens.sent, momentumKinds_of_asked askedStill, drops.sent, opens.state,
            drops.dragging, opens.isSettling, List.append_assoc]
          exact orderly.release
  | glide _ steers => exact steers.carries.quiet.orderly orderly
  | @fling _ _ steered _ _ steers settles =>
      have steeredOrderly := steers.carries.quiet.orderly orderly
      cases settles with
      -- A release has opened the sequence before.
      | joins settling => exact steeredOrderly
      | opens closed opens =>
          have askedStill : steered.flung.settings.momentumEvents = true := by
            rw [flung, steers.carries.settings, asked]
          have free : steered.flung.state.dragging = false := by
            rw [flung, steers.carries.dragging, mannered rfl]
          have still : Orderly steered.flung.kinds steered.flung.state.dragging
              steered.flung.isSettling := steeredOrderly
          rw [free, closed] at still
          rw [opens.sent, momentumKinds_of_asked askedStill, opens.state, free, opens.isSettling]
          exact still.momentumBegin
  | frame framed => exact (frame_midway framed).orderly asked orderly

/-! ## Every course -/

theorem Course.alternates {start pane : Pane σ} {turns : List (Turn σ)} (fresh : Fresh start)
    (course : Course start turns pane) (asked : start.settings.momentumEvents = true)
    (askedOn : ∀ turn ∈ turns, turn.after.settings.momentumEvents = true) :
    Alternates pane.kinds pane.isSettling := by
  induction course with
  | start =>
      rw [kinds, fresh.atRest.emissions, isSettling, fresh.atRest.settling]
      exact .initial
  | turn course performed ih =>
      have askedBefore := fun turn taken => askedOn turn (List.mem_append_left _ taken)
      have askedNow := course.of_forall (fun pane => pane.settings.momentumEvents = true)
        asked askedBefore
      exact (perform_change performed).alternates askedNow (ih askedBefore)

theorem Course.orderly {start pane : Pane σ} {turns : List (Turn σ)} (fresh : Fresh start)
    (course : Course start turns pane) (asked : start.settings.momentumEvents = true)
    (askedOn : ∀ turn ∈ turns, turn.after.settings.momentumEvents = true)
    (mannered : ∀ turn ∈ turns,
      turn.operation.isFling = true → turn.before.state.dragging = false) :
    Orderly pane.kinds pane.state.dragging pane.isSettling := by
  induction course with
  | start =>
      rw [kinds, fresh.atRest.emissions, isSettling, fresh.atRest.settling, fresh.atRest.state]
      exact .initial
  | turn course performed ih =>
      have askedBefore := fun turn taken => askedOn turn (List.mem_append_left _ taken)
      have manneredBefore := fun turn taken => mannered turn (List.mem_append_left _ taken)
      have askedNow := course.of_forall (fun pane => pane.settings.momentumEvents = true)
        asked askedBefore
      have manneredNow := mannered _ (List.mem_append_right _ List.mem_cons_self)
      exact (perform_change performed).orderly askedNow manneredNow (ih askedBefore manneredBefore)

/--
Where momentum events are asked for throughout, settlings take turns whatever is
done to the pane, and unless it is flung in the midst of a drag, its events are
the beginning of finished sequences.  They tell whether a drag or a settling is
under way.
-/
theorem Course.events_in_order {start pane : Pane σ} {turns : List (Turn σ)} (fresh : Fresh start)
    (course : Course start turns pane) (asked : start.settings.momentumEvents = true)
    (askedOn : ∀ turn ∈ turns, turn.after.settings.momentumEvents = true) :
    ((∀ turn ∈ turns, turn.operation.isFling = true → turn.before.state.dragging = false) →
      (∃ word ∈ sequences.matches', pane.kinds.filter (· != .scroll) <+: word) ∧
      AnswersDrags pane.kinds ∧
      (pane.state.dragging = true ↔
        (pane.kinds.filter EventKind.isOfDrag).getLast? = some .dragBegin)) ∧
    (∃ word ∈ settlings.matches', pane.kinds.filter EventKind.isOfMomentum <+: word) ∧
    (pane.isSettling = true ↔
      (pane.kinds.filter EventKind.isOfMomentum).getLast? = some .momentumBegin) := by
  have alternates := course.alternates fresh asked askedOn
  refine ⟨?_, alternates.exists_prefix, alternates.settling_iff⟩
  intro mannered
  have orderly := course.orderly fresh asked askedOn mannered
  exact ⟨orderly.exists_prefix, orderly.answered, orderly.dragging⟩

/-- A drag that ends in a fling and settles, and the beginning of another drag. -/
def strokes : List Operation :=
  [.layOut ⟨300, 500, 0, 0⟩ 0, .setContent ⟨300, 1000⟩ 0, .grab, .touch ⟨.up, 0, 0, 10⟩,
    .fling 100 12, .frame 16, .frame 40, .frame 60, .frame 80, .grab]

theorem Course.events_in_order_strokes :
    ∃ (start pane : Pane Stride) (turns : List (Turn Stride)),
      Fresh start ∧ Course start turns pane ∧ start.settings.momentumEvents = true ∧
      (∀ turn ∈ turns, turn.after.settings.momentumEvents = true) ∧
      (∀ turn ∈ turns, turn.operation.isFling = true → turn.before.state.dragging = false) ∧
      pane.kinds = [.dragBegin, .dragEnd, .momentumBegin, .scroll, .scroll, .scroll,
        .momentumEnd, .dragBegin] ∧
      ((∃ word ∈ sequences.matches', pane.kinds.filter (· != .scroll) <+: word) ∧
        AnswersDrags pane.kinds ∧
        (pane.state.dragging = true ↔
          (pane.kinds.filter EventKind.isOfDrag).getLast? = some .dragBegin)) ∧
      (∃ word ∈ settlings.matches', pane.kinds.filter EventKind.isOfMomentum <+: word) ∧
      (pane.isSettling = true ↔
        (pane.kinds.filter EventKind.isOfMomentum).getLast? = some .momentumBegin) := by
  let start : Pane Stride :=
    create { Settings.standard with momentumEvents := true } .standard (some (.create 40))
  have fresh : Fresh start := .create _ _ _
  have sent : (start.run strokes).map kinds = .ok [.dragBegin, .dragEnd, .momentumBegin,
      .scroll, .scroll, .scroll, .momentumEnd, .dragBegin] := by decide +kernel
  have asked : ∀ turn ∈ start.history strokes, turn.after.settings.momentumEvents = true := by
    decide +kernel
  have mannered : ∀ turn ∈ start.history strokes,
      turn.operation.isFling = true → turn.before.state.dragging = false := by
    decide +kernel
  obtain ⟨pane, ran, kinds⟩ := Outcome.map_eq_ok_iff.mp sent
  have course := course_history ran
  obtain ⟨orderly, alternates, settling⟩ := Course.events_in_order fresh course rfl asked
  exact ⟨start, pane, _, fresh, course, rfl, asked, mannered, kinds, orderly mannered, alternates,
    settling⟩

end Pane

end KineticScroll
