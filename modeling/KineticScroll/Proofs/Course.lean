import KineticScroll.Proofs.Answer
import Mathlib.Algebra.GroupWithZero.Nat
import Mathlib.Control.Monad.Basic

/-!
# The course of a pane

A host sets a pane up and then performs operations on it, one after the other
and in any order.  The course of the pane is what was done and what came of it,
as long as nothing has faulted.
-/

namespace KineticScroll

namespace Pane

variable {σ : Type} [ScrollPhysics σ]

/-- A pane that has been set up, with nothing done to it yet. -/
inductive Fresh : Pane σ → Prop where
  | create (settings : Settings) (platform : Platform) (physics : Option σ) :
      Fresh (create settings platform physics)
  | withSpeedometer {pane : Pane σ} (rule : List SpeedometerCall → Velocity) :
      Fresh pane → Fresh (pane.withSpeedometer rule)
  | withMeter {pane : Pane σ} : Fresh pane → Fresh pane.withMeter

def Operation.isFling : Operation → Bool
  | .fling _ _ => true
  | _ => false

/-- An operation, with the pane before and after it. -/
structure Turn (σ : Type) where
  before : Pane σ
  operation : Operation
  after : Pane σ

/-- The pane that comes of a list of turns. -/
inductive Course (start : Pane σ) : List (Turn σ) → Pane σ → Prop where
  | start : Course start [] start
  | turn {turns : List (Turn σ)} {pane next : Pane σ} {operation : Operation} {reply : Reply} :
      Course start turns pane → pane.perform operation = .ok (reply, next) →
        Course start (turns ++ [⟨pane, operation, next⟩]) next

/-- The turns that operations make, up to the first that faults. -/
def history (pane : Pane σ) : List Operation → List (Turn σ)
  | [] => []
  | operation :: rest =>
      match pane.perform operation with
      | .error _ => []
      | .ok (_, next) => ⟨pane, operation, next⟩ :: next.history rest

/-- How far a number that only counts up has come: wrapping round is counted too. -/
def climb (number : Pane σ → UInt64) (turns : List (Turn σ)) : Nat :=
  (turns.map fun turn => (number turn.after - number turn.before).toNat).sum

/-- How many settle sequences have been opened: each takes the next number. -/
def sequencesOpened (turns : List (Turn σ)) : Nat :=
  climb (fun pane => pane.settling.lastNumber) turns

/-- How often the number of the motion has gone up, by a start or by a drag. -/
def motionsNumbered (turns : List (Turn σ)) : Nat :=
  climb (fun pane => pane.animation.generation) turns

/-! ## Laws -/

/-- Nothing is under way in a fresh pane but what its physics may have brought along. -/
structure AtRest (pane : Pane σ) : Prop where
  state : pane.state = .initial
  settling : pane.settling = .idle
  alarms : pane.alarms = .empty
  emissions : pane.emissions = []
  movements : pane.movements = .initial
  commands : pane.commands = []
  generation : pane.animation.generation = 0

theorem Fresh.atRest {pane : Pane σ} (fresh : Fresh pane) : AtRest pane := by
  induction fresh with
  | create settings platform physics =>
      refine ⟨rfl, rfl, rfl, rfl, rfl, rfl, ?_⟩
      show (Animation.adopt physics).generation = 0
      unfold Animation.adopt
      cases physics with
      | none => rfl
      | some physics =>
          dsimp only
          split <;> rfl
  | withSpeedometer rule _ ih =>
      exact ⟨ih.state, ih.settling, ih.alarms, ih.emissions, ih.movements, ih.commands,
        ih.generation⟩
  | withMeter _ ih =>
      exact ⟨ih.state, ih.settling, ih.alarms, ih.emissions, ih.movements, ih.commands,
        ih.generation⟩

theorem Course.trans {first second third : Pane σ} {early late : List (Turn σ)}
    (begun : Course first early second) (ended : Course second late third) :
    Course first (early ++ late) third := by
  induction ended with
  | start => simpa using begun
  | turn _ performed ih => simpa using ih.turn performed

/-- What holds of the start and after every turn holds of the pane that comes of them. -/
theorem Course.of_forall {start pane : Pane σ} {turns : List (Turn σ)}
    (course : Course start turns pane) (holds : Pane σ → Prop) (first : holds start)
    (all : ∀ turn ∈ turns, holds turn.after) : holds pane := by
  cases course with
  | start => exact first
  | turn _ _ => exact all _ (List.mem_append_right _ List.mem_cons_self)

theorem run_append_eq_ok {start middle pane : Pane σ} {early late : List Operation}
    (begun : start.run early = .ok middle) (ended : middle.run late = .ok pane) :
    start.run (early ++ late) = .ok pane := by
  induction early generalizing start with
  | nil =>
      cases begun
      exact ended
  | cons operation rest ih =>
      obtain ⟨⟨reply, next⟩, performed, remaining⟩ := Outcome.bind_eq_ok_iff.mp begun
      exact Outcome.bind_eq_ok_iff.mpr ⟨(reply, next), performed, ih remaining⟩

/-- What operations have come to is the course of their history. -/
theorem course_history {start pane : Pane σ} {operations : List Operation}
    (ran : start.run operations = .ok pane) : Course start (start.history operations) pane := by
  induction operations generalizing start with
  | nil =>
      cases ran
      exact .start
  | cons operation rest ih =>
      obtain ⟨⟨reply, next⟩, performed, remaining⟩ := Outcome.bind_eq_ok_iff.mp ran
      have first : Course start [⟨start, operation, next⟩] next := Course.start.turn performed
      rw [history, performed]
      exact first.trans (ih remaining)

/-- Courses are the runs that do not fault. -/
theorem Course.run_eq_ok {start pane : Pane σ} {turns : List (Turn σ)}
    (course : Course start turns pane) : start.run (turns.map Turn.operation) = .ok pane := by
  induction course with
  | start => rfl
  | turn _ performed ih =>
      rw [List.map_append]
      exact run_append_eq_ok ih (Outcome.bind_eq_ok_iff.mpr ⟨_, performed, rfl⟩)

omit [ScrollPhysics σ] in
@[simp] theorem climb_append (number : Pane σ → UInt64) (early late : List (Turn σ)) :
    climb number (early ++ late) = climb number early + climb number late := by
  simp [climb]

omit [ScrollPhysics σ] in
theorem climb_le_append (number : Pane σ → UInt64) (early late : List (Turn σ)) :
    climb number early ≤ climb number (early ++ late) := by
  rw [climb_append]
  exact Nat.le_add_right _ _

/-- A number that starts at zero is how far it has come, until it wraps round. -/
theorem Course.toNat_eq_climb {start pane : Pane σ} {turns : List (Turn σ)}
    (course : Course start turns pane) (number : Pane σ → UInt64) (zero : number start = 0)
    (few : climb number turns < 2 ^ 64) : (number pane).toNat = climb number turns := by
  induction course with
  | start => simp [zero, climb]
  | @turn turns pane next operation reply _ _ ih =>
      rw [climb_append] at few
      have before := ih (by omega)
      have last : climb number [⟨pane, operation, next⟩] =
          (number next - number pane).toNat := by
        simp [climb]
      have bound := (number next).toNat_lt
      have step := UInt64.toNat_sub (number next) (number pane)
      rw [climb_append, last]
      rw [last] at few
      omega

/-- Such a number does not go down. -/
theorem Course.number_le {start pane next : Pane σ} {turns : List (Turn σ)}
    {operation : Operation} {reply : Reply} (course : Course start turns pane)
    (performed : pane.perform operation = .ok (reply, next)) (number : Pane σ → UInt64)
    (zero : number start = 0)
    (few : climb number (turns ++ [⟨pane, operation, next⟩]) < 2 ^ 64) :
    number pane ≤ number next := by
  have after := (course.turn performed).toNat_eq_climb number zero few
  rw [climb_append] at few
  have before := course.toNat_eq_climb number zero (by omega)
  rw [climb_append] at after
  rw [UInt64.le_iff_toNat_le]
  omega

/-- A number that goes up by one at most has come no further than there were turns. -/
theorem Course.climb_le_length {start pane : Pane σ} {turns : List (Turn σ)}
    (course : Course start turns pane) (number : Pane σ → UInt64)
    (slow : ∀ {pane next : Pane σ} {operation : Operation}, Change pane operation next →
      number next = number pane ∨ number next = number pane + 1) :
    climb number turns ≤ turns.length := by
  induction course with
  | start => simp [climb]
  | @turn turns pane next operation reply _ performed ih =>
      have last : (number next - number pane).toNat ≤ 1 := by
        rcases slow (perform_change performed) with same | following
        · simp [same]
        · have once : number next - number pane = 1 := by grind
          rw [once]
          decide
      rw [climb_append, List.length_append]
      exact Nat.add_le_add ih (by simpa [climb] using last)

/--
What the turns from a pane on keep as long as a number does not go down holds
after them, until the number wraps round.
-/
theorem Course.keeps_along {start pane later : Pane σ} {turns more : List (Turn σ)}
    (course : Course start turns pane) (onward : Course pane more later)
    (number : Pane σ → UInt64) (zero : number start = 0)
    (few : climb number (turns ++ more) < 2 ^ 64) (holds : Pane σ → Prop) (first : holds pane)
    (kept : ∀ turn ∈ more, ∀ reply, turn.before.perform turn.operation = .ok (reply, turn.after) →
      number turn.before ≤ number turn.after → holds turn.before → holds turn.after) :
    holds later := by
  induction onward with
  | start => exact first
  | @turn more pane next operation reply onward performed ih =>
      -- What has not wrapped round by the last turn had not before it either.
      rw [← List.append_assoc] at few
      have up := (course.trans onward).number_le performed number zero few
      have fewBefore := Nat.lt_of_le_of_lt (climb_le_append number _ _) few
      have held := ih fewBefore fun turn taken => kept turn (List.mem_append_left _ taken)
      exact kept ⟨pane, operation, next⟩ (by simp) reply performed up held

/-- What every change keeps in the same way needs no look at the turns. -/
theorem Course.keeps {start pane later : Pane σ} {turns more : List (Turn σ)}
    (course : Course start turns pane) (onward : Course pane more later)
    (number : Pane σ → UInt64) (zero : number start = 0)
    (few : climb number (turns ++ more) < 2 ^ 64) (holds : Pane σ → Prop) (first : holds pane)
    (kept : ∀ {pane next : Pane σ} {operation : Operation}, Change pane operation next →
      number pane ≤ number next → holds pane → holds next) : holds later :=
  course.keeps_along onward number zero few holds first fun _ _ _ performed up held =>
    kept (perform_change performed) up held

end Pane

end KineticScroll
