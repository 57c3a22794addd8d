import KineticScroll.Geometry.Visibility
import KineticScroll.Number.Single

/-!
# Movement

Hosts may report one position several times.  Only a report that differs from
the last accepted one is a movement.  Its velocity is the distance from the
last accepted position over the time since; a movement within the same
millisecond, or with the clock gone back, keeps the velocity found before.
-/

namespace KineticScroll

structure Sighting where
  offset : Offset
  time : Millis
deriving DecidableEq

/-- A change of position, with the velocity found at it. -/
structure Movement where
  offset : Offset
  velocity : Velocity
deriving DecidableEq

structure MovementFilter where
  last : Option Sighting
  velocity : Velocity
deriving DecidableEq

namespace MovementFilter

def initial : MovementFilter :=
  ⟨none, Velocity.zero⟩

/-- The velocity between two positions so many milliseconds apart. -/
def velocityBetween (source target : Offset) (passed : Millis) : Except Fault Velocity := do
  let right ← Px.sub target.x source.x
  let down ← Px.sub target.y source.y
  let time := Single.ofMillis passed
  return ⟨Single.ofPx right / time, Single.ofPx down / time⟩

/-- The velocity of a movement away from the last sighting. -/
def velocitySince (filter : MovementFilter) (last : Sighting) (offset : Offset) (now : Millis) :
    Except Fault Velocity :=
  let passed := Millis.elapsed last.time now
  if passed = 0 then .ok filter.velocity
  else velocityBetween last.offset offset passed

def accept (offset : Offset) (now : Millis) (velocity : Velocity) :
    Option Movement × MovementFilter :=
  (some ⟨offset, velocity⟩, ⟨some ⟨offset, now⟩, velocity⟩)

/-- Take a report.  It yields a movement unless it repeats the last position. -/
def report (filter : MovementFilter) (offset : Offset) (now : Millis) :
    Except Fault (Option Movement × MovementFilter) :=
  match filter.last with
  | none => .ok (accept offset now Velocity.zero)
  | some last =>
      if last.offset = offset then
        .ok (none, filter)
      else
        (filter.velocitySince last offset now).map (accept offset now)

/-! ## Laws -/

/-- A report of the last accepted position changes nothing. -/
theorem report_of_last_eq {filter : MovementFilter} {offset : Offset}
    (seen : filter.last.map Sighting.offset = some offset) (now : Millis) :
    filter.report offset now = .ok (none, filter) := by
  unfold report
  cases last : filter.last with
  | none => simp [last] at seen
  | some sighting =>
      simp only [last, Option.map_some, Option.some.injEq] at seen
      simp [seen]

/-- Any other report is a movement to the reported position, and remembered. -/
theorem report_of_last_ne {filter after : MovementFilter} {offset : Offset} {now : Millis}
    {movement : Option Movement}
    (unseen : filter.last.map Sighting.offset ≠ some offset)
    (reported : filter.report offset now = .ok (movement, after)) :
    movement = some ⟨offset, after.velocity⟩ ∧ after.last = some ⟨offset, now⟩ := by
  unfold report at reported
  cases last : filter.last with
  | none =>
      simp only [last, accept, Except.ok.injEq, Prod.mk.injEq] at reported
      obtain ⟨rfl, rfl⟩ := reported
      exact ⟨rfl, rfl⟩
  | some sighting =>
      simp only [last, Option.map_some, ne_eq, Option.some.injEq] at unseen
      simp only [last, unseen, if_false] at reported
      cases velocity : filter.velocitySince sighting offset now with
      | error fault => simp [velocity, Except.map] at reported
      | ok value =>
          simp only [velocity, Except.map, accept, Except.ok.injEq, Prod.mk.injEq] at reported
          obtain ⟨rfl, rfl⟩ := reported
          exact ⟨rfl, rfl⟩

end MovementFilter

end KineticScroll
