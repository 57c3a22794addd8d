import KineticScroll.Movement
import KineticScroll.Proofs.Outcome
import Mathlib.Data.List.Destutter

/-!
# Repeated reports

A filter that takes reports one after another lets through those that differ from
the last one let through.  The others may as well not have been made: leaving
them out changes neither the movements nor what the filter remembers.  Of the
rest each makes a movement, and its velocity is told by the report and the one
before it alone, unless the clock has not gone on between them.
-/

namespace KineticScroll

/-- Two reports that are not of the same position, whenever they were made. -/
def Sighting.Differs (earlier later : Sighting) : Prop :=
  earlier.offset ≠ later.offset
deriving Decidable

/--
How the velocity of a movement follows from the report before it and its own: the
way between them over the time between them, and the velocity found before if the
clock stood still or went back.
-/
structure Movement.Paced (earlier later : Sighting × Movement) : Prop where
  onward : earlier.1.time < later.1.time → ∃ right down : Px,
    right.toInt = later.1.offset.x.toInt - earlier.1.offset.x.toInt ∧
    down.toInt = later.1.offset.y.toInt - earlier.1.offset.y.toInt ∧
    later.2.velocity =
      ⟨Single.ofPx right / Single.ofMillis (later.1.time - earlier.1.time),
        Single.ofPx down / Single.ofMillis (later.1.time - earlier.1.time)⟩
  held : later.1.time ≤ earlier.1.time → later.2.velocity = earlier.2.velocity

namespace MovementFilter

/-- Take reports one after another, and collect the movements that they yield. -/
def reportAll (filter : MovementFilter) :
    List Sighting → Except Fault (List Movement × MovementFilter)
  | [] => .ok ([], filter)
  | report :: rest => do
      let (movement, next) ← filter.report report.offset report.time
      (next.reportAll rest).map fun taken => (movement.toList ++ taken.1, taken.2)

variable {filter next after : MovementFilter} {seen report : Sighting} {reports : List Sighting}
  {movement : Option Movement} {movements : List Movement}

theorem reportAll_cons (reported : filter.report report.offset report.time = .ok (movement, next)) :
    filter.reportAll (report :: reports) =
      (next.reportAll reports).map fun taken => (movement.toList ++ taken.1, taken.2) := by
  rw [reportAll, reported]
  rfl

theorem reportAll_cons_eq_ok
    (done : filter.reportAll (report :: reports) = .ok (movements, after)) :
    ∃ movement next rest, filter.report report.offset report.time = .ok (movement, next) ∧
      next.reportAll reports = .ok (rest, after) ∧ movements = movement.toList ++ rest := by
  obtain ⟨⟨movement, next⟩, reported, done⟩ := Outcome.bind_eq_ok_iff.mp done
  obtain ⟨⟨rest, last⟩, taken, same⟩ := Outcome.map_eq_ok_iff.mp done
  cases same
  exact ⟨movement, next, rest, reported, taken, rfl⟩

/-! ## One report -/

/-- The velocity since a sighting is paced by it. -/
theorem velocitySince_paced {velocity : Velocity}
    (found : filter.velocitySince seen report.offset report.time = .ok velocity) :
    Movement.Paced (seen, ⟨seen.offset, filter.velocity⟩) (report, ⟨report.offset, velocity⟩) := by
  unfold velocitySince at found
  dsimp only at found
  by_cases onward : seen.time < report.time
  · have passed : Millis.elapsed seen.time report.time = report.time - seen.time :=
      if_pos (UInt64.le_of_lt onward)
    have some : report.time - seen.time ≠ 0 := by
      intro none
      have same := congrArg UInt64.toNat none
      rw [UInt64.toNat_sub_of_le _ _ (UInt64.le_of_lt onward), UInt64.toNat_zero] at same
      rw [UInt64.lt_iff_toNat_lt] at onward
      omega
    rw [passed, if_neg some] at found
    obtain ⟨right, across, found⟩ := Outcome.bind_eq_ok_iff.mp found
    obtain ⟨down, along, same⟩ := Outcome.bind_eq_ok_iff.mp found
    cases same
    exact ⟨fun _ => ⟨right, down, Px.exact_eq_ok_iff.mp across, Px.exact_eq_ok_iff.mp along, rfl⟩,
      fun back => absurd onward (UInt64.not_lt.mpr back)⟩
  · have passed : Millis.elapsed seen.time report.time = 0 := by
      rw [← UInt64.toNat_inj, Millis.toNat_elapsed, UInt64.toNat_zero]
      rw [UInt64.lt_iff_toNat_lt] at onward
      omega
    rw [passed, if_pos rfl] at found
    cases found
    exact ⟨fun again => absurd again onward, fun _ => rfl⟩

/-- A report of another position makes a movement, and is remembered with its velocity. -/
theorem report_of_differs (last : filter.last = some seen)
    (differs : seen.Differs report)
    (reported : filter.report report.offset report.time = .ok (movement, next)) :
    movement = some ⟨report.offset, next.velocity⟩ ∧ next.last = some report ∧
      Movement.Paced (seen, ⟨seen.offset, filter.velocity⟩)
        (report, ⟨report.offset, next.velocity⟩) := by
  unfold MovementFilter.report at reported
  rw [last] at reported
  dsimp only at reported
  rw [if_neg differs] at reported
  obtain ⟨velocity, found, same⟩ := Outcome.map_eq_ok_iff.mp reported
  cases same
  exact ⟨rfl, rfl, velocitySince_paced found⟩

/-! ## Leaving out the repeats -/

theorem reportAll_of_repeated (last : filter.last = some seen) (same : ¬seen.Differs report) :
    filter.reportAll (report :: reports) = filter.reportAll reports := by
  have repeated : filter.last.map Sighting.offset = some report.offset := by
    rw [last, Option.map_some, not_not.mp same]
  rw [reportAll_cons (report_of_last_eq repeated report.time)]
  cases filter.reportAll reports <;> rfl

theorem reportAll_of_seen (last : filter.last = some seen) :
    filter.reportAll (seen :: reports) = filter.reportAll reports :=
  reportAll_of_repeated last fun differs => differs rfl

/-- The report that the others are compared with first is kept. -/
theorem exists_destutter'_eq_cons (seen : Sighting) (reports : List Sighting) :
    ∃ rest, reports.destutter' Sighting.Differs seen = seen :: rest := by
  induction reports with
  | nil => exact ⟨[], rfl⟩
  | cons report rest ih =>
      rw [List.destutter'_cons]
      split
      · exact ⟨_, rfl⟩
      · exact ih

/-- A report that is taken may stand before what is kept of those after it. -/
theorem reportAll_kept
    (reported : filter.report report.offset report.time = .ok (movement, next))
    (last : next.last = some report)
    (same : next.reportAll (reports.destutter' Sighting.Differs report) =
      next.reportAll reports) :
    filter.reportAll (reports.destutter' Sighting.Differs report) =
      filter.reportAll (report :: reports) := by
  obtain ⟨kept, starts⟩ := exists_destutter'_eq_cons report reports
  rw [starts, reportAll_of_seen last] at same
  rw [starts, reportAll_cons reported, reportAll_cons reported, same]

/-- What is kept starts with a report that the filter has seen, and so has no use for. -/
theorem reportAll_destutter' (last : filter.last = some seen) (reports : List Sighting) :
    filter.reportAll (reports.destutter' Sighting.Differs seen) = filter.reportAll reports := by
  induction reports generalizing filter seen with
  | nil => exact reportAll_of_seen last
  | cons report rest ih =>
      by_cases differs : seen.Differs report
      · rw [List.destutter'_cons_pos _ differs, reportAll_of_seen last]
        cases reported : filter.report report.offset report.time with
        | error fault =>
            obtain ⟨kept, starts⟩ := exists_destutter'_eq_cons report rest
            rw [starts, reportAll, reportAll, reported]
            rfl
        | ok taken =>
            have remembered := (report_of_differs last differs reported).2.1
            exact reportAll_kept reported remembered (ih remembered)
      · rw [List.destutter'_cons_neg _ differs, ih last, reportAll_of_repeated last differs]

theorem reportAll_destutter (reports : List Sighting) :
    initial.reportAll (reports.destutter Sighting.Differs) = initial.reportAll reports := by
  cases reports with
  | nil => rfl
  | cons report rest =>
      rw [List.destutter_cons']
      exact reportAll_kept rfl rfl (reportAll_destutter' rfl rest)

/-! ## The reports that are kept -/

/--
A filter has made movements of reports, one of each.  It remembers the last of
either.
-/
structure Made (reports : List Sighting) (movements : List Movement) (filter : MovementFilter) :
    Prop where
  offsets : movements.map Movement.offset = reports.map Sighting.offset
  paced : (reports.zip movements).IsChain Movement.Paced
  last : filter.last = reports.getLast?
  velocity : filter.velocity = (movements.getLast?.map Movement.velocity).getD Velocity.zero

/-- Reports of which none repeats the one before all make movements. -/
theorem made_of_isChain (last : filter.last = some seen)
    (apart : (seen :: reports).IsChain Sighting.Differs)
    (done : filter.reportAll reports = .ok (movements, after)) :
    Made (seen :: reports) (⟨seen.offset, filter.velocity⟩ :: movements) after := by
  induction reports generalizing filter seen movements with
  | nil =>
      cases done
      exact ⟨rfl, List.isChain_singleton _, last, rfl⟩
  | cons report rest ih =>
      obtain ⟨differs, onward⟩ := List.isChain_cons_cons.mp apart
      obtain ⟨movement, next, others, reported, taken, rfl⟩ := reportAll_cons_eq_ok done
      obtain ⟨rfl, remembered, paced⟩ := report_of_differs last differs reported
      have made := ih remembered onward taken
      refine ⟨congrArg (seen.offset :: ·) made.offsets, ?_, ?_, ?_⟩
      · exact List.isChain_cons_cons.mpr ⟨paced, made.paced⟩
      · rw [made.last, List.getLast?_cons_cons]
      · rw [made.velocity]
        rfl

/--
A filter that takes reports from the start does the same, and is left the same, if
the reports are left out that repeat the one accepted last.  Each of the others is
accepted, so that no two movements on end are to the same position.  The first
movement has no velocity, and the velocity of any other is told by its report and
the one accepted before it.
-/
theorem repeats_unnoticed (reports : List Sighting) :
    initial.reportAll (reports.destutter Sighting.Differs) = initial.reportAll reports ∧
    ∀ movements after, initial.reportAll reports = .ok (movements, after) →
      movements.IsChain (fun earlier later => earlier.offset ≠ later.offset) ∧
      (∀ movement, movements.head? = some movement → movement.velocity = Velocity.zero) ∧
      Made (reports.destutter Sighting.Differs) movements after := by
  refine ⟨reportAll_destutter reports, ?_⟩
  intro movements after done
  rw [← reportAll_destutter] at done
  have apart := List.isChain_destutter Sighting.Differs reports
  generalize reports.destutter Sighting.Differs = accepted at done apart ⊢
  cases accepted with
  | nil =>
      cases done
      exact ⟨.nil, nofun, rfl, .nil, rfl, rfl⟩
  | cons report rest =>
      obtain ⟨movement, next, others, reported, taken, rfl⟩ := reportAll_cons_eq_ok done
      cases reported
      have made := made_of_isChain rfl apart taken
      refine ⟨?_, ?_, made⟩
      · have places : (List.map Sighting.offset (report :: rest)).IsChain (· ≠ ·) :=
          List.isChain_map _ |>.mpr apart
        rw [← made.offsets] at places
        exact List.isChain_map _ |>.mp places
      · rintro _ ⟨⟩
        rfl

/-- A repeat, then a movement within the same millisecond, a second repeat, and a clock set back. -/
def unsteadyReports : List Sighting :=
  [⟨⟨0, 0⟩, 100⟩, ⟨⟨0, 100⟩, 110⟩, ⟨⟨0, 100⟩, 115⟩, ⟨⟨0, 80⟩, 120⟩, ⟨⟨0, 90⟩, 120⟩,
    ⟨⟨0, 90⟩, 130⟩, ⟨⟨5, 90⟩, 60⟩]

theorem repeats_unnoticed_unsteady :
    ∃ movements after,
      initial.reportAll unsteadyReports = .ok (movements, after) ∧
      initial.reportAll
        [⟨⟨0, 0⟩, 100⟩, ⟨⟨0, 100⟩, 110⟩, ⟨⟨0, 80⟩, 120⟩, ⟨⟨0, 90⟩, 120⟩, ⟨⟨5, 90⟩, 60⟩] =
          .ok (movements, after) ∧
      movements.map Movement.velocity = [⟨0, 0⟩, ⟨0, 10⟩, ⟨0, -2⟩, ⟨0, -2⟩, ⟨0, -2⟩] ∧
      movements.IsChain (fun earlier later => earlier.offset ≠ later.offset) ∧
      Made [⟨⟨0, 0⟩, 100⟩, ⟨⟨0, 100⟩, 110⟩, ⟨⟨0, 80⟩, 120⟩, ⟨⟨0, 90⟩, 120⟩, ⟨⟨5, 90⟩, 60⟩]
        movements after := by
  have accepted : unsteadyReports.destutter Sighting.Differs =
      [⟨⟨0, 0⟩, 100⟩, ⟨⟨0, 100⟩, 110⟩, ⟨⟨0, 80⟩, 120⟩, ⟨⟨0, 90⟩, 120⟩, ⟨⟨5, 90⟩, 60⟩] := by
    decide
  have told : (initial.reportAll unsteadyReports).toOption.map
      (fun taken => taken.1.map Movement.velocity) =
        some [⟨0, 0⟩, ⟨0, 10⟩, ⟨0, -2⟩, ⟨0, -2⟩, ⟨0, -2⟩] := by
    decide +kernel
  obtain ⟨⟨movements, after⟩, taken, velocities⟩ := Option.map_eq_some_iff.mp told
  have done := Outcome.eq_ok_of_toOption_eq_some taken
  obtain ⟨same, made⟩ := repeats_unnoticed unsteadyReports
  obtain ⟨apart, _, made⟩ := made movements after done
  rw [accepted] at same made
  exact ⟨movements, after, done, same.trans done, velocities, apart, made⟩

end MovementFilter

end KineticScroll
