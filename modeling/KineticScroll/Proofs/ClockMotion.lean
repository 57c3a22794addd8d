import KineticScroll.Container.Operation
import KineticScroll.Proofs.Course
import KineticScroll.Proofs.Outcome
import Mathlib.Data.List.Forall2

/-!
# The same motion at a later time

A clock may start anywhere.  What is kept of it, the time of a sighting, of an
alarm or of the start of a motion, is only ever compared with another time or
taken from one.  So two clocks of which one is always the same time ahead show
the same motion, as long as neither reaches the end of time.
-/

namespace KineticScroll

namespace Millis

/-- The second time is that much later than the first, short of the end of time. -/
def Behind (lead early late : Millis) : Prop :=
  late.toNat = early.toNat + lead.toNat

namespace Behind

variable {lead early late start finish : Millis}

theorem le_iff (begun : Behind lead early start) (ended : Behind lead late finish) :
    early ≤ late ↔ start ≤ finish := by
  rw [UInt64.le_iff_toNat_le, UInt64.le_iff_toNat_le, begun, ended]
  omega

/-- The time between two moments is the same on both clocks. -/
theorem elapsed (begun : Behind lead early start) (ended : Behind lead late finish) :
    elapsed start finish = elapsed early late := by
  rw [← UInt64.toNat_inj, toNat_elapsed, toNat_elapsed, begun, ended]
  omega

theorem later (behind : Behind lead early late) {delay : Millis}
    (fits : early.toNat + lead.toNat + delay.toNat ≤ greatest.toNat) :
    Behind lead (Millis.later early delay) (Millis.later late delay) := by
  rw [Behind, toNat_later, toNat_later, behind]
  omega

/-- No delay is short of the end of time on both clocks. -/
theorem fits_zero (behind : Behind lead early late) :
    early.toNat + lead.toNat + (0 : Millis).toNat ≤ greatest.toNat := by
  have bound := late.toNat_lt
  have last : greatest.toNat = 18446744073709551615 := rfl
  rw [behind] at bound
  rw [UInt64.toNat_zero]
  omega

end Behind

end Millis

open Millis (Behind)

variable {lead now later : Millis}

/-! ## Alarms -/

/-- The same alarm on two clocks. -/
structure Alarm.Alike (lead : Millis) (early late : Alarm) : Prop where
  due : Behind lead early.due late.due
  wakeup : late.wakeup = early.wakeup

namespace Alarms

variable {early late : Alarms}

def Alike (lead : Millis) (early late : Alarms) : Prop :=
  List.Forall₂ (Alarm.Alike lead) early.pending late.pending

theorem Alike.set (alike : Alike lead early late) (wakeup : Wakeup) (behind : Behind lead now later)
    {delay : Millis} (fits : now.toNat + lead.toNat + delay.toNat ≤ Millis.greatest.toNat) :
    Alike lead (early.set wakeup now delay) (late.set wakeup later delay) :=
  List.rel_append alike (.cons ⟨behind.later fits, rfl⟩ .nil)

/-- The same wake-ups ring, and the same alarms are left. -/
theorem Alike.ring (alike : Alike lead early late) (behind : Behind lead now later) :
    (late.ring later).1 = (early.ring now).1 ∧
      Alike lead (early.ring now).2 (late.ring later).2 := by
  have due {one other : Alarm} (same : Alarm.Alike lead one other) :
      isDue now one = isDue later other :=
    decide_eq_decide.mpr (same.due.le_iff behind)
  rw [Alike, ring_fst, ring_fst, ring_snd, ring_snd]
  unfold Alike at alike
  generalize early.pending = pending, late.pending = others at alike ⊢
  induction alike with
  | nil => exact ⟨rfl, .nil⟩
  | @cons one other _ _ same _ ih =>
      obtain ⟨wakeups, left⟩ := ih
      by_cases rings : isDue now one = true
      · simp only [List.filter_cons, ← due same, rings]
        exact ⟨by simp [wakeups, same.wakeup], by simpa using left⟩
      · simp only [List.filter_cons, ← due same, rings]
        exact ⟨by simp [wakeups], by simpa using ⟨same, left⟩⟩

/-- The alarm that is due first is the same one. -/
theorem Alike.nextDue? (alike : Alike lead early late) :
    late.nextDue?.map UInt64.toNat =
      early.nextDue?.map fun due => due.toNat + lead.toNat := by
  have least : Relator.LiftFun (Behind lead) (Relator.LiftFun (Behind lead) (Behind lead))
      min min := by
    intro one other begun first second ended
    show Behind lead (if one ≤ first then one else first)
      (if other ≤ second then other else second)
    simp only [begun.le_iff ended]
    split
    · exact begun
    · exact ended
  have dues : List.Forall₂ (Behind lead) (early.pending.map Alarm.due)
      (late.pending.map Alarm.due) :=
    List.rel_map (fun _ _ same => Alarm.Alike.due same) alike
  unfold Alarms.nextDue?
  generalize early.pending.map Alarm.due = times, late.pending.map Alarm.due = others at dues ⊢
  cases dues with
  | nil => rfl
  | cons first rest =>
      have found := List.rel_foldl least first rest
      rw [List.min?_cons', List.min?_cons']
      exact congrArg some found

theorem Alike.isEmpty (alike : Alike lead early late) : late.isEmpty = early.isEmpty := by
  unfold Alarms.isEmpty
  unfold Alike at alike
  generalize early.pending = pending, late.pending = others at alike ⊢
  cases alike <;> rfl

end Alarms

/-! ## Movement -/

/-- The same position was seen last, on two clocks. -/
inductive MovementFilter.Alike (lead : Millis) : MovementFilter → MovementFilter → Prop where
  | unseen (velocity : Velocity) : Alike lead ⟨none, velocity⟩ ⟨none, velocity⟩
  | seen {time other : Millis} (offset : Offset) (velocity : Velocity) :
      Behind lead time other →
        Alike lead ⟨some ⟨offset, time⟩, velocity⟩ ⟨some ⟨offset, other⟩, velocity⟩

theorem MovementFilter.Alike.velocity {early late : MovementFilter}
    (alike : Alike lead early late) : late.velocity = early.velocity := by
  cases alike <;> rfl

/-- A report yields the same movement on both clocks. -/
theorem MovementFilter.Alike.report {early late : MovementFilter} (alike : Alike lead early late)
    (behind : Behind lead now later) (offset : Offset) :
    Outcome.Both (fun one other => other.1 = one.1 ∧ Alike lead one.2 other.2)
      (early.report offset now) (late.report offset later) := by
  cases alike with
  | unseen velocity => exact .done ⟨rfl, .seen offset .zero behind⟩
  | @seen time other last velocity sighted =>
      unfold MovementFilter.report
      dsimp only
      split
      · exact .done ⟨rfl, .seen last velocity sighted⟩
      · have passed : velocitySince ⟨some ⟨last, other⟩, velocity⟩ ⟨last, other⟩ offset later =
            velocitySince ⟨some ⟨last, time⟩, velocity⟩ ⟨last, time⟩ offset now := by
          unfold velocitySince
          rw [sighted.elapsed behind]
        rw [passed]
        cases velocitySince ⟨some ⟨last, time⟩, velocity⟩ ⟨last, time⟩ offset now with
        | error fault => exact .fault fault
        | ok found => exact .done ⟨rfl, .seen offset found behind⟩

/-! ## Touches -/

/-- The same call on two clocks. -/
inductive SpeedometerCall.Alike (lead : Millis) : SpeedometerCall → SpeedometerCall → Prop where
  | clear : Alike lead .clear .clear
  | observe {time other : Millis} (phase : TouchPhase) (x y : Single) : Behind lead time other →
      Alike lead (.observe ⟨phase, x, y, time⟩) (.observe ⟨phase, x, y, other⟩)

/-- The velocity depends on the time between the calls alone. -/
def Speedometer.IgnoresStart (lead : Millis) (rule : List SpeedometerCall → Velocity) : Prop :=
  ∀ early late, List.Forall₂ (SpeedometerCall.Alike lead) early late → rule late = rule early

inductive Speedometer.Alike (lead : Millis) :
    Option Speedometer → Option Speedometer → Prop where
  | absent : Alike lead none none
  | present {early late : List SpeedometerCall} {rule : List SpeedometerCall → Velocity} :
      Speedometer.IgnoresStart lead rule → List.Forall₂ (SpeedometerCall.Alike lead) early late →
        Alike lead (some ⟨early, rule⟩) (some ⟨late, rule⟩)

theorem Speedometer.Alike.observe {early late : Option Speedometer} (alike : Alike lead early late)
    (behind : Behind lead now later) (phase : TouchPhase) (x y : Single) :
    Alike lead (early.map fun speedometer => speedometer.observe ⟨phase, x, y, now⟩)
      (late.map fun speedometer => speedometer.observe ⟨phase, x, y, later⟩) := by
  cases alike with
  | absent => exact .absent
  | present ignores calls =>
      refine .present ignores (List.rel_append (List.rel_append calls ?_)
        (.cons (.observe phase x y behind) .nil))
      split
      · exact .cons .clear .nil
      · exact .nil

/-! ## Motion -/

/-- The same glide, begun on two clocks. -/
inductive Glide.Alike (lead : Millis) : Glide → Glide → Prop where
  | intro {glide : Glide} {start : Millis} :
      Behind lead glide.start start → Alike lead glide { glide with start := start }

namespace Glide.Alike

variable {early late : Glide}

theorem isOver (alike : Alike lead early late) (behind : Behind lead now later) :
    late.isOver later = early.isOver now := by
  cases alike with
  | intro begun =>
      unfold Glide.isOver
      rw [begun.elapsed behind]

theorem positionAt (alike : Alike lead early late) (behind : Behind lead now later) :
    late.positionAt later = early.positionAt now := by
  have finished := alike.isOver behind
  cases alike with
  | intro begun =>
      unfold Glide.positionAt Glide.progress
      rw [finished, begun.elapsed behind]

end Glide.Alike

/-- The same flight, last advanced on two clocks. -/
inductive Flight.Alike (lead : Millis) : Flight → Flight → Prop where
  | intro {flight : Flight} {time : Millis} :
      Behind lead flight.lastTime time → Alike lead flight { flight with lastTime := time }

namespace Flight.Alike

variable {early late : Flight}

theorem position (alike : Alike lead early late) : late.position = early.position := by
  cases alike
  rfl

theorem bounds (alike : Alike lead early late) : late.bounds = early.bounds := by
  cases alike
  rfl

theorem isAtRest (alike : Alike lead early late) : late.isAtRest = early.isAtRest := by
  cases alike
  rfl

theorem step (alike : Alike lead early late) (friction : Single) :
    Alike lead (early.step friction) (late.step friction) := by
  cases alike with
  | intro behind =>
      unfold Flight.step Flight.highest Flight.lowest
      dsimp only
      split <;> exact .intro behind

theorem steps (alike : Alike lead early late) (friction : Single) (count : Nat) :
    Alike lead (early.steps friction count) (late.steps friction count) := by
  induction count generalizing early late with
  | zero => exact alike
  | succ count ih =>
      have next := alike.step friction
      unfold Flight.steps
      dsimp only
      rw [next.isAtRest]
      split
      · exact next
      · exact ih next

theorem advance (alike : Alike lead early late) (behind : Behind lead now later)
    (friction : Single) :
    Alike lead (early.advance friction now) (late.advance friction later) := by
  have passed : Millis.elapsed late.lastTime later = Millis.elapsed early.lastTime now := by
    cases alike with
    | intro last => exact last.elapsed behind
  have moved := alike.steps friction (Millis.elapsed early.lastTime now).toNat
  unfold Flight.advance
  dsimp only
  rw [passed]
  generalize Flight.steps friction _ early = one, Flight.steps friction _ late = other at moved ⊢
  cases moved
  exact .intro behind

end Flight.Alike

/-- The same motion on two clocks. -/
inductive Motion.Alike (lead : Millis) : Motion → Motion → Prop where
  | still : Alike lead .still .still
  | flight {early late : Flight} :
      Flight.Alike lead early late → Alike lead (.flight early) (.flight late)
  | glide {early late : Glide} :
      Glide.Alike lead early late → Alike lead (.glide early) (.glide late)

/-- The same physics on two clocks. -/
inductive Decay.Alike (lead : Millis) : Decay → Decay → Prop where
  | intro {decay : Decay} {motion : Motion} :
      Motion.Alike lead decay.motion motion → Alike lead decay { decay with motion := motion }

namespace Decay.Alike

variable {early late : Decay}

theorem of_isIdle {decay : Decay} (idle : decay.isIdle = true) : Alike lead decay decay := by
  have still := (isIdle_iff decay).mp idle
  have alike : Motion.Alike lead decay.motion decay.motion := by
    rw [still]
    exact .still
  exact .intro alike

theorem position (alike : Alike lead early late) : late.position = early.position := by
  cases alike
  rfl

theorem destination (alike : Alike lead early late) : late.destination = early.destination := by
  cases alike
  rfl

theorem isIdle (alike : Alike lead early late) : late.isIdle = early.isIdle := by
  cases alike with
  | intro motion =>
      unfold Decay.isIdle
      dsimp only
      generalize early.motion = before at motion ⊢
      cases motion <;> rfl

theorem halt (alike : Alike lead early late) : Alike lead early.halt late.halt := by
  cases alike
  exact .intro .still

/-- What is settled is the same, however the motion before it began. -/
theorem settle (alike : Alike lead early late) (bounds : Span) (behind : Behind lead now later) :
    Alike lead (early.settle bounds now) (late.settle bounds later) := by
  cases alike
  refine .intro ?_
  unfold Decay.settle
  dsimp only
  split
  · exact .still
  · exact .glide (.intro behind)

theorem fling (alike : Alike lead early late) (launch : Launch) (behind : Behind lead now later) :
    Outcome.Both (Alike lead) (early.fling launch now) (late.fling launch later) := by
  unfold Decay.fling
  cases Span.between launch.lowest launch.highest with
  | error fault => exact .fault fault
  | ok bounds =>
      refine .done ?_
      cases alike with
      | @intro motion same =>
          have placed : Alike lead { early with position := launch.startY }
              { early with motion := motion, position := launch.startY } := .intro same
          unfold flingBetween
          dsimp only
          split
          · exact placed.settle bounds behind
          · exact .intro (.flight (.intro behind))

theorem glideBy (alike : Alike lead early late) (start distance : Px)
    (behind : Behind lead now later) :
    Alike lead (early.glideBy start distance now) (late.glideBy start distance later) := by
  cases alike
  unfold Decay.glideBy
  dsimp only
  split
  · exact .intro .still
  · exact .intro (.glide (.intro behind))

theorem advance (alike : Alike lead early late) (behind : Behind lead now later) :
    (late.advance later).1 = (early.advance now).1 ∧
      Alike lead (early.advance now).2 (late.advance later).2 := by
  obtain ⟨friction, keepsBounds, before, position, destination⟩ := early
  obtain ⟨same⟩ := alike
  dsimp only at same
  cases same with
  | still => exact ⟨rfl, .intro .still⟩
  | glide glide =>
      unfold Decay.advance
      dsimp only
      rw [glide.positionAt behind, glide.isOver behind]
      refine ⟨rfl, .intro ?_⟩
      dsimp only
      split
      · exact .still
      · exact .glide glide
  | flight flight =>
      have ahead := flight.advance behind friction
      unfold Decay.advance
      dsimp only
      rw [ahead.isAtRest, ahead.bounds, ahead.position]
      refine ⟨rfl, ?_⟩
      split
      · exact settle (.intro (.flight flight)) _ behind
      · exact .intro (.flight ahead)

end Decay.Alike

/-- The same animation on two clocks. -/
inductive Animation.Alike (lead : Millis) : Animation Decay → Animation Decay → Prop where
  | absent (gap : PhysicsGap) (generation : UInt64) :
      Alike lead ⟨.error gap, generation⟩ ⟨.error gap, generation⟩
  | present {early late : Decay} (generation : UInt64) :
      Decay.Alike lead early late → Alike lead ⟨.ok early, generation⟩ ⟨.ok late, generation⟩

namespace Animation.Alike

variable {early late : Animation Decay}

theorem of_not_isRunning {animation : Animation Decay} (still : animation.isRunning = false) :
    Alike lead animation animation := by
  obtain ⟨physics, generation⟩ := animation
  cases physics with
  | error gap => exact .absent gap generation
  | ok decay =>
      have idle : ScrollPhysics.isIdle decay = true := by simpa [isRunning] using still
      exact .present generation (.of_isIdle idle)

theorem hasPhysics (alike : Alike lead early late) : late.hasPhysics = early.hasPhysics := by
  cases alike <;> rfl

theorem isRunning (alike : Alike lead early late) : late.isRunning = early.isRunning := by
  cases alike with
  | absent => rfl
  | present generation physics => exact congrArg not physics.isIdle

theorem respond (alike : Alike lead early late) (velocity : Px) (release : Release) :
    late.respond velocity release = early.respond velocity release := by
  unfold Animation.respond
  rw [alike.hasPhysics]

theorem abort (alike : Alike lead early late) : Alike lead early.abort late.abort := by
  cases alike with
  | absent gap generation => exact .absent gap (generation + 1)
  | @present one other generation physics =>
      have idle : ScrollPhysics.isIdle other = ScrollPhysics.isIdle one := physics.isIdle
      unfold Animation.abort
      dsimp only [Except.map]
      rw [idle]
      refine .present _ ?_
      split
      · exact physics
      · exact physics.halt

theorem startFling (alike : Alike lead early late) (launch : Launch)
    (behind : Behind lead now later) :
    Outcome.Both (fun one other => other.1 = one.1 ∧ Alike lead one.2 other.2)
      (early.startFling launch now) (late.startFling launch later) := by
  cases alike with
  | absent gap generation => exact .done ⟨rfl, .absent gap generation⟩
  | present generation physics =>
      exact (physics.fling launch behind).map fun _ _ flung => ⟨rfl, .present _ flung⟩

theorem startGlide (alike : Alike lead early late) (source target : Px)
    (behind : Behind lead now later) :
    (late.startGlide source target later).1 = (early.startGlide source target now).1 ∧
      Alike lead (early.startGlide source target now).2
        (late.startGlide source target later).2 := by
  cases alike with
  | absent gap generation => exact ⟨rfl, .absent gap generation⟩
  | present generation physics => exact ⟨rfl, .present _ (physics.glideBy source _ behind)⟩

/-- A step comes to the same on both clocks. -/
theorem step (alike : Alike lead early late) (generation : UInt64)
    (behind : Behind lead now later) :
    (late.step generation later).1 = (early.step generation now).1 ∧
      Alike lead (early.step generation now).2 (late.step generation later).2 := by
  cases alike with
  | absent gap current =>
      unfold Animation.step
      split <;> exact ⟨rfl, .absent gap current⟩
  | @present one other current physics =>
      unfold Animation.step
      dsimp only
      split
      · have moved : (ScrollPhysics.advance other later).1 = (ScrollPhysics.advance one now).1 :=
          (physics.advance behind).1
        have ahead : Decay.Alike lead (ScrollPhysics.advance one now).2
            (ScrollPhysics.advance other later).2 := (physics.advance behind).2
        have position : ScrollPhysics.position (ScrollPhysics.advance other later).2 =
            ScrollPhysics.position (ScrollPhysics.advance one now).2 := ahead.position
        have idle : ScrollPhysics.isIdle (ScrollPhysics.advance other later).2 =
            ScrollPhysics.isIdle (ScrollPhysics.advance one now).2 := ahead.isIdle
        rw [moved, position, idle]
        split <;> exact ⟨rfl, .present current ahead⟩
      · exact ⟨rfl, .present current physics⟩

theorem stopAtEnd (alike : Alike lead early late) (position limit : Px) :
    (late.stopAtEnd position limit).1 = (early.stopAtEnd position limit).1 ∧
      Alike lead (early.stopAtEnd position limit).2 (late.stopAtEnd position limit).2 := by
  cases alike with
  | absent gap generation => exact ⟨rfl, .absent gap generation⟩
  | @present one other generation physics =>
      have underway : isUnderway other = isUnderway one := by
        have idle : ScrollPhysics.isIdle other = ScrollPhysics.isIdle one := physics.isIdle
        have there : ScrollPhysics.position other = ScrollPhysics.position one := physics.position
        have goal : ScrollPhysics.destination other = ScrollPhysics.destination one :=
          physics.destination
        rw [isUnderway, idle, there, goal]
        rfl
      unfold Animation.stopAtEnd
      dsimp only
      rw [underway]
      split
      · exact ⟨rfl, .present generation physics.halt⟩
      · exact ⟨rfl, .present generation physics⟩

end Animation.Alike

end KineticScroll
