import KineticScroll.Alarms
import Mathlib.Data.List.Range

/-!
# Alarms ring once

Alarms are set and rung in any order, at times that need not go forward, and the
same wake-up may be waited for several times over.  An alarm is told from others by
the call that set it.  Of the later rings, the first that is not before its time
hands it out, and no other call does.  What one ring hands out, and what it leaves,
stand in the order in which they were set.
-/

namespace KineticScroll

namespace Alarms

inductive Call where
  | set (wakeup : Wakeup) (now delay : Millis)
  | setNext (wakeup : Wakeup) (now : Millis)
  | ring (now : Millis)
deriving DecidableEq

/-- What a call hands out, and the alarms after it. -/
def answer (alarms : Alarms) : Call → List Wakeup × Alarms
  | .set wakeup now delay => ([], alarms.set wakeup now delay)
  | .setNext wakeup now => ([], alarms.setNext wakeup now)
  | .ring now => alarms.ring now

/-- What each of these calls hands out, and the alarms after all of them. -/
def answers (alarms : Alarms) : List Call → List (List Wakeup) × Alarms
  | [] => ([], alarms)
  | call :: later =>
      let (woken, left) := alarms.answer call
      let (others, final) := left.answers later
      (woken :: others, final)

/-! ## Who rings what -/

namespace Call

/-- The alarm that a call sets, for the exact sum of its times or for the end of time. -/
def alarm? : Call → Option Alarm
  | .set wakeup now delay =>
      some ⟨UInt64.ofNat (min (now.toNat + delay.toNat) Millis.greatest.toNat), wakeup⟩
  | .setNext wakeup now => some ⟨now, wakeup⟩
  | .ring _ => none

/-- Whether a call rings at the time of the alarm or later. -/
def rings (alarm : Alarm) : Call → Bool
  | .ring now => alarm.due ≤ now
  | _ => false

end Call

/-- An alarm that a call has set, and the place among the calls of the one that rings it. -/
structure Setting where
  alarm : Alarm
  ringer : Option Nat
deriving DecidableEq

namespace Setting

/-- The first of these calls that is not before its time rings the alarm. -/
def among (calls : List Call) (alarm : Alarm) : Setting :=
  ⟨alarm, calls.findIdx? (Call.rings alarm)⟩

/-- The same setting, counted from one call earlier. -/
def shift (setting : Setting) : Setting :=
  { setting with ringer := setting.ringer.map (· + 1) }

end Setting

/-- The alarms that the calls set, in that order, each with the call after it that rings it. -/
def settings : List Call → List Setting
  | [] => []
  | call :: later =>
      ((call.alarm?.map (Setting.among later)).toList ++ settings later).map Setting.shift

/-- The alarms that this call rings, or that no call does. -/
def rungBy (settings : List Setting) (ringer : Option Nat) : List Alarm :=
  (settings.filter (·.ringer = ringer)).map (·.alarm)

/-! ## One call -/

/-- The alarms that wait already, and those that the calls set. -/
def awaiting (alarms : Alarms) (calls : List Call) : List Setting :=
  alarms.pending.map (Setting.among calls) ++ settings calls

theorem rungBy_append (first second : List Setting) (ringer : Option Nat) :
    rungBy (first ++ second) ringer = rungBy first ringer ++ rungBy second ringer := by
  simp [rungBy]

theorem rungBy_shift_zero (settings : List Setting) :
    rungBy (settings.map Setting.shift) (some 0) = [] := by
  simp [rungBy, Setting.shift]

theorem rungBy_shift (settings : List Setting) (ringer : Option Nat) :
    rungBy (settings.map Setting.shift) (ringer.map (· + 1)) = rungBy settings ringer := by
  have same (setting : Setting) :
      decide (setting.shift.ringer = ringer.map (· + 1)) = decide (setting.ringer = ringer) := by
    cases found : setting.ringer <;> cases ringer <;> simp [Setting.shift, found]
  rw [rungBy, rungBy, List.filter_map, List.map_map]
  simp only [Function.comp_def, same]
  rfl

theorem rungBy_among (waiting : List Alarm) (calls : List Call) (ringer : Option Nat) :
    rungBy (waiting.map (Setting.among calls)) ringer =
      waiting.filter fun alarm => calls.findIdx? (Call.rings alarm) = ringer := by
  rw [rungBy, List.filter_map, List.map_map]
  exact List.map_id _

/-- Setting an alarm hands out nothing, and the alarm waits behind the others. -/
theorem awaiting_of_set {alarms left : Alarms} {call : Call} {alarm : Alarm}
    (sets : call.alarm? = some alarm) (silent : ∀ other, call.rings other = false)
    (waits : left.pending = alarms.pending ++ [alarm]) (later : List Call) :
    alarms.awaiting (call :: later) = (left.awaiting later).map Setting.shift := by
  have passed : Setting.among (call :: later) = Setting.shift ∘ Setting.among later := by
    funext other
    rw [Setting.among, List.findIdx?_cons, if_neg (by simp [silent])]
    rfl
  rw [awaiting, awaiting, settings, sets, waits, passed]
  simp

/-- A ring hands out the alarms that are due, and leaves the others to later calls. -/
theorem findIdx?_ring (now : Millis) (later : List Call) (alarm : Alarm) :
    (Call.ring now :: later).findIdx? (Call.rings alarm) =
      if isDue now alarm then some 0 else (later.findIdx? (Call.rings alarm)).map (· + 1) :=
  List.findIdx?_cons

theorem rungBy_ring_zero (alarms : Alarms) (now : Millis) (later : List Call) :
    rungBy (alarms.awaiting (.ring now :: later)) (some 0) =
      alarms.pending.filter (isDue now) := by
  have due (alarm : Alarm) :
      decide ((Call.ring now :: later).findIdx? (Call.rings alarm) = some 0) =
        isDue now alarm := by
    rw [findIdx?_ring]
    cases isDue now alarm <;> simp
  have set : rungBy (settings (.ring now :: later)) (some 0) = [] := rungBy_shift_zero _
  rw [awaiting, rungBy_append, set, List.append_nil, rungBy_among]
  simp only [due]

theorem rungBy_ring (alarms : Alarms) (now : Millis) (later : List Call) (ringer : Option Nat) :
    rungBy (alarms.awaiting (.ring now :: later)) (ringer.map (· + 1)) =
      rungBy ((alarms.ring now).2.awaiting later) ringer := by
  have further (alarm : Alarm) :
      decide ((Call.ring now :: later).findIdx? (Call.rings alarm) = ringer.map (· + 1)) =
        (!isDue now alarm && decide (later.findIdx? (Call.rings alarm) = ringer)) := by
    rw [findIdx?_ring]
    cases isDue now alarm with
    | true => cases ringer <;> simp
    | false => cases later.findIdx? (Call.rings alarm) <;> cases ringer <;> simp
  have set : rungBy (settings (.ring now :: later)) (ringer.map (· + 1)) =
      rungBy (settings later) ringer := rungBy_shift _ _
  rw [awaiting, awaiting, rungBy_append, rungBy_append, set, rungBy_among, rungBy_among,
    ring_snd, List.filter_filter]
  simp only [further, Bool.and_comm]

/-- What a call has to hand out it hands out, and what others have to hand out it leaves. -/
theorem answer_rungBy (alarms : Alarms) (call : Call) (later : List Call) :
    (alarms.answer call).1 =
        (rungBy (alarms.awaiting (call :: later)) (some 0)).map Alarm.wakeup ∧
      ∀ ringer, rungBy (alarms.awaiting (call :: later)) (ringer.map (· + 1)) =
        rungBy ((alarms.answer call).2.awaiting later) ringer := by
  cases call with
  | set wakeup now delay =>
      have waits : (alarms.set wakeup now delay).pending = alarms.pending ++
          [⟨UInt64.ofNat (min (now.toNat + delay.toNat) Millis.greatest.toNat), wakeup⟩] := by
        rw [pending_set, ← Millis.toNat_later, UInt64.ofNat_toNat]
      rw [awaiting_of_set rfl (fun _ => rfl) waits, rungBy_shift_zero]
      exact ⟨rfl, rungBy_shift _⟩
  | setNext wakeup now =>
      have waits : (alarms.setNext wakeup now).pending = alarms.pending ++ [⟨now, wakeup⟩] := by
        rw [setNext, pending_set, Millis.later_zero]
      rw [awaiting_of_set rfl (fun _ => rfl) waits, rungBy_shift_zero]
      exact ⟨rfl, rungBy_shift _⟩
  | ring now =>
      rw [rungBy_ring_zero]
      exact ⟨ring_fst alarms now, rungBy_ring alarms now later⟩

/-! ## Any calls -/

theorem answers_rungBy (alarms : Alarms) (calls : List Call) :
    (alarms.answers calls).1 = (List.range calls.length).map (fun place =>
        (rungBy (alarms.awaiting calls) (some place)).map Alarm.wakeup) ∧
      (alarms.answers calls).2.pending = rungBy (alarms.awaiting calls) none := by
  induction calls generalizing alarms with
  | nil =>
      refine ⟨rfl, ?_⟩
      rw [awaiting, rungBy_append, rungBy_among]
      simp [answers, settings, rungBy]
  | cons call later ih =>
      obtain ⟨now, further⟩ := alarms.answer_rungBy call later
      obtain ⟨others, left⟩ := ih (alarms.answer call).2
      refine ⟨?_, ?_⟩
      · rw [List.length_cons, List.range_succ_eq_map, List.map_cons, List.map_map, ← now]
        simp only [Function.comp_def, ← further] at others ⊢
        exact congrArg _ others
      · exact left.trans (further none).symm

/-- The alarm that is due first is the earliest that waits. -/
theorem nextDue?_eq_some_iff (alarms : Alarms) (due : Millis) :
    alarms.nextDue? = some due ↔
      (∃ alarm ∈ alarms.pending, alarm.due = due) ∧ ∀ alarm ∈ alarms.pending, due ≤ alarm.due := by
  rw [nextDue?, List.min?_eq_some_iff]
  simp only [List.mem_map, forall_exists_index, and_imp, forall_apply_eq_imp_iff₂]

theorem ring_ne_nil_iff (alarms : Alarms) (now : Millis) :
    (alarms.ring now).1 ≠ [] ↔ ∃ due ∈ alarms.nextDue?, due ≤ now := by
  rw [ring_fst, ne_eq, List.map_eq_nil_iff, List.filter_eq_nil_iff]
  constructor
  · intro rings
    cases first : alarms.nextDue? with
    | none =>
        have none : alarms.pending = [] := List.isEmpty_iff.mp (alarms.isEmpty_iff.mpr first)
        rw [none] at rings
        exact absurd (fun _ waits => nomatch waits) rings
    | some due =>
        obtain ⟨-, least⟩ := (alarms.nextDue?_eq_some_iff due).mp first
        refine ⟨due, rfl, ?_⟩
        by_contra late
        apply rings
        intro alarm waits passed
        exact late (UInt64.le_trans (least alarm waits) (of_decide_eq_true passed))
  · rintro ⟨due, first, passed⟩ none
    obtain ⟨⟨alarm, waits, rfl⟩, -⟩ := (alarms.nextDue?_eq_some_iff due).mp first
    exact none alarm waits (decide_eq_true passed)

/-- Every alarm is rung by the first later ring that is not before its time and by no other call.
Each ring hands out its wake-ups in the order in which they were set, the alarms that are left keep
that order and their times, and the time due first is the least of those. -/
theorem each_rings_once (calls : List Call) :
    let (woken, left) := empty.answers calls
    woken = (List.range calls.length).map (fun place =>
        (rungBy (settings calls) (some place)).map Alarm.wakeup) ∧
      left.pending = rungBy (settings calls) none ∧
      (∀ due, left.nextDue? = some due ↔
        (∃ alarm ∈ rungBy (settings calls) none, alarm.due = due) ∧
          ∀ alarm ∈ rungBy (settings calls) none, due ≤ alarm.due) ∧
      (left.nextDue? = none ↔ rungBy (settings calls) none = []) ∧
      ∀ now, (left.ring now).1 ≠ [] ↔ ∃ due ∈ left.nextDue?, due ≤ now := by
  obtain ⟨woken, left⟩ := empty.answers_rungBy calls
  refine ⟨woken, left, fun due => ?_, ?_, ring_ne_nil_iff _⟩
  · rw [nextDue?_eq_some_iff, left]
    rfl
  · rw [← isEmpty_iff, isEmpty, left, List.isEmpty_iff]
    rfl

/-- One wake-up waits three times over, and the clock goes back before the last ring. -/
example :
    (empty.answers [.set (.poll 1) 0 20, .setNext (.poll 1) 5, .ring 10, .set (.step 2) 10 0,
        .set (.poll 1) Millis.greatest 9, .ring 30, .ring 20]).1 =
      [[], [], [.poll 1], [], [], [.poll 1, .step 2], []] := by
  decide

end Alarms

end KineticScroll
