import KineticScroll.Number.Clock

/-!
# Alarms

What a pane puts off to a later frame it sets as an alarm.  Alarms wait in the
order in which they were set.  A frame rings every alarm that is due, in that
order whatever their times, and leaves the rest alone.
-/

namespace KineticScroll

/-- What an alarm is set for, with the number of the activity that set it. -/
inductive Wakeup where
  /-- Look whether the content has stopped moving. -/
  | poll (sequence : UInt64)
  /-- Advance the motion of that number. -/
  | step (generation : UInt64)
deriving DecidableEq

structure Alarm where
  due : Millis
  wakeup : Wakeup
deriving DecidableEq

structure Alarms where
  pending : List Alarm
deriving DecidableEq

namespace Alarms

def empty : Alarms :=
  ⟨[]⟩

def set (alarms : Alarms) (wakeup : Wakeup) (now delay : Millis) : Alarms :=
  ⟨alarms.pending ++ [⟨Millis.later now delay, wakeup⟩]⟩

/-- Set an alarm for the next frame. -/
def setNext (alarms : Alarms) (wakeup : Wakeup) (now : Millis) : Alarms :=
  alarms.set wakeup now 0

def isDue (now : Millis) (alarm : Alarm) : Bool :=
  alarm.due ≤ now

/-- The wake-ups due at a time, and the alarms left. -/
def ring (alarms : Alarms) (now : Millis) : List Wakeup × Alarms :=
  let (due, waiting) := alarms.pending.partition (isDue now)
  (due.map Alarm.wakeup, ⟨waiting⟩)

def nextDue? (alarms : Alarms) : Option Millis :=
  (alarms.pending.map Alarm.due).min?

def isEmpty (alarms : Alarms) : Bool :=
  alarms.pending.isEmpty

/-! ## Laws -/

theorem pending_set (alarms : Alarms) (wakeup : Wakeup) (now delay : Millis) :
    (alarms.set wakeup now delay).pending =
      alarms.pending ++ [⟨Millis.later now delay, wakeup⟩] :=
  rfl

/-- The rung wake-ups keep their order. -/
theorem ring_fst (alarms : Alarms) (now : Millis) :
    (alarms.ring now).1 = (alarms.pending.filter (isDue now)).map Alarm.wakeup := by
  simp [ring]

/-- The alarms left keep their order. -/
theorem ring_snd (alarms : Alarms) (now : Millis) :
    (alarms.ring now).2.pending = alarms.pending.filter (fun alarm => !isDue now alarm) := by
  simp [ring, Function.comp_def]

theorem isEmpty_iff (alarms : Alarms) : alarms.isEmpty = true ↔ alarms.nextDue? = none := by
  simp [isEmpty, nextDue?]

end Alarms

end KineticScroll
