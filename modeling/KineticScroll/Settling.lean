import KineticScroll.Number.Clock

/-!
# Settling

After a release the content may go on moving.  A settle sequence is polled
until a poll has seen no movement since the one before; with paging on, the
first quiet poll asks for a snap to a page and only a later one ends the
sequence.  Polls carry the number of their sequence, and those of a sequence
that is over do nothing.
-/

namespace KineticScroll

inductive SettleCause where
  | drag
  | fling
deriving DecidableEq

namespace SettleCause

/-- A fling counts as moving until a first poll has passed. -/
def countsAsMoving : SettleCause → Bool
  | .drag => false
  | .fling => true

end SettleCause

structure SettleSequence where
  number : UInt64
  lastPollWasActive : Bool
  snapped : Bool
deriving DecidableEq

inductive Verdict where
  | moving
  | snap
  | settled
deriving DecidableEq

structure Settling where
  current : Option SettleSequence
  lastNumber : UInt64
deriving DecidableEq

namespace Settling

def idle : Settling :=
  ⟨none, 0⟩

def isOpen (settling : Settling) : Bool :=
  settling.current.isSome

/-- Open a sequence unless one is open, so that a release and its fling share one. -/
def start (settling : Settling) : Option UInt64 × Settling :=
  match settling.current with
  | some _ => (none, settling)
  | none =>
      let number := settling.lastNumber + 1
      (some number, ⟨some ⟨number, false, false⟩, number⟩)

/-- One poll of a sequence, told whether anything has moved since the last one. -/
def poll (settling : Settling) (number : UInt64) (active paging : Bool) :
    Option Verdict × Settling :=
  match settling.current with
  | none => (none, settling)
  | some sequence =>
      if sequence.number = number then
        let polled := { sequence with lastPollWasActive := active }
        if active then
          (some .moving, { settling with current := some polled })
        else if paging && !sequence.snapped then
          (some .snap, { settling with current := some { polled with snapped := true } })
        else
          (some .settled, { settling with current := none })
      else
        (none, settling)

def close (settling : Settling) : Settling :=
  { settling with current := none }

/-! ## Laws -/

theorem start_eq_none_iff (settling : Settling) :
    settling.start.1 = none ↔ settling.isOpen = true := by
  unfold start isOpen
  cases settling.current <;> simp

theorem start_isOpen (settling : Settling) : settling.start.2.isOpen = true := by
  unfold start isOpen
  cases current : settling.current <;> simp [current]

/-- The number of a new sequence is the one after the last. -/
theorem start_eq_some {settling : Settling} {number : UInt64}
    (opened : settling.start.1 = some number) : number = settling.lastNumber + 1 := by
  unfold start at opened
  cases current : settling.current <;> simp_all

theorem close_isOpen (settling : Settling) : settling.close.isOpen = false :=
  rfl

/-- Polls of any other sequence than the open one do nothing. -/
theorem poll_of_ne {settling : Settling} {number : UInt64}
    (stale : settling.current.map SettleSequence.number ≠ some number) (active paging : Bool) :
    settling.poll number active paging = (none, settling) := by
  unfold poll
  cases current : settling.current with
  | none => rfl
  | some sequence =>
      simp only [current, Option.map_some, ne_eq, Option.some.injEq] at stale
      simp [stale]

end Settling

end KineticScroll
