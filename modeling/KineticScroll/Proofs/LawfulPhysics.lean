import KineticScroll.Motion.Decay

/-!
# Lawful physics

A pane relies on two promises of the physics that its host supplies: a halt
ends the motion, and an advance that tells of no motion finds the motion over
and leaves it so.  The stock physics keeps both, and so does physics that walks
in even strides.
-/

namespace KineticScroll

class LawfulPhysics (σ : Type) [ScrollPhysics σ] : Prop where
  isIdle_halt (physics : σ) : ScrollPhysics.isIdle (ScrollPhysics.halt physics) = true
  isIdle_of_advance {physics advanced : σ} {now : Millis} :
    ScrollPhysics.advance physics now = (false, advanced) → ScrollPhysics.isIdle physics = true
  isIdle_advanced {physics advanced : σ} {now : Millis} :
    ScrollPhysics.advance physics now = (false, advanced) → ScrollPhysics.isIdle advanced = true

/-- The stock physics is left as it is by an advance that tells of no motion. -/
theorem Decay.advance_eq_false {decay after : Decay} {now : Millis}
    (advanced : decay.advance now = (false, after)) : decay.isIdle = true ∧ after = decay := by
  have told : (!decay.isIdle) = false := by rw [← decay.advance_fst now, advanced]
  have idle : decay.isIdle = true := by simpa using told
  rw [advance_of_isIdle idle] at advanced
  cases advanced
  exact ⟨idle, rfl⟩

instance : LawfulPhysics Decay where
  isIdle_halt decay := decay.halt_isIdle
  isIdle_of_advance advanced := (Decay.advance_eq_false advanced).1
  isIdle_advanced advanced := by
    obtain ⟨idle, rfl⟩ := Decay.advance_eq_false advanced
    exact idle

/-- Physics that walks in even strides, and stands for a frame where it arrives. -/
structure Stride where
  length : Nat
  position : Px
  destination : Px
  isOver : Bool
deriving DecidableEq

namespace Stride

def create (length : Nat) : Stride :=
  ⟨length, 0, 0, true⟩

def walk (stride : Stride) (source target : Px) : Stride :=
  { stride with position := source, destination := target, isOver := source = target }

/-- The position one stride further. -/
def ahead (stride : Stride) : Px :=
  let way := stride.destination.toInt - stride.position.toInt
  Px.saturate (stride.position.toInt + max (-(stride.length : Int)) (min way stride.length))

def advance (stride : Stride) : Bool × Stride :=
  if stride.isOver then
    (false, stride)
  else
    (true, { stride with
      position := stride.ahead
      isOver := stride.ahead = stride.destination && stride.position = stride.destination })

def halt (stride : Stride) : Stride :=
  { stride with isOver := true }

instance : ScrollPhysics Stride where
  fling stride launch _ := .ok (stride.walk launch.startY (Px.satAdd launch.startY launch.velocity))
  glide stride source distance _ := stride.walk source (Px.satAdd source distance)
  advance stride _ := stride.advance
  position := Stride.position
  destination := Stride.destination
  isIdle := Stride.isOver
  halt := halt
  keepsBounds _ := true

theorem advance_eq_false {stride after : Stride} (advanced : stride.advance = (false, after)) :
    stride.isOver = true ∧ after = stride := by
  unfold advance at advanced
  split at advanced
  · next ended =>
      cases advanced
      exact ⟨ended, rfl⟩
  · cases advanced

instance : LawfulPhysics Stride where
  isIdle_halt _ := rfl
  isIdle_of_advance advanced := (advance_eq_false advanced).1
  isIdle_advanced advanced := by
    obtain ⟨ended, rfl⟩ := advance_eq_false advanced
    exact ended

end Stride

end KineticScroll
