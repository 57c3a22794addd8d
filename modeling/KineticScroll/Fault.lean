/-!
# Faults

A fault ends the operation that meets it and leaves no state behind.  There
are three causes: pixel arithmetic that leaves its range, a clamp into a range
that holds nothing, and a demand for something the pane does not have.
-/

namespace KineticScroll

/-- The checked operations of pixel arithmetic. -/
inductive Arithmetic where
  | add
  | subtract
  | negate
deriving DecidableEq

/-- Why no physics drives the animations of a pane. -/
inductive PhysicsGap where
  | missing
  | incompatible
deriving DecidableEq

/-- What a pane may be asked for without having it. -/
inductive Unavailable where
  | visibleRect
  | physics (gap : PhysicsGap)
deriving DecidableEq

inductive Fault where
  | overflow (operation : Arithmetic)
  | emptyRange
  | unavailable (missing : Unavailable)
deriving DecidableEq

namespace Arithmetic

def verb : Arithmetic → String
  | .add => "add"
  | .subtract => "subtract"
  | .negate => "negate"

end Arithmetic

namespace Unavailable

def message : Unavailable → String
  | .visibleRect =>
      "clipping rect requested but clipped subview removal is disabled"
  | .physics .missing =>
      "no scroller available; fling bounce-back fix is disabled"
  | .physics .incompatible =>
      "scroller cannot override fling bounds; fling bounce-back fix is disabled"

end Unavailable

namespace Fault

/-- An empty range has no text of its own. -/
def message? : Fault → Option String
  | .overflow operation => some ("attempt to " ++ operation.verb ++ " with overflow")
  | .emptyRange => none
  | .unavailable missing => some missing.message

end Fault

end KineticScroll
