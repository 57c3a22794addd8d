import KineticScroll.Fault

/-!
# Pixels

Positions, sizes and speeds are signed 32-bit whole numbers.  Each operation
is the exact integer operation followed by one of two rules for a result out
of range: the checked operations fault, the saturating ones stop at the end of
the range.  A span is a range of pixels that holds at least one of them, so
moving a value into a span always succeeds.
-/

namespace KineticScroll

abbrev Px := Int32

namespace Px

def least : Px := Int32.minValue

def greatest : Px := Int32.maxValue

/-- The pixel value of an exact result, if it fits. -/
def exact (operation : Arithmetic) (value : Int) : Except Fault Px :=
  if least.toInt ≤ value ∧ value ≤ greatest.toInt then
    .ok (Int32.ofInt value)
  else
    .error (.overflow operation)

def add (first second : Px) : Except Fault Px :=
  exact .add (first.toInt + second.toInt)

def sub (first second : Px) : Except Fault Px :=
  exact .subtract (first.toInt - second.toInt)

def neg (value : Px) : Except Fault Px :=
  exact .negate (-value.toInt)

/-- The pixel value nearest to an exact result. -/
def saturate (value : Int) : Px :=
  Int32.ofIntClamp value

def satAdd (first second : Px) : Px :=
  saturate (first.toInt + second.toInt)

def satSub (first second : Px) : Px :=
  saturate (first.toInt - second.toInt)

def satMul (first second : Px) : Px :=
  saturate (first.toInt * second.toInt)

def satNeg (value : Px) : Px :=
  saturate (-value.toInt)

end Px

/-- A range of pixels, ends included, with something in it. -/
structure Span where
  lowest : Px
  highest : Px
  ordered : lowest ≤ highest
deriving DecidableEq

namespace Span

def between (lowest highest : Px) : Except Fault Span :=
  if ordered : lowest ≤ highest then
    .ok ⟨lowest, highest, ordered⟩
  else
    .error .emptyRange

/-- The value of the span nearest to the given one. -/
def clamp (span : Span) (value : Px) : Px :=
  if value < span.lowest then span.lowest
  else if span.highest < value then span.highest
  else value

end Span

namespace Px

def clamp (value lowest highest : Px) : Except Fault Px :=
  (Span.between lowest highest).map (fun span => span.clamp value)

/-! ## Laws -/

theorem least_le (value : Px) : least.toInt ≤ value.toInt :=
  Int32.minValue_le_toInt value

theorem le_greatest (value : Px) : value.toInt ≤ greatest.toInt :=
  Int32.toInt_le value

/-- A checked result is the exact one. -/
theorem exact_eq_ok_iff {operation : Arithmetic} {value : Int} {result : Px} :
    exact operation value = .ok result ↔ result.toInt = value := by
  unfold exact
  constructor
  · intro computed
    split at computed
    · next inside =>
        injection computed with same
        rw [← same]
        exact Int32.toInt_ofInt_of_le inside.1 (Int.lt_add_one_of_le inside.2)
    · cases computed
  · intro same
    have inside : least.toInt ≤ value ∧ value ≤ greatest.toInt :=
      same ▸ ⟨least_le result, le_greatest result⟩
    rw [if_pos inside, ← same, Int32.ofInt_toInt]

theorem exact_eq_error_iff {operation : Arithmetic} {value : Int} {fault : Fault} :
    exact operation value = .error fault ↔
      fault = .overflow operation ∧
        ¬ (least.toInt ≤ value ∧ value ≤ greatest.toInt) := by
  unfold exact
  split
  · next inside => simp [inside]
  · next outside => simp [outside, eq_comm]

theorem toInt_max (first second : Px) :
    (max first second).toInt = max first.toInt second.toInt := by
  show (if first ≤ second then second else first).toInt = _
  split <;> simp_all only [Int32.le_iff_toInt_le] <;> omega

theorem toInt_min (first second : Px) :
    (min first second).toInt = min first.toInt second.toInt := by
  show (if first ≤ second then first else second).toInt = _
  split <;> simp_all only [Int32.le_iff_toInt_le] <;> omega

/-- A result in range saturates to itself. -/
theorem toInt_saturate {value : Int}
    (above : least.toInt ≤ value) (below : value ≤ greatest.toInt) :
    (saturate value).toInt = value :=
  Int32.toInt_ofIntClamp above below

/-- Any other result saturates to the end that it has passed. -/
theorem toInt_saturate_eq (value : Int) :
    (saturate value).toInt = max least.toInt (min value greatest.toInt) := by
  have ordered := least_le greatest
  unfold saturate Int32.ofIntClamp
  split
  · split
    · next above below =>
        rw [Int32.toInt_ofIntLE]
        show value = max Int32.minValue.toInt (min value Int32.maxValue.toInt)
        omega
    · next above beyond =>
        show greatest.toInt = _
        have passed : greatest.toInt < value := Int.not_le.mp beyond
        omega
  · next below =>
      show least.toInt = _
      have passed : value < least.toInt := Int.not_le.mp below
      omega

end Px

namespace Span

theorem lowest_le_clamp (span : Span) (value : Px) : span.lowest ≤ span.clamp value := by
  have ordered := span.ordered
  unfold clamp
  simp only [Int32.lt_iff_toInt_lt, Int32.le_iff_toInt_le] at *
  split
  · exact Int.le_refl _
  · split <;> omega

theorem clamp_le_highest (span : Span) (value : Px) : span.clamp value ≤ span.highest := by
  have ordered := span.ordered
  unfold clamp
  simp only [Int32.lt_iff_toInt_lt, Int32.le_iff_toInt_le] at *
  split
  · exact ordered
  · split <;> omega

/-- A value of the span stays where it is. -/
theorem clamp_eq_self {span : Span} {value : Px}
    (above : span.lowest ≤ value) (below : value ≤ span.highest) :
    span.clamp value = value := by
  unfold clamp
  simp only [Int32.lt_iff_toInt_lt, Int32.le_iff_toInt_le] at *
  rw [if_neg (by omega), if_neg (by omega)]

end Span

end KineticScroll
