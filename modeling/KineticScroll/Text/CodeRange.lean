/-!
# Ranges of character codes

A class of characters is a list of ranges of codes, in ascending order and with
a gap between any two.  Main statement: on such a list the search, which stops
at the first range that begins beyond the code, finds every code that a range
holds.
-/

namespace KineticScroll

namespace Text

/-- The codes from `first` to `last`, both included. -/
structure CodeRange where
  first : Nat
  last : Nat
deriving DecidableEq

namespace CodeRange

def Holds (range : CodeRange) (code : Nat) : Prop :=
  range.first ≤ code ∧ code ≤ range.last

instance (range : CodeRange) (code : Nat) : Decidable (range.Holds code) :=
  inferInstanceAs (Decidable (_ ∧ _))

/-- No range is empty, and between any two lies a code that neither holds. -/
def isAscending : List CodeRange → Bool
  | [] => true
  | [range] => range.first ≤ range.last
  | range :: next :: rest =>
      range.first ≤ range.last && range.last + 1 < next.first && isAscending (next :: rest)

/-- Whether one of ascending ranges holds a code; those beyond the code are not searched. -/
def covers : List CodeRange → Nat → Bool
  | [], _ => false
  | range :: rest, code => range.first ≤ code && (code ≤ range.last || covers rest code)

theorem isAscending_tail (range : CodeRange) (rest : List CodeRange)
    (ascending : isAscending (range :: rest) = true) : isAscending rest = true := by
  cases rest with
  | nil => rfl
  | cons next rest =>
      simp only [isAscending, Bool.and_eq_true] at ascending
      exact ascending.2

/-- The first of ascending ranges begins before all others. -/
theorem first_le_of_isAscending (range : CodeRange) (rest : List CodeRange)
    (ascending : isAscending (range :: rest) = true) :
    ∀ later ∈ rest, range.first ≤ later.first := by
  induction rest generalizing range with
  | nil => simp
  | cons next rest ih =>
      have tail := isAscending_tail range (next :: rest) ascending
      simp only [isAscending, Bool.and_eq_true, decide_eq_true_eq] at ascending
      intro later member
      rcases List.mem_cons.mp member with rfl | member
      · omega
      · have inner := ih next tail later member
        omega

theorem covers_iff (ranges : List CodeRange) (ascending : isAscending ranges = true) (code : Nat) :
    covers ranges code = true ↔ ∃ range ∈ ranges, range.Holds code := by
  induction ranges with
  | nil => simp [covers]
  | cons range rest ih =>
      have inner := ih (isAscending_tail range rest ascending)
      have begins := first_le_of_isAscending range rest ascending
      simp only [covers, Bool.and_eq_true, Bool.or_eq_true, decide_eq_true_eq, inner,
        List.mem_cons, or_and_right, exists_or, exists_eq_left]
      constructor
      · rintro ⟨begun, ended | found⟩
        · exact Or.inl ⟨begun, ended⟩
        · exact Or.inr found
      · rintro (holds | ⟨later, member, holds⟩)
        · exact ⟨holds.1, Or.inl holds.2⟩
        · exact ⟨Nat.le_trans (begins later member) holds.1, Or.inr ⟨later, member, holds⟩⟩

end CodeRange

end Text

end KineticScroll
