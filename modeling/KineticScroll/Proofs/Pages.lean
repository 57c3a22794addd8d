import KineticScroll.Geometry.Page
import KineticScroll.Proofs.Outcome

/-!
# Pages over all whole numbers

The page that an offset comes to rest at is found with pixels, which saturate
and may fault.  It is found without a fault whatever the offset, the velocity and
the page size are.  Where the edges of the page that the offset lies on are
pixels, saturation makes no difference: the result is the one that exact whole
numbers give, it never goes back when the offset or the velocity goes up, and
without velocity it is the nearest page.
-/

namespace KineticScroll

namespace Page

/--
The page that an offset reaches at that velocity: the next one when the two
together have passed its middle, else its own.  Division rounds down.
-/
def reached (offset velocity size : Int) : Int :=
  if offset / size * size + size / 2 < offset + velocity then offset / size + 1
  else offset / size

/--
The edge of its page that an offset goes to: the start, or past the middle the
end, held to a limit.  The sum with the velocity stops at the greatest pixel.
-/
def edgeWithin (limit offset velocity size : Int) : Int :=
  if offset / size * size + size / 2 < min (offset + velocity) Px.greatest.toInt then
    min (offset / size * size + size) limit
  else
    offset / size * size

/-- Both edges of the page that an offset lies on are pixels. -/
structure EdgesFit (offset size : Px) : Prop where
  start : Px.least.toInt ≤ offset.toInt / size.toInt * size.toInt
  finish : (offset.toInt / size.toInt + 1) * size.toInt ≤ Px.greatest.toInt

/-! ## Whole numbers -/

/-- An offset lies from the start of its page up to the start of the next. -/
theorem start_le_lt_finish (offset : Int) {size : Int} (sized : 0 < size) :
    offset / size * size ≤ offset ∧ offset < offset / size * size + size := by
  have finish := Int.lt_ediv_add_one_mul_self offset sized
  rw [Int.add_mul, Int.one_mul] at finish
  exact ⟨Int.ediv_mul_le offset (Int.ne_of_gt sized), finish⟩

/-- Neither a greater offset nor a greater velocity reaches an earlier page. -/
theorem reached_le_reached {offset further velocity faster size : Int} (sized : 0 < size)
    (onward : offset ≤ further) (noSlower : velocity ≤ faster) :
    reached offset velocity size ≤ reached further faster size := by
  have pages : offset / size ≤ further / size := Int.ediv_le_ediv sized onward
  unfold reached
  by_cases same : offset / size = further / size
  · -- On one page the middle is the same, and more is added to a greater offset.
    rw [← same]
    split
    · exact Int.le_of_eq (if_pos (by omega)).symm
    · split <;> omega
  · split <;> split <;> omega

/-- Without velocity no page is nearer than the one reached. -/
theorem reached_zero_near (offset : Int) {size : Int} (sized : 0 < size) :
    -(size / 2) ≤ reached offset 0 size * size - offset ∧
      reached offset 0 size * size - offset ≤ size / 2 := by
  obtain ⟨start, finish⟩ := start_le_lt_finish offset sized
  unfold reached
  split
  · rw [Int.add_mul, Int.one_mul]
    constructor <;> omega
  · constructor <;> omega

/-! ## Pixels -/

theorem toInt_pos {size : Px} (sized : 0 < size) : 0 < size.toInt := by
  rw [Int32.lt_iff_toInt_lt] at sized
  exact sized

/-- The page of an offset is a pixel value, whatever the page size. -/
theorem toInt_index (offset : Px) {size : Px} (sized : 0 < size) :
    (index offset size).toInt = offset.toInt / size.toInt := by
  have positive := toInt_pos sized
  have least : -2147483648 ≤ offset.toInt := Px.least_le offset
  have greatest : offset.toInt ≤ 2147483647 := Px.le_greatest offset
  have low : -2147483648 ≤ offset.toInt / size.toInt :=
    (Int.le_ediv_iff_mul_le positive).mpr (by omega)
  have high : offset.toInt / size.toInt < 2147483648 :=
    (Int.ediv_lt_iff_lt_mul positive).mpr (by omega)
  unfold index
  rw [Int.fdiv_eq_ediv_of_nonneg _ (Int.le_of_lt positive)]
  exact Int32.toInt_ofInt_of_le low high

theorem toInt_half {size : Px} (sized : 0 < size) : (size / 2).toInt = size.toInt / 2 := by
  rw [Int32.toInt_div_of_ne_right _ _ (by decide)]
  exact Int.tdiv_eq_ediv_of_nonneg (Int.le_of_lt (toInt_pos sized))

/-- The start of a page cannot lie beyond the pixels, since an offset follows it. -/
theorem toInt_start (offset : Px) {size : Px} (sized : 0 < size) :
    (Px.satMul (index offset size) size).toInt =
      max Px.least.toInt (offset.toInt / size.toInt * size.toInt) := by
  have below := (start_le_lt_finish offset.toInt (toInt_pos sized)).1
  have greatest := Px.le_greatest offset
  rw [Px.satMul, Px.toInt_saturate_eq, toInt_index offset sized]
  omega

/-- The middle of a page saturates past the greatest pixel alone, and so does what is held to it. -/
theorem middle_lt_iff {offset velocity size : Px} (sized : 0 < size)
    (start : Px.least.toInt ≤ offset.toInt / size.toInt * size.toInt) :
    Px.satAdd (Px.satMul (index offset size) size) (size / 2) < Px.satAdd offset velocity ↔
      offset.toInt / size.toInt * size.toInt + size.toInt / 2 <
        min (offset.toInt + velocity.toInt) Px.greatest.toInt := by
  have positive := toInt_pos sized
  rw [Int32.lt_iff_toInt_lt, Px.satAdd, Px.satAdd, Px.toInt_saturate_eq, Px.toInt_saturate_eq,
    toInt_start offset sized, toInt_half sized]
  omega

/-- The last page has the greatest pixel as its start, and its middle cannot be passed. -/
theorem index_lt_greatest {offset velocity size : Px} (sized : 0 < size)
    (passed : Px.satAdd (Px.satMul (index offset size) size) (size / 2) <
      Px.satAdd offset velocity) : (index offset size).toInt < Px.greatest.toInt := by
  have positive := toInt_pos sized
  rw [toInt_index offset sized]
  apply Int.not_le.mp
  intro last
  have some : 0 ≤ offset.toInt / size.toInt := Int.le_trans (by decide) last
  have grown : offset.toInt / size.toInt * 1 ≤ offset.toInt / size.toInt * size.toInt :=
    Int.mul_le_mul_of_nonneg_left (Int.add_one_le_of_lt positive) some
  have ordered := Px.least_le Px.greatest
  have held := (middle_lt_iff sized (by omega)).mp passed
  omega

theorem exists_next {page : Px} (following : page.toInt < Px.greatest.toInt) :
    ∃ next, Px.add page 1 = .ok next ∧ next.toInt = page.toInt + 1 := by
  have least := Px.least_le page
  have one : (1 : Px).toInt = 1 := by decide
  have added : Px.add page 1 = .ok (Int32.ofInt (page.toInt + (1 : Px).toInt)) :=
    if_pos (by omega)
  exact ⟨_, added, by rw [Px.exact_eq_ok_iff.mp added, one]⟩

/-- No velocity and no page size makes the search for a page fault. -/
theorem exists_target (offset velocity size : Px) :
    ∃ page, target offset velocity size = .ok page := by
  unfold target
  split
  · exact ⟨_, rfl⟩
  · next sized =>
      dsimp only
      split
      · next passed =>
          obtain ⟨next, added, _⟩ := exists_next (index_lt_greatest (Int32.not_le.mp sized) passed)
          exact ⟨_, Outcome.map_eq_ok_iff.mpr ⟨next, added, rfl⟩⟩
      · exact ⟨_, rfl⟩

/-- The end of a page may lie beyond the pixels, and the result is then the greatest of them. -/
theorem toInt_target {offset velocity size page : Px} (sized : 0 < size)
    (start : Px.least.toInt ≤ offset.toInt / size.toInt * size.toInt)
    (found : target offset velocity size = .ok page) :
    page.toInt = edgeWithin Px.greatest.toInt offset.toInt velocity.toInt size.toInt := by
  have positive := toInt_pos sized
  unfold edgeWithin
  unfold target at found
  rw [if_neg (Int32.not_le.mpr sized)] at found
  dsimp only at found
  split at found
  · next passed =>
      rw [if_pos ((middle_lt_iff sized start).mp passed)]
      obtain ⟨next, added, following⟩ := exists_next (index_lt_greatest sized passed)
      obtain ⟨_, again, same⟩ := Outcome.map_eq_ok_iff.mp found
      rw [added] at again
      cases again
      rw [← same, Px.satMul, Px.toInt_saturate_eq, following, toInt_index offset sized,
        Int.add_mul, Int.one_mul]
      exact Int.max_eq_right (Int.le_min.mpr ⟨by omega, Px.least_le Px.greatest⟩)
  · next short =>
      rw [if_neg fun passed => short ((middle_lt_iff sized start).mpr passed)]
      cases found
      rw [toInt_start offset sized]
      exact Int.max_eq_right start

/-- Where both edges of the page are pixels, the result is the exact one. -/
theorem toInt_target_of_edgesFit {offset velocity size page : Px} (sized : 0 < size)
    (fits : EdgesFit offset size) (found : target offset velocity size = .ok page) :
    page.toInt = reached offset.toInt velocity.toInt size.toInt * size.toInt := by
  have positive := toInt_pos sized
  have finish := fits.finish
  rw [Int.add_mul, Int.one_mul] at finish
  rw [toInt_target sized fits.start found]
  unfold edgeWithin reached
  split
  · rw [if_pos (by omega), Int.add_mul, Int.one_mul]
    omega
  · rw [if_neg (by omega)]

/--
The search for a page never faults.  While the edges of the pages in question are
pixels, it finds the page that exact whole numbers give, it does not go back for
a greater offset or velocity, and without velocity it finds the nearest page.
-/
theorem target_exact :
    (∀ offset velocity size, ∃ page, target offset velocity size = .ok page) ∧
    (∀ offset velocity size, 0 < size → EdgesFit offset size →
      ∃ page, target offset velocity size = .ok page ∧
        page.toInt = reached offset.toInt velocity.toInt size.toInt * size.toInt) ∧
    (∀ offset further velocity faster size page next, 0 < size → EdgesFit offset size →
      EdgesFit further size → offset ≤ further → velocity ≤ faster →
      target offset velocity size = .ok page → target further faster size = .ok next →
        page ≤ next) ∧
    (∀ offset size page, 0 < size → EdgesFit offset size → target offset 0 size = .ok page →
      size.toInt ∣ page.toInt ∧
        -(size.toInt / 2) ≤ page.toInt - offset.toInt ∧
        page.toInt - offset.toInt ≤ size.toInt / 2) := by
  refine ⟨exists_target, ?_, ?_, ?_⟩
  · intro offset velocity size sized fits
    obtain ⟨page, found⟩ := exists_target offset velocity size
    exact ⟨page, found, toInt_target_of_edgesFit sized fits found⟩
  · intro offset further velocity faster size page next sized fits fitsFurther onward noSlower
      found foundNext
    rw [Int32.le_iff_toInt_le] at onward noSlower ⊢
    rw [toInt_target_of_edgesFit sized fits found,
      toInt_target_of_edgesFit sized fitsFurther foundNext]
    have positive := toInt_pos sized
    exact Int.mul_le_mul_of_nonneg_right (reached_le_reached positive onward noSlower)
      (Int.le_of_lt positive)
  · intro offset size page sized fits found
    rw [toInt_target_of_edgesFit sized fits found]
    exact ⟨Int.dvd_mul_left _ _, reached_zero_near offset.toInt (toInt_pos sized)⟩

/-- Above the start, and next to the greatest pixel with a velocity that takes it beyond. -/
theorem target_exact_beyond :
    EdgesFit (-30) 600 ∧ EdgesFit 2147483000 600 ∧
    target (-30) 0 600 = .ok 0 ∧ target 2147483000 2147483647 600 = .ok 2147483400 ∧
    (∃ page, target 2147483000 2147483647 600 = .ok page ∧
      page.toInt = reached 2147483000 2147483647 600 * 600) ∧
    (0 : Px) ≤ 2147483400 ∧
    (600 : Int) ∣ 0 ∧ -(600 / 2) ≤ (0 : Int) - -30 ∧ (0 : Int) - -30 ≤ 600 / 2 := by
  have fits : EdgesFit (-30) 600 := ⟨by decide, by decide⟩
  have fitsFurther : EdgesFit 2147483000 600 := ⟨by decide, by decide⟩
  have first : target (-30) 0 600 = .ok 0 := rfl
  have second : target 2147483000 2147483647 600 = .ok 2147483400 := rfl
  obtain ⟨_, exact, ordered, near⟩ := target_exact
  exact ⟨fits, fitsFurther, first, second, exact _ _ _ (by decide) fitsFurther,
    ordered _ _ _ _ _ _ _ (by decide) fits fitsFurther (by decide) (by decide) first second,
    near _ _ _ (by decide) fits first⟩

end Page

end KineticScroll
