import KineticScroll.Proofs.StockPhysics

/-!
# Flings left to themselves

A fling that is neither halted nor replaced flies until it is slow, hits the end of
the overscroll or starts too slow to fly at all, and then rests or glides back to
its bounds.  On each of these ways it is bound for a pixel between its bounds and
ends there.  The flight itself counts milliseconds and not frames: however the time
is divided among frames, the same flight comes of it.
-/

namespace KineticScroll

theorem Millis.elapsed_add {start now later : Millis} (early : start ≤ now) (late : now ≤ later) :
    (elapsed start later).toNat = (elapsed start now).toNat + (elapsed now later).toNat := by
  rw [UInt64.le_iff_toNat_le] at early late
  rw [toNat_elapsed, toNat_elapsed, toNat_elapsed]
  omega

namespace Flight

variable {flight : Flight} {friction : Single} {now later : Millis}

theorem step_bounds (friction : Single) (flight : Flight) :
    (flight.step friction).bounds = flight.bounds := by
  unfold step
  dsimp only
  split <;> rfl

theorem steps_bounds (friction : Single) (count : Nat) (flight : Flight) :
    (flight.steps friction count).bounds = flight.bounds := by
  induction count generalizing flight with
  | zero => rfl
  | succ count ih =>
      rw [steps]
      split
      · exact step_bounds friction flight
      · rw [ih, step_bounds]

theorem advance_bounds (friction : Single) (flight : Flight) (now : Millis) :
    (flight.advance friction now).bounds = flight.bounds :=
  steps_bounds friction _ flight

/-! ## Time in parts -/

theorem step_at (friction : Single) (flight : Flight) (time : Millis) :
    step friction { flight with lastTime := time } =
      { flight.step friction with lastTime := time } := by
  by_cases past : flight.highest < flight.position + flight.velocity ∨
      flight.position + flight.velocity < flight.lowest
  · have stopped : flight.step friction = _ := if_pos past
    rw [stopped]
    exact if_pos past
  · have moved : flight.step friction = _ := if_neg past
    rw [moved]
    exact if_neg past

/-- Milliseconds pass alike whenever they pass. -/
theorem steps_at (friction : Single) (count : Nat) (flight : Flight) (time : Millis) :
    steps friction count { flight with lastTime := time } =
      { flight.steps friction count with lastTime := time } := by
  induction count generalizing flight with
  | zero => rfl
  | succ count ih =>
      have same : Flight.isAtRest { flight.step friction with lastTime := time } =
          (flight.step friction).isAtRest := rfl
      rw [steps, steps, step_at]
      dsimp only
      rw [same]
      cases (flight.step friction).isAtRest with
      | true => rfl
      | false => exact ih (flight.step friction)

/-- As long as the flight goes on, the milliseconds may be counted in two parts. -/
theorem steps_add {first : Nat} (moving : (flight.steps friction first).isAtRest = false)
    (second : Nat) :
    flight.steps friction (first + second) =
      (flight.steps friction first).steps friction second := by
  induction first generalizing flight with
  | zero => rw [Nat.zero_add, steps]
  | succ first ih =>
      rw [Nat.succ_add]
      rw [steps] at moving ⊢
      rw [steps]
      cases rests : (flight.step friction).isAtRest with
      | true =>
          rw [rests, if_pos rfl, rests] at moving
          cases moving
      | false =>
          rw [rests, if_neg Bool.false_ne_true] at moving
          rw [if_neg Bool.false_ne_true, if_neg Bool.false_ne_true]
          exact ih moving

/-- A flight that has come to rest stays where it is. -/
theorem steps_of_rest {first : Nat} (begun : flight.isAtRest = false)
    (rests : (flight.steps friction first).isAtRest = true) (second : Nat) :
    flight.steps friction (first + second) = flight.steps friction first := by
  induction first generalizing flight with
  | zero =>
      rw [steps, begun] at rests
      cases rests
  | succ first ih =>
      rw [Nat.succ_add]
      rw [steps] at rests
      rw [steps, steps]
      cases ended : (flight.step friction).isAtRest with
      | true => rw [if_pos rfl, if_pos rfl]
      | false =>
          rw [ended, if_neg Bool.false_ne_true] at rests
          rw [if_neg Bool.false_ne_true, if_neg Bool.false_ne_true]
          exact ih ended rests

theorem advance_advance (early : flight.lastTime ≤ now) (late : now ≤ later)
    (moving : (flight.advance friction now).isAtRest = false) :
    (flight.advance friction now).advance friction later = flight.advance friction later := by
  have parts := Millis.elapsed_add early late
  unfold advance at moving ⊢
  dsimp only
  rw [steps_at, parts, steps_add moving]

theorem advance_of_rest (begun : flight.isAtRest = false) (early : flight.lastTime ≤ now)
    (late : now ≤ later) (rests : (flight.advance friction now).isAtRest = true) :
    flight.advance friction later =
      { flight.advance friction now with lastTime := later } := by
  have parts := Millis.elapsed_add early late
  unfold advance at rests ⊢
  dsimp only
  rw [parts, steps_of_rest begun rests]

end Flight

namespace Decay

variable {decay : Decay} {flight : Flight} {bounds : Span} {now later : Millis}

/-! ## Between the bounds -/

/-- The motion is bound for a pixel between these bounds, and its flight keeps to them. -/
structure KeepsTo (bounds : Span) (decay : Decay) : Prop where
  lowest_le : bounds.lowest ≤ decay.destination
  le_highest : decay.destination ≤ bounds.highest
  flight : ∀ flight, decay.motion = .flight flight → flight.bounds = bounds

theorem settle_keepsTo (decay : Decay) (bounds : Span) (now : Millis) :
    KeepsTo bounds (decay.settle bounds now) := by
  refine ⟨bounds.lowest_le_clamp decay.position, bounds.clamp_le_highest decay.position, ?_⟩
  intro flight motion
  rw [settle] at motion
  dsimp only at motion
  split at motion <;> cases motion

theorem flingBetween_keepsTo (decay : Decay) (launch : Launch) (bounds : Span) (now : Millis) :
    KeepsTo bounds (decay.flingBetween launch bounds now) := by
  unfold flingBetween
  dsimp only
  split
  · exact settle_keepsTo _ bounds now
  · refine ⟨bounds.lowest_le_clamp _, bounds.clamp_le_highest _, ?_⟩
    rintro _ ⟨⟩
    rfl

/-- What a flight that has come so far makes of the physics. -/
def flown (decay : Decay) (flight : Flight) (now : Millis) : Decay :=
  let moved := { decay with position := Single.round flight.position }
  if flight.isAtRest then moved.settle flight.bounds now
  else { moved with motion := .flight flight }

theorem advance_of_flight (motion : decay.motion = .flight flight) (now : Millis) :
    (decay.advance now).2 = decay.flown (flight.advance decay.friction now) now := by
  rw [advance, motion]
  rfl

theorem flown_of_moving (moving : flight.isAtRest = false) (decay : Decay) (now : Millis) :
    decay.flown flight now =
      { decay with position := Single.round flight.position, motion := .flight flight } := by
  rw [flown, moving]
  rfl

theorem flown_of_rest (rests : flight.isAtRest = true) (decay : Decay) (now : Millis) :
    decay.flown flight now =
      settle { decay with position := Single.round flight.position } flight.bounds now := by
  rw [flown, rests]
  rfl

theorem KeepsTo.advance (keeps : KeepsTo bounds decay) (now : Millis) :
    KeepsTo bounds (decay.advance now).2 := by
  cases motion : decay.motion with
  | still =>
      rw [advance_of_isIdle ((isIdle_iff decay).mpr motion)]
      exact keeps
  | glide glide =>
      rw [Decay.advance, motion]
      refine ⟨keeps.lowest_le, keeps.le_highest, ?_⟩
      intro flight flies
      dsimp only at flies
      split at flies <;> cases flies
  | flight flight =>
      have same := Flight.advance_bounds decay.friction flight now
      rw [keeps.flight flight motion] at same
      rw [advance_of_flight motion]
      cases rests : (flight.advance decay.friction now).isAtRest with
      | true =>
          rw [flown_of_rest rests, same]
          exact settle_keepsTo _ bounds now
      | false =>
          rw [flown_of_moving rests]
          refine ⟨keeps.lowest_le, keeps.le_highest, ?_⟩
          rintro _ ⟨⟩
          exact same

theorem KeepsTo.advanceAll (keeps : KeepsTo bounds decay) (times : List Millis) :
    KeepsTo bounds (decay.advanceAll times) := by
  induction times generalizing decay with
  | nil => exact keeps
  | cons now later ih => exact ih (keeps.advance now)

theorem LeadsHome.advanceAll (leads : LeadsHome decay) (times : List Millis) :
    LeadsHome (decay.advanceAll times) := by
  induction times generalizing decay with
  | nil => exact leads
  | cons now later ih => exact ih (advance_leadsHome leads now)

/-- What is flung between bounds that hold something. -/
theorem fling_of_ordered (decay : Decay) {launch : Launch}
    (ordered : launch.lowest ≤ launch.highest) (start : Millis) :
    decay.fling launch start =
      .ok (decay.flingBetween launch ⟨launch.lowest, launch.highest, ordered⟩ start) := by
  rw [fling, Span.between, dif_pos ordered]
  rfl

/-- Whatever the friction and the launch, a fling is bound for a pixel between its bounds at every
time, and once it has ended it stands there. -/
theorem rests_between_bounds (decay : Decay) {launch : Launch}
    (ordered : launch.lowest ≤ launch.highest) (start : Millis) :
    ∃ flung, decay.fling launch start = .ok flung ∧ ∀ times,
      launch.lowest ≤ (flung.advanceAll times).destination ∧
        (flung.advanceAll times).destination ≤ launch.highest ∧
        ((flung.advanceAll times).isIdle = true →
          (flung.advanceAll times).position = (flung.advanceAll times).destination) := by
  refine ⟨_, decay.fling_of_ordered ordered start, fun times => ?_⟩
  have keeps := (flingBetween_keepsTo decay launch ⟨_, _, ordered⟩ start).advanceAll times
  have leads := (flingBetween_leadsHome decay launch ⟨_, _, ordered⟩ start).advanceAll times
  exact ⟨keeps.lowest_le, keeps.le_highest, leads.position_eq⟩

/-- Flung further away from far past its bounds, it stops at the end of the overscroll and springs
back. -/
theorem rests_between_bounds_from_afar :
    ∃ flung, (0 : Px) ≤ 100 ∧ initial.fling ⟨0, 5000, 3000, 0, 100, 50⟩ 0 = .ok flung ∧
      (flung.advanceAll [16, 116]).position = 113 ∧
      (flung.advanceAll [16, 116]).destination ≤ 100 ∧
      (flung.advanceAll [16, 116, 216]).isIdle = true ∧
      (flung.advanceAll [16, 116, 216]).position =
        (flung.advanceAll [16, 116, 216]).destination := by
  obtain ⟨flung, done, rests⟩ := @rests_between_bounds initial
    ⟨0, 5000, 3000, 0, 100, 50⟩ (by decide) 0
  have came : (initial.fling ⟨0, 5000, 3000, 0, 100, 50⟩ 0).map (fun flung =>
      ((flung.advanceAll [16, 116]).position, (flung.advanceAll [16, 116, 216]).isIdle)) =
      .ok (113, true) := by
    decide +kernel
  rw [done] at came
  simp only [Except.map, Except.ok.injEq, Prod.mk.injEq] at came
  obtain ⟨halfway, ended⟩ := came
  exact ⟨flung, by decide, done, halfway, (rests [16, 116]).2.1, ended,
    (rests [16, 116, 216]).2.2 ended⟩

/-! ## Time in frames -/

def isInFlight (decay : Decay) : Bool :=
  match decay.motion with
  | .flight _ => true
  | _ => false

theorem settle_isInFlight (decay : Decay) (bounds : Span) (now : Millis) :
    (decay.settle bounds now).isInFlight = false := by
  unfold settle isInFlight
  dsimp only
  split
  · next flight flies => split at flies <;> cases flies
  · rfl

theorem flown_isInFlight (decay : Decay) (flight : Flight) (now : Millis) :
    (decay.flown flight now).isInFlight = !flight.isAtRest := by
  cases rests : flight.isAtRest with
  | true =>
      rw [flown_of_rest rests, settle_isInFlight]
      rfl
  | false =>
      rw [flown_of_moving rests]
      rfl

/-- What is in flight has been in flight before, unless something was flung. -/
theorem isInFlight_of_advance (flies : (decay.advance now).2.isInFlight = true) :
    decay.isInFlight = true := by
  cases motion : decay.motion with
  | still =>
      rw [advance_of_isIdle ((isIdle_iff decay).mpr motion)] at flies
      exact flies
  | glide glide =>
      rw [advance, motion, isInFlight] at flies
      dsimp only at flies
      split at flies
      · next flight never => split at never <;> cases never
      · cases flies
  | flight flight => rw [isInFlight, motion]

theorem isInFlight_of_advanceAll {times : List Millis}
    (flies : (decay.advanceAll times).isInFlight = true) : decay.isInFlight = true := by
  induction times generalizing decay with
  | nil => exact flies
  | cons now later ih => exact isInFlight_of_advance (ih flies)

/-- A frame in between does not matter to a flight that goes on. -/
theorem advance_advance (motion : decay.motion = .flight flight) (early : flight.lastTime ≤ now)
    (late : now ≤ later) (flies : (decay.advance now).2.isInFlight = true) :
    (decay.advance now).2.motion = .flight (flight.advance decay.friction now) ∧
      ((decay.advance now).2.advance later).2 = (decay.advance later).2 := by
  rw [advance_of_flight motion] at flies ⊢
  rw [flown_isInFlight, Bool.not_eq_true'] at flies
  have onward : (decay.flown (flight.advance decay.friction now) now).motion =
      .flight (flight.advance decay.friction now) := by rw [flown_of_moving flies]
  have friction : (decay.flown (flight.advance decay.friction now) now).friction =
      decay.friction := by rw [flown_of_moving flies]
  refine ⟨onward, ?_⟩
  rw [advance_of_flight onward, friction, Flight.advance_advance early late flies,
    advance_of_flight motion, flown_of_moving flies]
  rfl

/-- A flight that has come to rest within its bounds would be at rest there in any later frame. -/
theorem advance_of_rest (motion : decay.motion = .flight flight) (begun : flight.isAtRest = false)
    (early : flight.lastTime ≤ now) (late : now ≤ later)
    (landed : (decay.advance now).2.isInFlight = false)
    (above : flight.bounds.lowest ≤ (decay.advance now).2.position)
    (below : (decay.advance now).2.position ≤ flight.bounds.highest) :
    (decay.advance now).2.isIdle = true ∧ (decay.advance later).2 = (decay.advance now).2 := by
  rw [advance_of_flight motion] at landed above below ⊢
  rw [flown_isInFlight, Bool.not_eq_false'] at landed
  rw [flown_of_rest landed, settle_position] at above below
  have inside := Span.clamp_eq_self above below
  rw [← Flight.advance_bounds decay.friction flight now] at inside
  have still (time : Millis) :
      settle { decay with position := Single.round (flight.advance decay.friction now).position }
          (flight.advance decay.friction now).bounds time =
        { decay with
          position := Single.round (flight.advance decay.friction now).position
          destination := Single.round (flight.advance decay.friction now).position
          motion := .still } := by
    rw [settle, inside, if_pos rfl]
  have here := (flown_of_rest landed decay now).trans (still now)
  have landed' : Flight.isAtRest { flight.advance decay.friction now with lastTime := later } =
    true := landed
  have there := (flown_of_rest landed' decay later).trans (still later)
  rw [advance_of_flight motion, Flight.advance_of_rest begun early late landed, here]
  exact ⟨rfl, there⟩

/-- Frames in between do not matter to a flight that goes on. -/
theorem advanceAll_of_inFlight {times : List Millis} {last : Millis}
    (motion : decay.motion = .flight flight)
    (ordered : (flight.lastTime :: (times ++ [last])).Pairwise (· ≤ ·))
    (flies : (decay.advanceAll times).isInFlight = true) :
    decay.advanceAll (times ++ [last]) = (decay.advance last).2 := by
  induction times generalizing decay flight with
  | nil => rfl
  | cons now others ih =>
      obtain ⟨since, onward⟩ := List.pairwise_cons.mp ordered
      have aloft : (decay.advance now).2.isInFlight = true := isInFlight_of_advanceAll flies
      have early := since now (.head _)
      have late : now ≤ last := (List.pairwise_cons.mp onward).1 last (by simp)
      obtain ⟨further, same⟩ := advance_advance motion early late aloft
      exact (ih further onward flies).trans same

theorem advanceAll_append (decay : Decay) (first second : List Millis) :
    decay.advanceAll (first ++ second) = (decay.advanceAll first).advanceAll second :=
  List.foldl_append

/-- A fling that flies has begun at its own time, between its bounds and not at rest. -/
theorem flingBetween_isInFlight {launch : Launch} {start : Millis}
    (flies : (decay.flingBetween launch bounds start).isInFlight = true) :
    ∃ flight, (decay.flingBetween launch bounds start).motion = .flight flight ∧
      flight.lastTime = start ∧ flight.isAtRest = false ∧ flight.bounds = bounds := by
  unfold flingBetween at flies ⊢
  dsimp only at flies ⊢
  split at flies
  · rw [settle_isInFlight] at flies
    cases flies
  · next fast =>
      rw [if_neg fast]
      exact ⟨_, rfl, rfl, decide_eq_false fast, rfl⟩

/-- However the time is divided among frames, the same comes of a fling: of one still in flight in
the last frame but one, of one that has come to rest within its bounds in an earlier frame, and of
one that is at rest at once. -/
theorem frames_do_not_matter (decay : Decay) {launch : Launch}
    (bounded : launch.lowest ≤ launch.highest) (start : Millis) :
    ∃ flung, decay.fling launch start = .ok flung ∧ ∀ times last,
      (start :: (times ++ [last])).Pairwise (· ≤ ·) →
      ((flung.advanceAll times).isInFlight = true →
        flung.advanceAll (times ++ [last]) = (flung.advance last).2) ∧
      (∀ before now after, times = before ++ now :: after →
        (flung.advanceAll before).isInFlight = true →
        (flung.advanceAll (before ++ [now])).isInFlight = false →
        launch.lowest ≤ (flung.advanceAll (before ++ [now])).position →
        (flung.advanceAll (before ++ [now])).position ≤ launch.highest →
        flung.advanceAll (times ++ [last]) = (flung.advance last).2) ∧
      (flung.isIdle = true → flung.advanceAll (times ++ [last]) = (flung.advance last).2) := by
  refine ⟨_, decay.fling_of_ordered bounded start, fun times last ordered => ⟨?_, ?_, ?_⟩⟩
  · intro flies
    obtain ⟨flight, motion, rfl, -, -⟩ :=
      flingBetween_isInFlight (isInFlight_of_advanceAll flies)
    exact advanceAll_of_inFlight motion ordered flies
  · rintro before now after rfl flies landed above below
    obtain ⟨flight, motion, rfl, begun, between⟩ :=
      flingBetween_isInFlight (isInFlight_of_advanceAll flies)
    have parts : before ++ now :: after ++ [last] = (before ++ [now]) ++ (after ++ [last]) := by
      simp
    rw [parts] at ordered ⊢
    obtain ⟨since, onward⟩ := List.pairwise_cons.mp ordered
    have until_now : (flight.lastTime :: (before ++ [now])).Pairwise (· ≤ ·) :=
      ordered.sublist (.cons_cons _ (List.sublist_append_left _ _))
    have early : flight.lastTime ≤ now := since now (by simp)
    have late : now ≤ last := (List.pairwise_append.mp onward).2.2 now (by simp) last (by simp)
    rw [advanceAll_append]
    rw [advanceAll_of_inFlight motion until_now flies] at landed above below ⊢
    obtain ⟨idle, same⟩ := advance_of_rest motion begun early late landed
      (by rw [between]; exact above) (by rw [between]; exact below)
    rw [(frames_of_isIdle idle _).2, same]
  · intro idle
    rw [(frames_of_isIdle idle _).2, advance_of_isIdle idle]

/-- A fling over two pixels, seen in flight in two frames, or before and after it came to rest. -/
theorem frames_do_not_matter_to_short_fling :
    ∃ flung, (-100 : Px) ≤ 100 ∧
      (initial.withFriction 0.5).fling ⟨0, 0, 1000, -100, 100, 0⟩ 7 = .ok flung ∧
      (flung.advanceAll [9, 11]).isInFlight = true ∧
      flung.advanceAll [9, 11, 12] = (flung.advance 12).2 ∧
      (flung.advanceAll [10, 15]).isInFlight = false ∧
      (flung.advanceAll [10, 15]).position = 2 ∧
      flung.advanceAll [10, 15, 16, 40] = (flung.advance 40).2 := by
  obtain ⟨flung, done, same⟩ := @frames_do_not_matter (initial.withFriction 0.5)
    ⟨0, 0, 1000, -100, 100, 0⟩ (by decide) 7
  have came : ((initial.withFriction 0.5).fling ⟨0, 0, 1000, -100, 100, 0⟩ 7).map
      (fun flung => ((flung.advanceAll [9, 11]).isInFlight, (flung.advanceAll [10]).isInFlight,
        (flung.advanceAll [10, 15]).isInFlight, (flung.advanceAll [10, 15]).position)) =
      .ok (true, true, false, 2) := by
    decide +kernel
  rw [done] at came
  simp only [Except.map, Except.ok.injEq, Prod.mk.injEq] at came
  obtain ⟨flies, before, landed, there⟩ := came
  have above : (-100 : Px) ≤ (flung.advanceAll [10, 15]).position := by rw [there]; decide
  have below : (flung.advanceAll [10, 15]).position ≤ (100 : Px) := by rw [there]; decide
  exact ⟨flung, by decide, done, flies, (same [9, 11] 12 (by decide)).1 flies, landed, there,
    (same [10, 15, 16] 40 (by decide)).2.1 [10] 15 [16] rfl before landed above below⟩

end Decay

end KineticScroll
