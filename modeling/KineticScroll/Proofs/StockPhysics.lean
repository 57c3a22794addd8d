import KineticScroll.Motion.Animation
import KineticScroll.Proofs.LawfulPhysics
import KineticScroll.Proofs.Outcome
import Mathlib.Control.Monad.Basic

/-!
# The promises of the stock physics

The stock physics passes from rest into flight, from flight into a glide back to
its bounds and from there to rest again, and in each of them it may be halted or
given another motion.  The place where it is going to end is kept apart from the
motion itself.  The two nevertheless agree: a glide leads to that place, and
physics at rest stands there.  What a pane is told of a motion follows from it.
-/

namespace KineticScroll

theorem Span.exists_between {lowest highest : Px} (ordered : lowest ≤ highest) :
    ∃ span, Span.between lowest highest = .ok span :=
  ⟨⟨lowest, highest, ordered⟩, dif_pos ordered⟩

namespace Decay

/-! ## Where motions end -/

/-- The motion ends at the destination, where physics at rest is already. -/
structure LeadsHome (decay : Decay) : Prop where
  still : decay.motion = .still → decay.position = decay.destination
  glide : ∀ glide, decay.motion = .glide glide → glide.target = decay.destination

theorem settle_leadsHome (decay : Decay) (bounds : Span) (now : Millis) :
    LeadsHome (decay.settle bounds now) := by
  unfold settle
  by_cases inside : bounds.clamp decay.position = decay.position
  · simp only [inside, if_true]
    exact ⟨fun _ => rfl, nofun⟩
  · simp only [inside, if_false]
    refine ⟨nofun, ?_⟩
    rintro _ ⟨⟩
    rfl

theorem flingBetween_leadsHome (decay : Decay) (launch : Launch) (bounds : Span) (now : Millis) :
    LeadsHome (decay.flingBetween launch bounds now) := by
  unfold flingBetween
  dsimp only
  split
  · exact settle_leadsHome _ bounds now
  · exact ⟨nofun, nofun⟩

theorem glideBy_leadsHome (decay : Decay) (start distance : Px) (now : Millis) :
    LeadsHome (decay.glideBy start distance now) := by
  unfold glideBy
  dsimp only
  split
  · next stays =>
      subst stays
      refine ⟨fun _ => ?_, nofun⟩
      show start = Px.saturate (start.toInt + (0 : Px).toInt)
      have zero : (0 : Px).toInt = 0 := rfl
      rw [zero, Int.add_zero, ← Int32.toInt_inj,
        Px.toInt_saturate (Px.least_le start) (Px.le_greatest start)]
  · refine ⟨nofun, ?_⟩
    rintro _ ⟨⟩
    rfl

theorem halt_leadsHome (decay : Decay) : LeadsHome decay.halt :=
  ⟨fun _ => rfl, nofun⟩

theorem advance_leadsHome {decay : Decay} (leads : LeadsHome decay) (now : Millis) :
    LeadsHome (decay.advance now).2 := by
  unfold advance
  cases motion : decay.motion with
  | still => exact leads
  | glide glide =>
      have target := leads.glide glide motion
      dsimp only
      split
      · next reached => exact ⟨fun _ => (Glide.positionAt_of_isOver reached).trans target, nofun⟩
      · refine ⟨nofun, ?_⟩
        rintro _ ⟨⟩
        exact target
  | flight flight =>
      dsimp only
      split
      · exact settle_leadsHome _ _ now
      · exact ⟨nofun, nofun⟩

theorem LeadsHome.position_eq {decay : Decay} (leads : LeadsHome decay)
    (idle : decay.isIdle = true) : decay.position = decay.destination :=
  leads.still ((isIdle_iff decay).mp idle)

/-! ## Starting and stopping -/

theorem settle_position (decay : Decay) (bounds : Span) (now : Millis) :
    (decay.settle bounds now).position = decay.position :=
  rfl

/-- A fling between bounds that hold something starts where it is launched. -/
theorem exists_fling (decay : Decay) {launch : Launch} (ordered : launch.lowest ≤ launch.highest)
    (now : Millis) : ∃ flung, decay.fling launch now = .ok flung ∧ flung.position = launch.startY ∧
      LeadsHome flung := by
  obtain ⟨bounds, between⟩ := Span.exists_between ordered
  refine ⟨decay.flingBetween launch bounds now, ?_, ?_, flingBetween_leadsHome ..⟩
  · rw [fling, between]
    rfl
  · unfold flingBetween
    dsimp only
    split
    · exact settle_position ..
    · rfl

/-! ## Frames -/

/-- The physics after it has been advanced to these times, one after the other. -/
def advanceAll (decay : Decay) (times : List Millis) : Decay :=
  times.foldl (fun decay now => (decay.advance now).2) decay

/-- What these advances deliver.  One that tells of no motion delivers nothing. -/
def frames (decay : Decay) : List Millis → List Advance
  | [] => []
  | now :: later =>
      let (moved, advanced) := decay.advance now
      if moved then ⟨advanced.position, advanced.isIdle⟩ :: advanced.frames later
      else advanced.frames later

theorem frames_cons_of_moving {decay : Decay} (moving : decay.isIdle = false) (now : Millis)
    (later : List Millis) :
    decay.frames (now :: later) =
      ⟨(decay.advance now).2.position, (decay.advance now).2.isIdle⟩ ::
        (decay.advance now).2.frames later := by
  have told : (decay.advance now).1 = true := by rw [advance_fst, moving]; rfl
  rw [frames]
  exact if_pos told

theorem frames_of_isIdle {decay : Decay} (idle : decay.isIdle = true) (times : List Millis) :
    decay.frames times = [] ∧ decay.advanceAll times = decay := by
  induction times with
  | nil => exact ⟨rfl, rfl⟩
  | cons now later ih =>
      rw [frames, advanceAll, List.foldl_cons, advance_of_isIdle idle]
      exact ih

/--
As long as the motion goes on, no frame tells of its end.  Where it has ended,
the last frame of it tells so, at the destination, and none before that does.
-/
theorem frames_of_moving {decay : Decay} (leads : LeadsHome decay)
    (moving : decay.isIdle = false) (times : List Millis) :
    if (decay.advanceAll times).isIdle then
      ∃ before, decay.frames times =
          before ++ [⟨(decay.advanceAll times).destination, true⟩] ∧
        ∀ frame ∈ before, frame.finished = false
    else ∀ frame ∈ decay.frames times, frame.finished = false := by
  induction times generalizing decay with
  | nil =>
      rw [advanceAll, List.foldl_nil, moving]
      exact fun _ none => nomatch none
  | cons now later ih =>
      have ahead := advance_leadsHome leads now
      rw [frames_cons_of_moving moving, advanceAll, List.foldl_cons, ← advanceAll]
      generalize (decay.advance now).2 = next at ahead ⊢
      cases ended : next.isIdle with
      | true =>
          obtain ⟨none, unchanged⟩ := frames_of_isIdle ended later
          rw [unchanged, none, ended, if_pos rfl, ahead.position_eq ended]
          exact ⟨[], rfl, fun _ none => nomatch none⟩
      | false =>
          have onward := ih ahead ended
          split at onward
          · next reached =>
              obtain ⟨before, same, unfinished⟩ := onward
              rw [if_pos reached]
              refine ⟨⟨next.position, false⟩ :: before, by rw [same]; rfl, ?_⟩
              exact List.forall_mem_cons.mpr ⟨rfl, unfinished⟩
          · next goesOn =>
              rw [if_neg goesOn]
              exact List.forall_mem_cons.mpr ⟨rfl, onward⟩

/-- A play delivers what so many frames do: those after the end of the motion change nothing. -/
theorem play_eq (decay : Decay) (now interval : Millis) (count : Nat) :
    ∃ stopped, decay.play now interval count =
      ((decay.frames (Millis.ticks now interval count)).map Advance.position, stopped,
        decay.advanceAll (Millis.ticks now interval count)) := by
  induction count generalizing decay now with
  | zero => exact ⟨now, rfl⟩
  | succ count ih =>
      rw [play]
      cases moving : decay.isIdle with
      | true =>
          obtain ⟨none, unchanged⟩ := frames_of_isIdle moving (Millis.ticks now interval (count + 1))
          rw [if_pos rfl, none, unchanged]
          exact ⟨now, rfl⟩
      | false =>
          obtain ⟨stopped, rest⟩ := ih (decay.advance (Millis.later now interval)).2
            (Millis.later now interval)
          have told : (decay.advance (Millis.later now interval)).1 = true := by
            rw [advance_fst, moving]
            rfl
          rw [if_neg Bool.false_ne_true, Millis.ticks, frames_cons_of_moving moving]
          dsimp only
          rw [if_pos told, rest]
          exact ⟨stopped, rfl⟩

/-- A motion that finishes while it is played is seen last where it was going. -/
theorem play_getLast? {decay final : Decay} {positions : List Px} {now interval stopped : Millis}
    {count : Nat} (leads : LeadsHome decay) (moving : decay.isIdle = false)
    (played : decay.play now interval count = (positions, stopped, final))
    (ended : final.isIdle = true) : positions.getLast? = some final.destination := by
  obtain ⟨_, same⟩ := decay.play_eq now interval count
  rw [played] at same
  cases same
  have delivered := frames_of_moving leads moving (Millis.ticks now interval count)
  rw [if_pos ended] at delivered
  obtain ⟨before, same, _⟩ := delivered
  rw [same, List.map_append, List.map_singleton, List.getLast?_concat]

/-! ## Every use -/

/-- What can be done with the stock physics. -/
inductive Use where
  | fling (launch : Launch) (now : Millis)
  | glide (start distance : Px) (now : Millis)
  | advance (now : Millis)
  | halt

/-- A fling has to be given bounds that hold something. -/
def Use.isOrdered : Use → Bool
  | .fling launch _ => launch.lowest ≤ launch.highest
  | _ => true

def after (decay : Decay) : Use → Except Fault Decay
  | .fling launch now => decay.fling launch now
  | .glide start distance now => .ok (decay.glideBy start distance now)
  | .advance now => .ok (decay.advance now).2
  | .halt => .ok decay.halt

def afterAll (decay : Decay) (uses : List Use) : Except Fault Decay :=
  uses.foldlM after decay

theorem exists_after {decay : Decay} (leads : LeadsHome decay) {use : Use}
    (ordered : use.isOrdered = true) :
    ∃ next, decay.after use = .ok next ∧ LeadsHome next := by
  cases use with
  | fling launch now =>
      obtain ⟨flung, done, _, home⟩ := decay.exists_fling (of_decide_eq_true ordered) now
      exact ⟨flung, done, home⟩
  | glide start distance now => exact ⟨_, rfl, decay.glideBy_leadsHome start distance now⟩
  | advance now => exact ⟨_, rfl, advance_leadsHome leads now⟩
  | halt => exact ⟨_, rfl, decay.halt_leadsHome⟩

theorem exists_afterAll {decay : Decay} (leads : LeadsHome decay) {uses : List Use}
    (ordered : ∀ use ∈ uses, use.isOrdered = true) :
    ∃ final, decay.afterAll uses = .ok final ∧ LeadsHome final := by
  obtain ⟨final, done, home, _⟩ := Outcome.exists_foldlM
    (fun decay uses => LeadsHome decay ∧ ∀ use ∈ uses, Use.isOrdered use = true)
    (fun ⟨leads, ordered⟩ => by
      obtain ⟨first, others⟩ := List.forall_mem_cons.mp ordered
      obtain ⟨next, done, home⟩ := exists_after leads first
      exact ⟨next, done, home, others⟩)
    ⟨leads, ordered⟩
  exact ⟨final, done, home⟩

/-- What a pane relies on. -/
structure KeepsPromises (decay : Decay) : Prop where
  /-- Physics at rest is where it was going to end. -/
  rests : decay.isIdle = true → decay.position = decay.destination
  /-- An advance tells of no motion just when there was none before, and then changes nothing. -/
  tells : ∀ now, (decay.advance now).1 = false ↔ decay.isIdle = true
  stays : decay.isIdle = true → ∀ now, (decay.advance now).2 = decay
  halts : decay.halt.isIdle = true ∧ decay.halt.position = decay.position
  flings : ∀ launch now, launch.lowest ≤ launch.highest →
    ∃ flung, decay.fling launch now = .ok flung ∧ flung.position = launch.startY
  glides : ∀ start distance now, (decay.glideBy start distance now).position = start
  /-- Of all the frames of a motion, only the last is finished, and it shows the destination. -/
  finishes : decay.isIdle = false → ∀ times, (decay.advanceAll times).isIdle = true →
    ∃ before, decay.frames times = before ++ [⟨(decay.advanceAll times).destination, true⟩] ∧
      ∀ frame ∈ before, frame.finished = false

theorem LeadsHome.keepsPromises {decay : Decay} (leads : LeadsHome decay) :
    KeepsPromises decay := by
  refine ⟨leads.position_eq, ?_, ?_, ⟨decay.halt_isIdle, decay.halt_position⟩, ?_, ?_, ?_⟩
  · intro now
    rw [advance_fst, Bool.not_eq_false']
  · intro idle now
    rw [advance_of_isIdle idle]
  · intro launch now ordered
    obtain ⟨flung, done, there, _⟩ := decay.exists_fling ordered now
    exact ⟨flung, done, there⟩
  · intro start distance now
    rfl
  · intro moving times ended
    have told := frames_of_moving leads moving times
    rwa [if_pos ended] at told

/--
Whatever the friction, and whatever is done with the physics in whatever order
and at whatever times, it faults nowhere and keeps its promises.
-/
theorem keepsPromises_afterAll (friction : Single) (keepsBounds : Bool) {uses : List Use}
    (ordered : ∀ use ∈ uses, use.isOrdered = true) :
    ∃ decay, afterAll { initial with friction := friction, keepsBounds := keepsBounds } uses =
        .ok decay ∧ KeepsPromises decay := by
  obtain ⟨decay, done, leads⟩ := exists_afterAll
    (⟨fun _ => rfl, nofun⟩ : LeadsHome
      { initial with friction := friction, keepsBounds := keepsBounds }) ordered
  exact ⟨decay, done, leads.keepsPromises⟩

/-- A fling that is halted, and one past its bounds; the clock goes back in between. -/
def flungPastBounds : List Use :=
  [.fling ⟨0, 40, 500, 0, 100, 20⟩ 50, .advance 60, .halt, .fling ⟨0, 80, 3000, 0, 100, 20⟩ 10,
    .advance 26]

/-- The second fling springs back to the end of its bounds, and one frame tells that it is there. -/
theorem keepsPromises_flungPastBounds :
    ∃ decay, (∀ use ∈ flungPastBounds, use.isOrdered = true) ∧
      afterAll { initial with friction := 0.95, keepsBounds := true } flungPastBounds = .ok decay ∧
      decay.isIdle = false ∧ decay.position = 114 ∧ decay.destination = 100 ∧
      (decay.frames [126, 20, 226, 326, 400]).map (fun frame => (frame.position, frame.finished)) =
        [(120, false), (120, false), (105, false), (100, true)] ∧
      KeepsPromises decay := by
  have ordered : ∀ use ∈ flungPastBounds, use.isOrdered = true := by decide
  obtain ⟨decay, done, keeps⟩ := keepsPromises_afterAll 0.95 true ordered
  have came : (afterAll { initial with friction := 0.95, keepsBounds := true }
      flungPastBounds).map (fun decay => (decay.isIdle, decay.position, decay.destination,
        (decay.frames [126, 20, 226, 326, 400]).map fun frame =>
          (frame.position, frame.finished))) =
      .ok (false, 114, 100, [(120, false), (120, false), (105, false), (100, true)]) := by
    decide +kernel
  rw [done] at came
  simp only [Except.map, Except.ok.injEq, Prod.mk.injEq] at came
  obtain ⟨moving, there, destination, delivered⟩ := came
  exact ⟨decay, ordered, done, moving, there, destination, delivered, keeps⟩

end Decay

end KineticScroll
