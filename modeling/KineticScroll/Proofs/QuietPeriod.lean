import KineticScroll.Proofs.Polls
import KineticScroll.Proofs.Whereabouts

/-!
# The quiet period

A settle sequence ends no sooner than one poll delay after the last movement,
and after it was opened; one that a fling has opened takes two delays.  A poll
that finds movement puts the end off by a delay from then on, so what has to be
followed through a course is the earliest end that the waiting poll allows.
-/

namespace KineticScroll

namespace Pane

variable {σ : Type}

/-- What a poll of that number decides, if its sequence is open. -/
def verdict? (pane : Pane σ) (number : UInt64) : Option Verdict :=
  (pane.settling.poll number pane.state.active pane.settings.pagingEnabled).1

theorem verdict?_settled {pane : Pane σ} {number : UInt64}
    (decided : pane.verdict? number = some .settled) :
    pane.openNumber? = some number ∧ pane.state.active = false := by
  unfold verdict? Settling.poll at decided
  unfold openNumber?
  cases current : pane.settling.current with
  | none => simp [current] at decided
  | some sequence =>
      by_cases same : sequence.number = number
      · cases active : pane.state.active with
        | false => exact ⟨congrArg some same, rfl⟩
        | true => simp [current, same, active] at decided
      · simp [current, same] at decided

/-! ## The earliest end -/

/--
A poll set for that time does not end its sequence before the limit: neither at
once, if nothing has moved, nor by the poll that it sets after a movement.
-/
structure HoldsOff (limit delay clock : Millis) (active : Bool) (due : Millis) : Prop where
  quiet : active = false → limit ≤ due
  moving : ∀ time, due ≤ time → clock ≤ time → limit ≤ Millis.later time delay

namespace HoldsOff

variable {limit delay clock later due : Millis} {active : Bool}

theorem wait (holds : HoldsOff limit delay clock active due) (passed : clock ≤ later) :
    HoldsOff limit delay later active due :=
  ⟨holds.quiet, fun time set ahead =>
    holds.moving time set (UInt64.le_trans passed ahead)⟩

/-- A movement never brings the end nearer. -/
theorem move (holds : HoldsOff limit delay clock active due) :
    HoldsOff limit delay clock true due :=
  ⟨by simp, holds.moving⟩

/-- The poll that has come due is answered now. -/
theorem ring (holds : HoldsOff limit delay clock active due) (come : due ≤ clock) :
    HoldsOff limit delay clock active clock :=
  ⟨fun still => UInt64.le_trans (holds.quiet still) come, fun time set ahead =>
    holds.moving time (UInt64.le_trans come set) ahead⟩

/-- The poll that is set again after an answer holds off the end as well. -/
theorem again (holds : HoldsOff limit delay clock active clock) :
    HoldsOff limit delay clock false (Millis.later clock delay) :=
  ⟨fun _ => holds.moving clock (UInt64.le_refl _) (UInt64.le_refl _),
    fun time _ ahead => holds.moving time ahead ahead⟩

/-- The first poll of a sequence opened now holds off the end for a delay. -/
theorem first {start : Millis} (begun : start ≤ clock) :
    HoldsOff (Millis.later start delay) delay clock active (Millis.later clock delay) :=
  ⟨fun _ => Millis.later_le_later begun delay, fun _ _ ahead =>
    Millis.later_le_later (UInt64.le_trans begun ahead) delay⟩

/-- It does so for two delays when the sequence starts out moving. -/
theorem first_moving :
    HoldsOff (Millis.later (Millis.later clock delay) delay) delay clock true
      (Millis.later clock delay) :=
  ⟨by simp, fun _ set _ => Millis.later_le_later set delay⟩

/-- A movement now holds off the end for a delay. -/
theorem of_movement : HoldsOff (Millis.later clock delay) delay clock true due :=
  ⟨by simp, fun _ _ ahead => Millis.later_le_later ahead delay⟩

end HoldsOff

/-- The polls of the open sequence, in the alarms or still to be answered, hold off its end. -/
structure Bides (limit delay clock : Millis) (queue : List Wakeup) (pane : Pane σ) : Prop where
  rung : ∀ number, pane.openNumber? = some number → .poll number ∈ queue →
    HoldsOff limit delay clock pane.state.active clock
  set : ∀ number due, pane.openNumber? = some number →
    ⟨due, .poll number⟩ ∈ pane.alarms.pending →
    HoldsOff limit delay clock pane.state.active due

namespace Bides

variable {limit delay clock later : Millis} {queue after : List Wakeup} {pane next : Pane σ}

theorem of_closed (closed : pane.openNumber? = none) : Bides limit delay clock queue pane :=
  ⟨by simp [closed], by simp [closed]⟩

theorem wait (bides : Bides limit delay clock [] pane) (passed : clock ≤ later) :
    Bides limit delay later [] pane :=
  ⟨by simp, fun number due isOpen set => (bides.set number due isOpen set).wait passed⟩

/-- What sets no poll and forgets no movement leaves the end held off. -/
theorem keep (bides : Bides limit delay clock queue pane)
    (same : next.openNumber? = pane.openNumber?)
    (active : next.state.active = pane.state.active ∨ next.state.active = true)
    (rung : ∀ number, .poll number ∈ after → .poll number ∈ queue)
    (set : ∀ number due, ⟨due, .poll number⟩ ∈ next.alarms.pending →
      ⟨due, .poll number⟩ ∈ pane.alarms.pending) :
    Bides limit delay clock after next := by
  constructor
  · intro number isOpen waits
    have holds := bides.rung number (same ▸ isOpen) (rung number waits)
    rcases active with still | moved
    · rwa [still]
    · rw [moved]
      exact holds.move
  · intro number due isOpen waits
    have holds := bides.set number due (same ▸ isOpen) (set number due waits)
    rcases active with still | moved
    · rwa [still]
    · rw [moved]
      exact holds.move

/-- A movement now is a limit of its own. -/
theorem of_movement (moved : pane.state.active = true) :
    Bides (Millis.later clock delay) delay clock queue pane := by
  constructor
  · intro number isOpen waits
    rw [moved]
    exact .of_movement
  · intro number due isOpen waits
    rw [moved]
    exact .of_movement

end Bides

/-- The only poll of the open sequence is the one that has been set just now. -/
theorem bides_of_set {limit delay now : Millis} {rest : List Wakeup} {number : UInt64}
    {alarms : Alarms} {pane : Pane σ} (isOpen : pane.openNumber? = some number)
    (set : pane.alarms = alarms.set (.poll number) now delay)
    (lone : .poll number ∉ rest ++ alarms.pending.map Alarm.wakeup)
    (holds : HoldsOff limit delay now pane.state.active (Millis.later now delay)) :
    Bides limit delay now rest pane := by
  rw [List.mem_append, not_or] at lone
  constructor
  · intro other current waits
    rw [isOpen, Option.some.injEq] at current
    subst current
    exact absurd waits lone.1
  · intro other due current waits
    rw [isOpen, Option.some.injEq] at current
    subst current
    rw [set, Alarms.pending_set, List.mem_append] at waits
    rcases waits with old | new
    · exact absurd (List.mem_map.mpr ⟨_, old, rfl⟩) lone.2
    · simp only [List.mem_singleton, Alarm.mk.injEq, and_true] at new
      rw [new]
      exact holds

/-! ## Sightings -/

/-- Whatever had been seen at one pane, something no earlier has been seen at the other. -/
def Outlasts (moment later : Pane σ) : Prop :=
  ∀ sighting, moment.movements.last = some sighting →
    ∃ newer, later.movements.last = some newer ∧ sighting.time ≤ newer.time

theorem Outlasts.of_same {moment later : Pane σ} (same : later.movements = moment.movements) :
    Outlasts moment later :=
  fun sighting seen => ⟨sighting, same ▸ seen, UInt64.le_refl _⟩

theorem Outlasts.of_movement {moment later : Pane σ} {offset : Offset} {now : Millis}
    (sighted : ∀ sighting, moment.movements.last = some sighting → sighting.time ≤ now)
    (last : later.movements.last = some ⟨offset, now⟩) : Outlasts moment later :=
  fun sighting seen => ⟨_, last, sighted sighting seen⟩

theorem Outlasts.trans {first second third : Pane σ} (begun : Outlasts first second)
    (ended : Outlasts second third) : Outlasts first third := by
  intro sighting seen
  obtain ⟨newer, seenNewer, before⟩ := begun sighting seen
  obtain ⟨newest, seenNewest, after⟩ := ended newer seenNewer
  exact ⟨newest, seenNewest, UInt64.le_trans before after⟩

/-! ## Openings -/

/-- The times that a host has given, in their order. -/
def times (turns : List (Turn σ)) : List Millis :=
  turns.filterMap fun turn => turn.operation.time?

/-- A turn has opened the sequence of that number, which is open ever since. -/
def OpenSince (turns : List (Turn σ)) (number : UInt64) (turn : Turn σ) : Prop :=
  ∃ early late, turns = early ++ turn :: late ∧ turn.before.isSettling = false ∧
    turn.after.openNumber? = some number ∧ ∀ other ∈ late, other.after.openNumber? = some number

/-- The earliest end of a sequence that the operation opens: a fling adds a delay. -/
def Operation.earliestEnd (operation : Operation) (start delay : Millis) : Millis :=
  if operation.isFling then Millis.later (Millis.later start delay) delay
  else Millis.later start delay

theorem Operation.later_le_earliestEnd (operation : Operation) (start delay : Millis) :
    Millis.later start delay ≤ operation.earliestEnd start delay := by
  unfold earliestEnd
  split
  · exact Millis.le_later _ delay
  · exact UInt64.le_refl _

/-- The first poll of a sequence keeps to the earliest end. -/
theorem Operation.holdsOff_earliestEnd (operation : Operation) (clock delay : Millis) :
    HoldsOff (operation.earliestEnd clock delay) delay clock operation.isFling
      (Millis.later clock delay) := by
  unfold earliestEnd
  cases operation.isFling with
  | true => exact .first_moving
  | false => exact .first (UInt64.le_refl clock)

theorem OpenSince.extend {turns : List (Turn σ)} {number : UInt64} {turn last : Turn σ}
    (opened : OpenSince turns number turn) (still : last.after.openNumber? = some number) :
    OpenSince (turns ++ [last]) number turn := by
  obtain ⟨early, late, rfl, closed, isOpen, since⟩ := opened
  refine ⟨early, late ++ [last], by simp, closed, isOpen, ?_⟩
  intro other taken
  rcases List.mem_append.mp taken with before | latest
  · exact since other before
  · rw [List.mem_singleton.mp latest]
    exact still

theorem OpenSince.last {turns : List (Turn σ)} {number : UInt64} {turn : Turn σ}
    (closed : turn.before.isSettling = false) (isOpen : turn.after.openNumber? = some number) :
    OpenSince (turns ++ [turn]) number turn :=
  ⟨turns, [], rfl, closed, isOpen, by simp⟩

variable [ScrollPhysics σ]

/-! ## Frames -/

omit [ScrollPhysics σ] in
/-- A poll that is answered is the only one of the open sequence. -/
theorem Attended.lone {rest : List Wakeup} {number : UInt64} {pane : Pane σ}
    (attended : Attended (.poll number :: (rest ++ pane.waiting)) pane)
    (isOpen : pane.openNumber? = some number) : .poll number ∉ rest ++ pane.waiting := by
  have once := attended.polled number isOpen
  rw [List.count_cons_self] at once
  exact List.count_eq_zero.mp (by omega)

omit [ScrollPhysics σ] in
/-- The poll that is set again after an answer is the only one of the open sequence, too. -/
theorem Bides.again {limit delay now : Millis} {rest queue : List Wakeup} {number : UInt64}
    {pane polled : Pane σ} (bides : Bides limit delay now (.poll number :: queue) pane)
    (isOpen : pane.openNumber? = some number) (same : polled.openNumber? = pane.openNumber?)
    (quiet : polled.state.active = false) (delayed : polled.settings.pollDelay = delay)
    (lone : .poll number ∉ rest ++ polled.waiting) :
    Bides limit delay now rest (polled.schedulePoll number now) := by
  have holds := bides.rung number isOpen List.mem_cons_self
  have set : (polled.schedulePoll number now).alarms =
      polled.alarms.set (.poll number) now delay := by rw [← delayed]; rfl
  refine bides_of_set (same.trans isOpen) set lone ?_
  show HoldsOff limit delay now polled.state.active _
  rw [quiet]
  exact holds.again

omit [ScrollPhysics σ] in
theorem jumpTo_active {pane next : Pane σ} {y : Px} {now : Millis}
    (jumped : pane.jumpTo y now = .ok next) :
    next.state.active = pane.state.active ∨ next.state.active = true := by
  cases jumpTo_arrives jumped with
  | repeats => exact .inl rfl
  | moves _ _ active _ => exact .inr active

/-- No answer in a frame lets the open sequence end before the limit. -/
theorem Answer.bides {limit delay now : Millis} {pane next : Pane σ} {wakeup : Wakeup}
    {rest : List Wakeup} (answer : Answer now pane wakeup next)
    (delayed : pane.settings.pollDelay = delay)
    (attended : Attended (wakeup :: (rest ++ pane.waiting)) pane)
    (bides : Bides limit delay now (wakeup :: rest) pane) : Bides limit delay now rest next := by
  have later := fun number (waits : .poll number ∈ rest) => List.mem_cons_of_mem wakeup waits
  cases answer with
  | staleStep => exact bides.keep rfl (.inl rfl) later fun _ _ set => set
  | noPhysics => exact bides.keep rfl (.inl rfl) later fun _ _ set => set
  | spent => exact bides.keep rfl (.inl rfl) later fun _ _ set => set
  | @shown _ _ left _ carried held advanced lands jumped =>
      have shows := jumpTo_shows jumped
      refine bides.keep (openNumber?_of_settling_eq shows.settling) ?_ later ?_
      · have moved := jumpTo_active jumped
        split <;> exact moved
      · intro number due set
        rw [shows.alarms] at set
        split at set
        · exact set
        · exact Alarms.mem_of_mem_set (by simp) set
  | stalePoll => exact bides.keep rfl (.inl rfl) later fun _ _ set => set
  | @moving sequence current active =>
      have isOpen : pane.openNumber? = some sequence.number := by rw [openNumber?, current]; rfl
      exact bides.again isOpen (by rw [isOpen]; rfl) rfl delayed (attended.lone isOpen)
  | @snap sequence steered current quiet paging unsnapped glided =>
      have steers := glideToPage_steers glided
      have defers := glideToPage_defers glided
      have isOpen : pane.openNumber? = some sequence.number := by rw [openNumber?, current]; rfl
      have same : steered.openNumber? = pane.openNumber? := by
        rw [isOpen, openNumber?, defers.settling]
        rfl
      have lone : .poll sequence.number ∉ rest ++ steered.waiting := by
        have before := attended.lone isOpen
        rw [← List.count_eq_zero, List.count_append] at before ⊢
        rw [steers.count_poll]
        exact before
      have settings := steers.carries.settings
      refine bides.again isOpen same ?_ ?_ lone
      · rw [defers.state]
        rfl
      · rw [settings]
        exact delayed
  | settled current quiet unpaged placed =>
      refine .of_closed ?_
      rw [openNumber?, (returnToExtent_ends placed).settling]
      rfl

/-- Answering an alarm moves the content now or not at all. -/
theorem Answer.sights {now : Millis} {pane next : Pane σ} {wakeup : Wakeup}
    (answer : Answer now pane wakeup next) :
    next.movements = pane.movements ∨
      (∃ offset, next.movements.last = some ⟨offset, now⟩) ∧
        (next.state.active = true ∨ next.openNumber? = none) := by
  cases answer with
  | staleStep => exact .inl rfl
  | noPhysics => exact .inl rfl
  | spent => exact .inl rfl
  | shown held advanced lands jumped =>
      cases jumpTo_arrives jumped with
      | repeats => split <;> exact .inl rfl
      | moves last _ active _ =>
          right
          split <;> exact ⟨⟨_, last⟩, .inl active⟩
  | stalePoll => exact .inl rfl
  | moving => exact .inl rfl
  | snap current quiet paging unsnapped glided =>
      exact .inl (glideToPage_defers glided).movements
  | @settled sequence returned current quiet unpaged placed =>
      have stays := announce_stays returned .momentumEnd .disable
      have closed :
          ((returned.emitMomentum .momentumEnd).callMeter .disable).openNumber? = none := by
        rw [openNumber?, (returnToExtent_ends placed).settling]
        rfl
      rw [stays.movements]
      rcases returnToExtent_eq_ok placed with rfl | ⟨y, moved, jumped, rfl⟩
      · exact .inl rfl
      · cases jumpTo_arrives jumped with
        | repeats => exact .inl rfl
        | moves last _ _ _ => exact .inr ⟨⟨_, last⟩, .inr closed⟩

omit [ScrollPhysics σ] in
/-- Alarms that ring in a frame have come due. -/
theorem Bides.begin {limit delay now : Millis} {pane : Pane σ}
    (bides : Bides limit delay now [] pane) :
    Bides limit delay now (pane.alarms.ring now).1
      { pane with alarms := (pane.alarms.ring now).2 } := by
  constructor
  · intro number isOpen rings
    rw [Alarms.ring_fst] at rings
    obtain ⟨⟨due, wakeup⟩, rung, rfl⟩ := List.mem_map.mp rings
    obtain ⟨set, come⟩ := List.mem_filter.mp rung
    have isDue : due ≤ now := by simpa [Alarms.isDue] using come
    exact (bides.set number due isOpen set).ring isDue
  · intro number due isOpen left
    have waits : ⟨due, .poll number⟩ ∈ (pane.alarms.ring now).2.pending := left
    rw [Alarms.ring_snd] at waits
    exact bides.set number due isOpen (List.mem_filter.mp waits).1

theorem Midway.bides {limit delay now : Millis} {pane reached : Pane σ} {rest : List Wakeup}
    (midway : Midway pane now reached rest) (delayed : pane.settings.pollDelay = delay)
    (attended : Attended pane.waiting pane) (bides : Bides limit delay now [] pane) :
    Bides limit delay now rest reached := by
  induction midway with
  | begin => exact bides.begin
  | next midway woken ih =>
      have same : _ = delay := (congrArg Settings.pollDelay midway.settings).trans delayed
      exact (wake_answer woken).bides same (midway.attended attended) ih

/-- The last movement is not yet to come, and the open sequence does not end until it has rested. -/
structure Watchful (delay clock : Millis) (queue : List Wakeup) (pane : Pane σ) : Prop where
  sighted : ∀ sighting, pane.movements.last = some sighting → sighting.time ≤ clock
  rested : ∀ sighting, pane.movements.last = some sighting →
    Bides (Millis.later sighting.time delay) delay clock queue pane

omit [ScrollPhysics σ] in
/-- A movement now makes the pane watchful anew. -/
theorem Watchful.of_movement {delay clock : Millis} {queue : List Wakeup} {pane : Pane σ}
    {offset : Offset} (last : pane.movements.last = some ⟨offset, clock⟩)
    (moved : pane.state.active = true ∨ pane.openNumber? = none) :
    Watchful delay clock queue pane := by
  constructor
  · intro sighting seen
    rw [last, Option.some.injEq] at seen
    rw [← seen]
    exact UInt64.le_refl _
  · intro sighting seen
    rw [last, Option.some.injEq] at seen
    rw [← seen]
    rcases moved with active | closed
    · exact .of_movement active
    · exact .of_closed closed

theorem Answer.watchful {delay now : Millis} {pane next : Pane σ} {wakeup : Wakeup}
    {rest : List Wakeup} (answer : Answer now pane wakeup next)
    (delayed : pane.settings.pollDelay = delay)
    (attended : Attended (wakeup :: (rest ++ pane.waiting)) pane)
    (watchful : Watchful delay now (wakeup :: rest) pane) : Watchful delay now rest next := by
  rcases answer.sights with same | ⟨⟨offset, last⟩, moved⟩
  · constructor
    · rw [same]
      exact watchful.sighted
    · intro sighting seen
      rw [same] at seen
      exact answer.bides delayed attended (watchful.rested sighting seen)
  · exact .of_movement last moved

theorem Midway.watchful {delay now : Millis} {pane reached : Pane σ} {rest : List Wakeup}
    (midway : Midway pane now reached rest) (delayed : pane.settings.pollDelay = delay)
    (attended : Attended pane.waiting pane) (watchful : Watchful delay now [] pane) :
    Watchful delay now rest reached := by
  induction midway with
  | begin =>
      exact ⟨watchful.sighted, fun sighting seen => (watchful.rested sighting seen).begin⟩
  | next midway woken ih =>
      have same : _ = delay := (congrArg Settings.pollDelay midway.settings).trans delayed
      exact (wake_answer woken).watchful same (midway.attended attended) ih

/-! ## Operations -/

omit [ScrollPhysics σ] in
theorem Opens.openNumber? {cause : SettleCause} {now : Millis} {pane next : Pane σ}
    (opens : Opens pane cause now next) :
    next.openNumber? = some (pane.settling.lastNumber + 1) := by
  rw [Pane.openNumber?, opens.settling]
  rfl

omit [ScrollPhysics σ] in
/-- The number of a new sequence is new to the polls, unless the numbers have wrapped round. -/
theorem Opens.lone {cause : SettleCause} {now : Millis} {pane next : Pane σ}
    (opens : Opens pane cause now next)
    (numbered : ∀ number, .poll number ∈ pane.waiting → number ≤ pane.settling.lastNumber)
    (up : pane.settling.lastNumber ≤ next.settling.lastNumber) :
    .poll (pane.settling.lastNumber + 1) ∉ pane.waiting := by
  intro waits
  have before := numbered _ waits
  rw [opens.settling] at up
  grind

omit [ScrollPhysics σ] in
theorem Opens.bides {limit delay now : Millis} {cause : SettleCause} {pane next : Pane σ}
    (opens : Opens pane cause now next) (delayed : pane.settings.pollDelay = delay)
    (numbered : ∀ number, .poll number ∈ pane.waiting → number ≤ pane.settling.lastNumber)
    (up : pane.settling.lastNumber ≤ next.settling.lastNumber)
    (holds : HoldsOff limit delay now cause.countsAsMoving (Millis.later now delay)) :
    Bides limit delay now [] next := by
  refine bides_of_set opens.openNumber? (delayed ▸ opens.alarms) (opens.lone numbered up) ?_
  rw [opens.state]
  exact holds

theorem Midway.keeps_or_closes {now : Millis} {pane reached : Pane σ} {rest : List Wakeup}
    (midway : Midway pane now reached rest) :
    reached.openNumber? = pane.openNumber? ∨ reached.openNumber? = none := by
  induction midway with
  | begin => exact .inl rfl
  | next _ woken ih =>
      rcases (wake_answer woken).keeps_or_closes with same | closed
      · rw [same]
        exact ih
      · exact .inr closed

theorem Steers.mem_of_mem_poll {now due : Millis} {number : UInt64} {pane next : Pane σ}
    (steers : Steers pane now next) (set : ⟨due, .poll number⟩ ∈ next.alarms.pending) :
    ⟨due, .poll number⟩ ∈ pane.alarms.pending := by
  cases steers with
  | move moves =>
      rw [moves.alarms] at set
      exact set
  | start moves starts =>
      cases starts
      rw [moves.alarms] at set
      exact Alarms.mem_of_mem_set (by simp) set

omit [ScrollPhysics σ] in
theorem Tracks.active {time? : Option Millis} {pane next : Pane σ} (tracks : Tracks time? pane next)
    (same : next.isSettling = pane.isSettling) :
    next.state.active = pane.state.active ∨ next.state.active = true := by
  cases tracks with
  | stays _ still => exact .inl still
  | moves _ _ moved => exact .inr moved
  | opens _ closed isOpen =>
      rw [same, closed] at isOpen
      cases isOpen

/--
What an operation does to the end of the open sequence.  It leaves the end held
off as far as it was, or it opens a sequence.
-/
inductive Attends (delay clock : Millis) (pane : Pane σ) (operation : Operation) (next : Pane σ) :
    Prop where
  | keeps : next.openNumber? = pane.openNumber? ∨ next.openNumber? = none →
      (∀ limit, Bides limit delay clock [] pane → Bides limit delay clock [] next) →
      Attends delay clock pane operation next
  | opens {number : UInt64} : operation.time? = some clock → pane.isSettling = false →
      next.openNumber? = some number →
      (∀ limit, HoldsOff limit delay clock operation.isFling (Millis.later clock delay) →
        Bides limit delay clock [] next) →
      Attends delay clock pane operation next

omit [ScrollPhysics σ] in
/-- What keeps the open sequence and sets no poll leaves its end held off. -/
theorem Attends.of_same {delay clock : Millis} {pane next : Pane σ} {operation : Operation}
    (tracks : Tracks operation.time? pane next) (settling : next.settling = pane.settling)
    (set : ∀ number due, ⟨due, .poll number⟩ ∈ next.alarms.pending →
      ⟨due, .poll number⟩ ∈ pane.alarms.pending) : Attends delay clock pane operation next := by
  have same := openNumber?_of_settling_eq settling
  have active := tracks.active (by rw [isSettling, settling, isSettling])
  exact .keeps (.inl same) fun limit bides => bides.keep same active (fun _ waits => waits) set

omit [ScrollPhysics σ] in
theorem Settles.attends {delay clock : Millis} {pane dropped next : Pane σ} {cause : SettleCause}
    {operation : Operation} (settles : Settles dropped cause clock next)
    (timed : operation.time? = some clock) (moving : cause.countsAsMoving = operation.isFling)
    (settling : dropped.settling = pane.settling)
    (delayed : dropped.settings.pollDelay = delay)
    (set : ∀ number due, ⟨due, .poll number⟩ ∈ dropped.alarms.pending →
      ⟨due, .poll number⟩ ∈ pane.alarms.pending)
    (numbered : ∀ number, .poll number ∈ pane.waiting → number ≤ pane.settling.lastNumber)
    (up : pane.settling.lastNumber ≤ next.settling.lastNumber)
    (tracks : Tracks operation.time? pane next) : Attends delay clock pane operation next := by
  cases settles with
  | joins => exact .of_same tracks settling set
  | opens closed opens =>
      rw [isSettling, settling] at closed
      have before number (waits : .poll number ∈ dropped.waiting) :
          number ≤ dropped.settling.lastNumber := by
        obtain ⟨⟨due, wakeup⟩, pending, rfl⟩ := List.mem_map.mp waits
        rw [settling]
        exact numbered number (mem_waiting (set number due pending))
      rw [← settling] at up
      refine .opens timed closed opens.openNumber? fun limit holds => ?_
      rw [← moving] at holds
      exact opens.bides delayed before up holds

theorem perform_attends {delay clock : Millis} {pane next : Pane σ} {operation : Operation}
    {reply : Reply} (performed : pane.perform operation = .ok (reply, next))
    (timed : ∀ now, operation.time? = some now → now = clock)
    (delayed : pane.settings.pollDelay = delay) (attended : Attended pane.waiting pane)
    (up : pane.settling.lastNumber ≤ next.settling.lastNumber) :
    Attends delay clock pane operation next := by
  rcases perform_frames_or_tracks performed with ⟨now, rfl, framed⟩ | ⟨between, tracks⟩
  · have same := timed now rfl
    subst same
    have midway := frame_midway framed
    exact .keeps midway.keeps_or_closes fun limit bides => midway.bides delayed attended bides
  · cases perform_change performed with
    | drift drifts =>
        refine .of_same tracks drifts.settling fun number due set => ?_
        rwa [drifts.alarms] at set
    | configure drifts =>
        refine .of_same tracks drifts.settling fun number due set => ?_
        rwa [drifts.alarms] at set
    | grab _ grabs =>
        have closed : next.openNumber? = none := by
          rw [openNumber?, grabs.settling]
          rfl
        exact .keeps (.inr closed) fun limit _ => .of_closed closed
    | drop _ _ drops =>
        refine .of_same tracks drops.settling fun number due set => ?_
        rwa [drops.alarms] at set
    | @release touch dropped _ _ _ drops settles =>
        have now := timed touch.time rfl
        subst now
        refine settles.attends rfl rfl drops.settling ?_ ?_ attended.numbered up tracks
        · rw [drops.settings]
          exact delayed
        · intro number due set
          rwa [drops.alarms] at set
    | glide _ steers =>
        exact .of_same tracks steers.carries.settling fun _ _ set => steers.mem_of_mem_poll set
    | @fling velocity now steered _ _ steers settles =>
        have same := timed now rfl
        subst same
        have settings : steered.settings = pane.settings := steers.carries.settings
        refine settles.attends rfl rfl steers.carries.settling ?_ ?_ attended.numbered up tracks
        · show steered.settings.pollDelay = delay
          rw [settings]
          exact delayed
        · exact fun _ _ set => steers.mem_of_mem_poll set
    | frame framed => exact absurd rfl (between _)

theorem perform_watchful {delay clock : Millis} {pane next : Pane σ} {operation : Operation}
    {reply : Reply} (performed : pane.perform operation = .ok (reply, next))
    (timed : ∀ now, operation.time? = some now → now = clock)
    (delayed : pane.settings.pollDelay = delay) (attended : Attended pane.waiting pane)
    (up : pane.settling.lastNumber ≤ next.settling.lastNumber)
    (watchful : Watchful delay clock [] pane) : Watchful delay clock [] next := by
  have attends := perform_attends performed timed delayed attended up
  -- A sequence that opens now holds off its end for every movement before.
  have still (same : next.movements = pane.movements) : Watchful delay clock [] next := by
    constructor
    · rw [same]
      exact watchful.sighted
    · intro sighting seen
      rw [same] at seen
      cases attends with
      | keeps _ kept => exact kept _ (watchful.rested sighting seen)
      | opens _ _ _ held => exact held _ (.first (watchful.sighted sighting seen))
  rcases perform_frames_or_tracks performed with ⟨now, rfl, framed⟩ | ⟨_, tracks⟩
  · have same := timed now rfl
    subst same
    exact (frame_midway framed).watchful delayed attended watchful
  · cases tracks with
    | stays same _ => exact still same
    | @moves now offset told last moved =>
        rw [timed now told] at last
        exact .of_movement last (.inl moved)
    | opens same _ _ => exact still same

/-- In a frame, what has been seen at one moment is outlasted at every later one. -/
theorem Midway.outlasts {delay now : Millis} {pane moment reached : Pane σ}
    {more rest : List Wakeup} (early : Midway pane now moment (more ++ rest))
    (late : Midway pane now reached rest) (delayed : pane.settings.pollDelay = delay)
    (attended : Attended pane.waiting pane) (watchful : Watchful delay now [] pane) :
    Outlasts moment reached := by
  have answered := early.answers late
  induction more generalizing moment with
  | nil =>
      cases answered
      exact .of_same rfl
  | cons wakeup more ih =>
      obtain ⟨next, woken, remaining⟩ := Outcome.bind_eq_ok_iff.mp answered
      have sighted := (early.watchful delayed attended watchful).sighted
      have once : Outlasts moment next := by
        rcases (wake_answer woken).sights with same | ⟨⟨offset, last⟩, _⟩
        · exact .of_same same
        · exact .of_movement sighted last
      exact once.trans (ih (early.next woken) remaining)

theorem Midway.outlasts_start {delay now : Millis} {pane reached : Pane σ} {rest : List Wakeup}
    (midway : Midway pane now reached rest) (delayed : pane.settings.pollDelay = delay)
    (attended : Attended pane.waiting pane) (watchful : Watchful delay now [] pane) :
    Outlasts pane reached := by
  obtain ⟨answered, rung, _⟩ := midway.exists_answered
  have begun : Midway pane now { pane with alarms := (pane.alarms.ring now).2 }
      (answered ++ rest) := rung ▸ .begin
  have same : Outlasts pane { pane with alarms := (pane.alarms.ring now).2 } := .of_same rfl
  exact same.trans (begun.outlasts midway delayed attended watchful)

/-- The panes that a turn leads through; in a frame there is one between any two answers. -/
inductive Turn.Passes (turn : Turn σ) : Pane σ → Prop where
  | before : Passes turn turn.before
  | after : Passes turn turn.after
  | within {now : Millis} {moment : Pane σ} {rest : List Wakeup} :
      turn.operation = .frame now → Midway turn.before now moment rest → Passes turn moment

theorem perform_outlasts {delay clock : Millis} {pane next moment : Pane σ}
    {operation : Operation} {reply : Reply} (performed : pane.perform operation = .ok (reply, next))
    (timed : ∀ now, operation.time? = some now → now = clock)
    (delayed : pane.settings.pollDelay = delay) (attended : Attended pane.waiting pane)
    (watchful : Watchful delay clock [] pane)
    (passes : Turn.Passes ⟨pane, operation, next⟩ moment) : Outlasts moment next := by
  rcases perform_frames_or_tracks performed with ⟨now, rfl, framed⟩ | ⟨between, tracks⟩
  · have same := timed now rfl
    subst same
    have done := frame_midway framed
    cases passes with
    | before => exact done.outlasts_start delayed attended watchful
    | after => exact .of_same rfl
    | @within _ _ rest framed midway =>
        cases framed
        rw [← List.append_nil rest] at midway
        exact midway.outlasts done delayed attended watchful
  · have whole : Outlasts pane next := by
      cases tracks with
      | stays same _ => exact .of_same same
      | opens same _ _ => exact .of_same same
      | @moves now offset told last moved =>
          rw [timed now told] at last
          exact .of_movement watchful.sighted last
    cases passes with
    | before => exact whole
    | after => exact .of_same rfl
    | within framed midway => exact absurd framed (between _)

/-! ## Every course -/

/-- What a course with a steady delay and a clock that does not go back keeps to. -/
structure Vigil (turns : List (Turn σ)) (delay clock : Millis) (pane : Pane σ) : Prop where
  watchful : Watchful delay clock [] pane
  outlasted : ∀ turn ∈ turns, ∀ moment, turn.Passes moment → Outlasts moment pane
  begun : ∀ number, pane.openNumber? = some number → ∃ turn start,
    OpenSince turns number turn ∧ turn.operation.time? = some start ∧
      Bides (turn.operation.earliestEnd start delay) delay clock [] pane

theorem Vigil.wait {turns : List (Turn σ)} {delay clock later : Millis} {pane : Pane σ}
    (vigil : Vigil turns delay clock pane) (passed : clock ≤ later) :
    Vigil turns delay later pane := by
  refine ⟨⟨?_, ?_⟩, vigil.outlasted, ?_⟩
  · intro sighting seen
    exact UInt64.le_trans (vigil.watchful.sighted sighting seen) passed
  · intro sighting seen
    exact (vigil.watchful.rested sighting seen).wait passed
  · intro number isOpen
    obtain ⟨turn, start, opened, timed, bides⟩ := vigil.begun number isOpen
    exact ⟨turn, start, opened, timed, bides.wait passed⟩

theorem Vigil.turn {turns : List (Turn σ)} {delay clock : Millis} {pane next : Pane σ}
    {operation : Operation} {reply : Reply} (vigil : Vigil turns delay clock pane)
    (performed : pane.perform operation = .ok (reply, next))
    (timed : ∀ now, operation.time? = some now → now = clock)
    (delayed : pane.settings.pollDelay = delay) (attended : Attended pane.waiting pane)
    (up : pane.settling.lastNumber ≤ next.settling.lastNumber) :
    Vigil (turns ++ [⟨pane, operation, next⟩]) delay clock next := by
  have outlasts {moment : Pane σ} (passes : Turn.Passes ⟨pane, operation, next⟩ moment) :=
    perform_outlasts performed timed delayed attended vigil.watchful passes
  refine ⟨perform_watchful performed timed delayed attended up vigil.watchful, ?_, ?_⟩
  · intro turn taken moment passes
    rcases List.mem_append.mp taken with before | latest
    · exact (vigil.outlasted turn before moment passes).trans (outlasts .before)
    · rw [List.mem_singleton.mp latest] at passes
      exact outlasts passes
  · intro number isOpen
    cases perform_attends performed timed delayed attended up with
    | keeps same kept =>
        rcases same with same | closed
        · obtain ⟨turn, start, opened, told, bides⟩ := vigil.begun number (same ▸ isOpen)
          exact ⟨turn, start, opened.extend isOpen, told, kept _ bides⟩
        · rw [closed] at isOpen
          cases isOpen
    | opens told closed _ held =>
        exact ⟨_, clock, .last closed isOpen, told, held _ (operation.holdsOff_earliestEnd _ _)⟩

/--
What holds of a fresh pane, outlasts the passing of time and is kept by every
turn holds after a course on a clock that does not go back.
-/
theorem Course.keeps_timed {start pane : Pane σ} {turns : List (Turn σ)} {clock : Millis}
    (course : Course start turns pane) (ordered : (times turns).Pairwise (· ≤ ·))
    (past : ∀ time ∈ times turns, time ≤ clock)
    (holds : List (Turn σ) → Millis → Pane σ → Prop) (first : ∀ clock, holds [] clock start)
    (wait : ∀ {turns pane clock later}, holds turns clock pane → clock ≤ later →
      holds turns later pane)
    (kept : ∀ {turns pane next operation reply clock}, Course start turns pane →
      pane.perform operation = .ok (reply, next) →
      (∀ now, operation.time? = some now → now = clock) → holds turns clock pane →
      holds (turns ++ [⟨pane, operation, next⟩]) clock next) :
    holds turns clock pane := by
  induction course generalizing clock with
  | start => exact first clock
  | @turn turns pane next operation reply course performed ih =>
      rw [times, List.filterMap_append] at ordered past
      obtain ⟨orderedBefore, _, increasing⟩ := List.pairwise_append.mp ordered
      cases timed : operation.time? with
      | none =>
          have before := ih orderedBefore fun time given =>
            past time (List.mem_append_left _ given)
          exact kept course performed (by simp [timed]) before
      | some now =>
          -- The clock of the turn is the time it was given; only later does it go on.
          have mine : now ∈ List.filterMap (fun turn : Turn σ => turn.operation.time?)
              [⟨pane, operation, next⟩] := by simp [timed]
          have before := ih orderedBefore fun time given => increasing time given now mine
          have turned := kept course performed (by simp [timed]) before
          exact wait turned (past now (List.mem_append_right _ mine))

theorem Course.vigil {start pane : Pane σ} {turns : List (Turn σ)} {delay clock : Millis}
    (fresh : Fresh start) (course : Course start turns pane)
    (few : sequencesOpened turns < 2 ^ 64) (ordered : (times turns).Pairwise (· ≤ ·))
    (steady : ∀ turn ∈ turns, turn.before.settings.pollDelay = delay)
    (past : ∀ time ∈ times turns, time ≤ clock) : Vigil turns delay clock pane := by
  refine course.keeps_timed ordered past
    (fun turns clock pane => sequencesOpened turns < 2 ^ 64 →
      (∀ turn ∈ turns, turn.before.settings.pollDelay = delay) → Vigil turns delay clock pane)
    ?_ ?_ ?_ few steady
  · intro clock _ _
    have rest := fresh.atRest
    have noneOpen : start.openNumber? = none := by rw [openNumber?, rest.settling]; rfl
    have noneSeen : start.movements.last = none := by rw [rest.movements]; rfl
    exact ⟨⟨by simp [noneSeen], by simp [noneSeen]⟩, by simp, by simp [noneOpen]⟩
  · intro _ _ _ _ vigil passed few steady
    exact (vigil few steady).wait passed
  · intro turns pane next operation reply clock course performed timed vigil few steady
    have zero : start.settling.lastNumber = 0 := by rw [fresh.atRest.settling]; rfl
    have up := course.number_le performed (fun pane => pane.settling.lastNumber) zero few
    have fewBefore := Nat.lt_of_le_of_lt (climb_le_append _ turns _) few
    have delayed := steady ⟨pane, operation, next⟩ (by simp)
    have steadyBefore turn (taken : turn ∈ turns) := steady turn (List.mem_append_left _ taken)
    exact (vigil fewBefore steadyBefore).turn performed timed delayed
      (course.attended fresh fewBefore) up

/-- The panes that a course has led through when a wake-up is answered in the next frame. -/
inductive Until (turns : List (Turn σ)) (pane : Pane σ) (now : Millis) (queue : List Wakeup) :
    Pane σ → Prop where
  | before {turn : Turn σ} {moment : Pane σ} :
      turn ∈ turns → turn.Passes moment → Until turns pane now queue moment
  | within {moment : Pane σ} {more : List Wakeup} :
      Midway pane now moment (more ++ queue) → Until turns pane now queue moment

/--
When a poll ends its settle sequence, a whole delay has passed since every
movement seen until then, and since the sequence was opened.  Two delays have
passed since a fling has opened it.  Times stop at the end of time.
-/
theorem Course.settles_after_quiet_period {start pane reached : Pane σ} {turns : List (Turn σ)}
    {delay now : Millis} {number : UInt64} {rest : List Wakeup} (fresh : Fresh start)
    (course : Course start turns pane) (few : sequencesOpened turns < 2 ^ 64)
    (ordered : (times turns ++ [now]).Pairwise (· ≤ ·))
    (steady : ∀ turn ∈ turns, turn.before.settings.pollDelay = delay)
    (delayed : pane.settings.pollDelay = delay)
    (midway : Midway pane now reached (.poll number :: rest))
    (decided : reached.verdict? number = some .settled) :
    (∀ moment, Until turns pane now (.poll number :: rest) moment →
      ∀ sighting, moment.movements.last = some sighting →
        Millis.later sighting.time delay ≤ now) ∧
    ∃ turn begun, OpenSince turns number turn ∧ turn.operation.time? = some begun ∧
      Millis.later begun delay ≤ now ∧
      (turn.operation.isFling = true → Millis.later (Millis.later begun delay) delay ≤ now) := by
  obtain ⟨orderedBefore, _, increasing⟩ := List.pairwise_append.mp ordered
  have past time (given : time ∈ times turns) : time ≤ now := increasing time given now (by simp)
  have vigil := course.vigil fresh few orderedBefore steady past
  have attended := course.attended fresh few
  have watchful := midway.watchful delayed attended vigil.watchful
  obtain ⟨isOpen, quiet⟩ := verdict?_settled decided
  constructor
  · intro moment passed sighting seen
    have outlasts : Outlasts moment reached := by
      cases passed with
      | before taken passes =>
          have framed := midway.outlasts_start delayed attended vigil.watchful
          exact (vigil.outlasted _ taken moment passes).trans framed
      | within early => exact early.outlasts midway delayed attended vigil.watchful
    obtain ⟨newest, seenNewest, ahead⟩ := outlasts sighting seen
    have holds := (watchful.rested newest seenNewest).rung number isOpen List.mem_cons_self
    exact UInt64.le_trans (Millis.later_le_later ahead delay) (holds.quiet quiet)
  · have stillOpen : pane.openNumber? = some number := by
      rcases midway.keeps_or_closes with same | closed
      · rw [← same]
        exact isOpen
      · rw [closed] at isOpen
        cases isOpen
    obtain ⟨turn, begun, opened, told, bides⟩ := vigil.begun number stillOpen
    have holds := (midway.bides delayed attended bides).rung number isOpen List.mem_cons_self
    have ended := holds.quiet quiet
    refine ⟨turn, begun, opened, told, ?_, ?_⟩
    · exact UInt64.le_trans (turn.operation.later_le_earliestEnd begun delay) ended
    · intro flung
      rwa [Operation.earliestEnd, if_pos flung] at ended

/-- A fling that does not get anywhere, and a movement that the host reports meanwhile. -/
def flungAndCarried : List Operation :=
  [.layOut ⟨300, 500, 0, 0⟩ 0, .setContent ⟨300, 1000⟩ 0, .fling 0 10,
    .reportPosition ⟨0, 40⟩ 12, .frame 30]

theorem Course.settles_after_two_delays :
    ∃ (start pane reached : Pane Stride) (turns : List (Turn Stride)),
      Fresh start ∧ Course start turns pane ∧ sequencesOpened turns < 2 ^ 64 ∧
      (times turns ++ [50]).Pairwise (· ≤ ·) ∧
      (∀ turn ∈ turns, turn.before.settings.pollDelay = 20) ∧ pane.settings.pollDelay = 20 ∧
      Midway pane 50 reached [.poll 1] ∧ reached.verdict? 1 = some .settled ∧
      (∀ moment, Until turns pane 50 [.poll 1] moment →
        ∀ sighting, moment.movements.last = some sighting →
          Millis.later sighting.time 20 ≤ 50) ∧
      ∃ turn begun, OpenSince turns 1 turn ∧ turn.operation.time? = some begun ∧
        Millis.later begun 20 ≤ 50 ∧
        (turn.operation.isFling = true → Millis.later (Millis.later begun 20) 20 ≤ 50) := by
  let start : Pane Stride :=
    create { Settings.standard with momentumEvents := true } .standard (some (.create 40))
  have fresh : Fresh start := .create _ _ _
  have came : (start.run flungAndCarried).map (fun pane =>
      ((pane.alarms.ring 50).1, pane.verdict? 1, pane.settings.pollDelay)) =
      .ok ([.poll 1], some .settled, 20) := by decide +kernel
  have few : sequencesOpened (start.history flungAndCarried) < 2 ^ 64 := by decide +kernel
  have ordered : (times (start.history flungAndCarried) ++ [50]).Pairwise (· ≤ ·) := by
    decide +kernel
  have steady : ∀ turn ∈ start.history flungAndCarried, turn.before.settings.pollDelay = 20 := by
    decide +kernel
  obtain ⟨pane, ran, same⟩ := Outcome.map_eq_ok_iff.mp came
  obtain ⟨rung, rest⟩ := Prod.mk.inj same
  obtain ⟨decided, delayed⟩ := Prod.mk.inj rest
  have course := course_history ran
  have midway : Midway pane 50 { pane with alarms := (pane.alarms.ring 50).2 } [.poll 1] :=
    rung ▸ .begin
  obtain ⟨rested, begun⟩ :=
    course.settles_after_quiet_period fresh few ordered steady delayed midway decided
  exact ⟨start, pane, _, _, fresh, course, few, ordered, steady, delayed, midway, decided, rested,
    begun⟩

end Pane

end KineticScroll
