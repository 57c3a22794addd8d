import KineticScroll.Proofs.Agreement
import KineticScroll.Proofs.ClockPane

/-!
# The same run at a later time

A container that is told every time later by the same amount does what it would
have done before: it answers the same, sends the same events, and is in the same
state after every operation.  Only the next frame is due later, by that amount.
-/

namespace KineticScroll

open Millis (Behind)

variable {lead now later : Millis}

namespace Container

/-- A pane that asks for a flash alone gets it, whatever the time. -/
theorem after_of_flash {container : Container Decay} {pane : Pane Decay}
    (alone : pane.commands = [.flashIndicators]) : container.after (.ok pane) now =
      flash { container with pane := pane.collectCommands.2 } := by
  show obey { container with pane := pane } now = _
  unfold obey Pane.collectCommands
  dsimp only
  rw [alone]
  exact bind_pure _

theorem advanceNative_settings {container next : Container Decay}
    (advanced : container.advanceNative now = .ok next) :
    next.pane.settings = container.pane.settings := by
  unfold advanceNative at advanced
  dsimp only at advanced
  split at advanced
  · obtain ⟨⟨event, pane⟩, reported, same⟩ := Outcome.bind_eq_ok_iff.mp advanced
    cases same
    exact (Pane.reportPosition_moves reported).settings
  · cases advanced
    rfl

/-- The same container on two clocks. -/
inductive Alike (lead : Millis) : Container Decay → Container Decay → Prop where
  | intro {early late : Pane Decay} {one other : Decay} (position : Offset) (flashes : UInt32) :
      Pane.Alike lead early late → Decay.Alike lead one other →
        Alike lead ⟨early, one, position, flashes⟩ ⟨late, other, position, flashes⟩

namespace Alike

variable {early late : Container Decay}

theorem pane (alike : Alike lead early late) : Pane.Alike lead early.pane late.pane := by
  cases alike with
  | intro position flashes pane native => exact pane

theorem native (alike : Alike lead early late) : Decay.Alike lead early.native late.native := by
  cases alike with
  | intro position flashes pane native => exact native

theorem position (alike : Alike lead early late) : late.position = early.position := by
  cases alike
  rfl

theorem indicatorFlashes (alike : Alike lead early late) :
    late.indicatorFlashes = early.indicatorFlashes := by
  cases alike
  rfl

theorem withPane (alike : Alike lead early late) {one other : Pane Decay}
    (pane : Pane.Alike lead one other) :
    Alike lead { early with pane := one } { late with pane := other } := by
  cases alike with
  | intro position flashes _ native => exact .intro position flashes pane native

/-! ## Commands -/

theorem flash (alike : Alike lead early late) :
    Outcome.Both (Alike lead) early.flash late.flash := by
  cases alike with
  | intro position flashes pane native =>
      unfold Container.flash
      dsimp only
      split
      · exact .done (.intro position _ pane native)
      · exact .fault _

theorem carryOut (alike : Alike lead early late) (command : Command)
    (behind : Behind lead now later) :
    Outcome.Both (Alike lead) (early.carryOut now command) (late.carryOut later command) := by
  cases command with
  | flashIndicators => exact alike.flash
  | jump target =>
      cases alike with
      | intro position flashes pane native => exact .done (.intro _ flashes pane native.halt)
  | glide target =>
      cases alike with
      | intro position flashes pane native =>
          exact .bind_same fun distance =>
            .done (.intro position flashes pane (native.glideBy position.y distance behind))
  | fling velocity =>
      cases alike with
      | @intro before after one other position flashes pane native =>
          have extent : after.extent = before.extent := pane.extent
          unfold Container.carryOut Container.fling
          dsimp only
          rw [extent]
          exact (native.fling _ behind).bind fun _ _ flung =>
            .done (.intro position flashes pane flung)

theorem obey (alike : Alike lead early late) (behind : Behind lead now later) :
    Outcome.Both (Alike lead) (early.obey now) (late.obey later) := by
  have emptied := alike.pane.emptied
  unfold Container.obey Pane.collectCommands
  dsimp only
  rw [alike.pane.commands]
  exact Outcome.Both.foldlM (fun _ _ command obeyed => obeyed.carryOut command behind)
    (alike.withPane emptied)

theorem moveTo (alike : Alike lead early late) (position : Offset)
    (behind : Behind lead now later) :
    Outcome.Both (Alike lead) (early.moveTo position now) (late.moveTo position later) := by
  refine (alike.pane.reportPosition position behind).bind ?_
  rintro ⟨event, one⟩ ⟨_, other⟩ ⟨_, moved⟩
  cases alike with
  | intro _ flashes _ native => exact .done (.intro position flashes moved native)

theorem after (alike : Alike lead early late) {one other : Except Fault (Pane Decay)}
    (changed : Outcome.Both (Pane.Alike lead) one other) (behind : Behind lead now later) :
    Outcome.Both (Alike lead) (early.after one now) (late.after other later) :=
  changed.bind fun _ _ pane => (alike.withPane pane).obey behind

/-! ## Operations -/

theorem press (alike : Alike lead early late) (behind : Behind lead now later)
    (timely : early.pane.Timely lead now) :
    (late.press later).1 = (early.press now).1 ∧
      Alike lead (early.press now).2 (late.press later).2 := by
  obtain ⟨_, touched⟩ := alike.pane.touch .down 0 0 behind timely
  obtain ⟨accepted, held⟩ := touched.grab
  cases alike with
  | intro position flashes pane native =>
      unfold Container.press touchAt
      dsimp only at accepted held ⊢
      rw [accepted]
      refine ⟨rfl, .intro position flashes held ?_⟩
      split
      · exact native.halt
      · exact native

theorem drag (alike : Alike lead early late) (y : Px) (behind : Behind lead now later)
    (timely : early.pane.Timely lead now) :
    Outcome.Both (Alike lead) (early.drag y now) (late.drag y later) := by
  have touched := (alike.pane.touch .move 0 0 behind timely).2
  unfold Container.drag touchAt
  rw [congrArg PaneState.dragging alike.pane.state, alike.position]
  split
  · exact (alike.withPane touched).moveTo _ behind
  · exact .done alike

theorem lift (alike : Alike lead early late) (velocity : Px) (behind : Behind lead now later)
    (timely : early.pane.Timely lead now) :
    Outcome.Both (Alike lead) (early.lift velocity now) (late.lift velocity later) := by
  obtain ⟨accepted, touched⟩ := alike.pane.touch .up 0 0 behind timely
  unfold Container.lift touchAt
  dsimp only
  rw [accepted]
  refine alike.after ?_ behind
  split
  · exact touched.fling velocity behind (timely.of_settings (Pane.touch_settings _ _))
  · exact .done touched

/-- The flash is the only command, so the time at which commands are carried out does not matter. -/
theorem flashIndicators (alike : Alike lead early late) (nothing : early.pane.commands = []) :
    Outcome.Both (Alike lead) early.flashIndicators late.flashIndicators := by
  have asked := alike.pane.push .flashIndicators
  have alone : (early.pane.push .flashIndicators).commands = [.flashIndicators] := by
    rw [Pane.push, nothing]
    rfl
  unfold Container.flashIndicators Pane.flashIndicators
  rw [after_of_flash alone, after_of_flash (asked.commands.trans alone)]
  exact (alike.withPane asked.emptied).flash

theorem advanceNative (alike : Alike lead early late) (behind : Behind lead now later) :
    Outcome.Both (Alike lead) (early.advanceNative now) (late.advanceNative later) := by
  obtain ⟨moved, ahead⟩ := alike.native.advance behind
  have advanced : Alike lead { early with native := (early.native.advance now).2 }
      { late with native := (late.native.advance later).2 } := by
    cases alike with
    | intro position flashes pane native => exact .intro position flashes pane ahead
  unfold Container.advanceNative
  dsimp only
  rw [moved, ahead.position, congrArg Offset.x alike.position]
  split
  · exact advanced.moveTo _ behind
  · exact .done advanced

theorem frame (alike : Alike lead early late) (behind : Behind lead now later)
    (timely : early.pane.Timely lead now) :
    Outcome.Both (Alike lead) (early.frame now) (late.frame later) := by
  have kept : Outcome.Both (fun one other => Alike lead one other ∧ one.pane.Timely lead now)
      (early.advanceNative now) (late.advanceNative later) :=
    (alike.advanceNative behind).mono fun _ _ moved same =>
      ⟨same, timely.of_settings (advanceNative_settings moved)⟩
  exact kept.bind fun _ _ moved => moved.1.after (moved.1.pane.frame behind moved.2) behind

theorem layOut (alike : Alike lead early late) (viewport : Viewport)
    (behind : Behind lead now later) :
    Outcome.Both (Alike lead) (early.layOut viewport now) (late.layOut viewport later) :=
  alike.after (alike.pane.layOut viewport behind) behind

theorem layOutContent (alike : Alike lead early late) (content : ContentSize)
    (behind : Behind lead now later) :
    Outcome.Both (Alike lead) (early.layOutContent content now)
      (late.layOutContent content later) :=
  alike.after (alike.pane.setContent content behind) behind

end Alike

/-! ## Runs -/

/-- The time of an operation, if the host gives it one. -/
def Operation.time? : Operation → Option Millis
  | .layOut _ now => some now
  | .layOutContent _ now => some now
  | .press now => some now
  | .drag _ now => some now
  | .lift _ now => some now
  | .flashIndicators => none
  | .frame now => some now
  | .onPane operation => operation.time?

/-- The same operation of a container at a later time; new settings have no time. -/
def Operation.delayed (lead : Millis) : Operation → Operation
  | .layOut viewport now => .layOut viewport (now + lead)
  | .layOutContent content now => .layOutContent content (now + lead)
  | .press now => .press (now + lead)
  | .drag y now => .drag y (now + lead)
  | .lift velocity now => .lift velocity (now + lead)
  | .flashIndicators => .flashIndicators
  | .frame now => .frame (now + lead)
  | .onPane operation => .onPane operation

/-- Every operation answers the same on both clocks, and comes to the same. -/
theorem Alike.perform {early late : Container Decay} (alike : Alike lead early late)
    {operation : Operation} (own : operation.isOwn = true) (nothing : early.pane.commands = [])
    (timely : ∀ now ∈ operation.time?, early.pane.Timely lead now) :
    Outcome.Both (fun one other => other.1 = one.1 ∧ Alike lead one.2 other.2)
      (early.perform operation) (late.perform (operation.delayed lead)) := by
  have behind (now : Millis) (given : now ∈ operation.time?) : Behind lead now (now + lead) :=
    (timely now given).behind
  cases operation with
  | layOut viewport now =>
      exact (alike.layOut viewport (behind now rfl)).map fun _ _ laid => ⟨rfl, laid⟩
  | layOutContent content now =>
      exact (alike.layOutContent content (behind now rfl)).map fun _ _ laid => ⟨rfl, laid⟩
  | press now =>
      obtain ⟨accepted, pressed⟩ := alike.press (behind now rfl) (timely now rfl)
      exact .done ⟨congrArg Reply.taken accepted, pressed⟩
  | drag y now =>
      exact (alike.drag y (behind now rfl) (timely now rfl)).map fun _ _ dragged => ⟨rfl, dragged⟩
  | lift velocity now =>
      exact (alike.lift velocity (behind now rfl) (timely now rfl)).map
        fun _ _ lifted => ⟨rfl, lifted⟩
  | flashIndicators => exact (alike.flashIndicators nothing).map fun _ _ flashed => ⟨rfl, flashed⟩
  | frame now =>
      exact (alike.frame (behind now rfl) (timely now rfl)).map
        fun _ _ framed => ⟨congrArg Reply.positioned framed.position, framed⟩
  | onPane operation =>
      cases operation with
      | configure change =>
          exact (alike.pane.reconfigure change).map fun _ _ pane =>
            ⟨congrArg Reply.ofPane pane.1, alike.withPane pane.2⟩
      | _ => cases own

/-- What can be seen of a container after an operation. -/
structure Glimpse where
  reply : Reply
  position : Offset
  indicatorFlashes : UInt32
  needsFrames : Bool
  snapshot : Pane.Snapshot
  isSettling : Bool
  isRunning : Bool
  visibleRect : Except Unavailable Rect
  /-- The calls to the performance meter, if there is one. -/
  meter : Option (List MeterCall)
  /-- Every event so far. -/
  emissions : List Emission
  /-- When the pane needs its next frame. -/
  nextDue? : Option Nat

/-- The next frame is needed that much later, and nothing else is different. -/
def Glimpse.delayed (lead : Millis) (glimpse : Glimpse) : Glimpse :=
  { glimpse with nextDue? := glimpse.nextDue?.map (· + lead.toNat) }

def glimpse (container : Container Decay) (reply : Reply) : Glimpse where
  reply := reply
  position := container.position
  indicatorFlashes := container.indicatorFlashes
  needsFrames := container.needsFrames
  snapshot := container.pane.snapshot
  isSettling := container.pane.isSettling
  isRunning := container.pane.isRunning
  visibleRect := container.pane.visibleRect
  meter := container.pane.meter
  emissions := container.pane.emissions
  nextDue? := container.pane.alarms.nextDue?.map UInt64.toNat

/-- What is seen after each operation, up to the first fault, and that fault. -/
def watch (container : Container Decay) : List Operation → List Glimpse × Option Fault
  | [] => ([], none)
  | operation :: rest =>
      match container.perform operation with
      | .error fault => ([], some fault)
      | .ok (reply, next) =>
          let (glimpses, fault) := next.watch rest
          (next.glimpse reply :: glimpses, fault)

/-- Neither clock comes to the end of time, nor does a poll that is set by the way. -/
def keepsTime (lead : Millis) (container : Container Decay) : List Operation → Bool
  | [] => true
  | operation :: rest =>
      (operation.time?.all fun now => decide (container.pane.Timely lead now)) &&
        match container.perform operation with
        | .error _ => true
        | .ok (_, next) => next.keepsTime lead rest

namespace Alike

variable {early late : Container Decay}

theorem needsFrames (alike : Alike lead early late) : late.needsFrames = early.needsFrames := by
  unfold Container.needsFrames Pane.awaitsFrame
  rw [alike.native.isIdle, alike.pane.alarms.isEmpty]

theorem glimpse (alike : Alike lead early late) (reply : Reply) :
    late.glimpse reply = (early.glimpse reply).delayed lead := by
  have pane := alike.pane
  unfold Container.glimpse Glimpse.delayed Pane.visibleRect
  dsimp only
  rw [alike.position, alike.indicatorFlashes, alike.needsFrames, pane.snapshot, pane.isSettling,
    pane.isRunning, pane.culling, pane.meter, pane.emissions, pane.alarms.nextDue?,
    Option.map_map]
  rfl

/-- Two runs that begin alike show the same, operation after operation. -/
theorem watch (alike : Alike lead early late) (agrees : Agrees early) {operations : List Operation}
    (own : ∀ operation ∈ operations, operation.isOwn = true)
    (timely : early.keepsTime lead operations = true) :
    late.watch (operations.map (Operation.delayed lead)) =
      ((early.watch operations).1.map (Glimpse.delayed lead), (early.watch operations).2) := by
  induction operations generalizing early late with
  | nil => rfl
  | cons operation rest ih =>
      obtain ⟨inTime, timelyRest⟩ := Bool.and_eq_true_iff.mp timely
      have given now (given : now ∈ operation.time?) : early.pane.Timely lead now :=
        of_decide_eq_true (Option.all_eq_true _ _ |>.mp inTime now given)
      have performed := alike.perform (own operation List.mem_cons_self) agrees.commands given
      have ownRest other (later : other ∈ rest) := own other (List.mem_cons_of_mem _ later)
      rw [List.map_cons, Container.watch, Container.watch]
      generalize late.perform (operation.delayed lead) = other at performed ⊢
      cases step : early.perform operation with
      | error fault =>
          rw [step] at performed
          cases performed
          rfl
      | ok result =>
          rw [step] at performed timelyRest
          cases performed with
          | done relates =>
              obtain ⟨answered, nextAlike⟩ := relates
              have seen := ih nextAlike (agrees.perform (own operation List.mem_cons_self) step)
                ownRest timelyRest
              dsimp only
              rw [seen, answered, nextAlike.glimpse]
              rfl

end Alike

/-- A fresh pane remembers no time. -/
theorem around_alike {pane : Pane Decay} (fresh : Pane.Fresh pane) (still : pane.isRunning = false)
    (ignores : ∀ speedometer ∈ pane.speedometer, Speedometer.IgnoresStart lead speedometer.rule) :
    Alike lead (around pane) (around pane) := by
  have movements : MovementFilter.Alike lead pane.movements pane.movements := by
    rw [fresh.atRest.movements]
    exact .unseen .zero
  have alarms : Alarms.Alike lead pane.alarms pane.alarms := by
    rw [fresh.atRest.alarms]
    exact .nil
  have speedometer : Speedometer.Alike lead pane.speedometer pane.speedometer := by
    have uncalled := fresh.calls
    generalize pane.speedometer = present at ignores uncalled ⊢
    cases present with
    | none => exact .absent
    | some speedometer =>
        obtain ⟨calls, rule⟩ := speedometer
        cases uncalled _ rfl
        exact .present (ignores _ rfl) .nil
  have same : Pane.Alike lead pane pane :=
    .intro movements (.of_not_isRunning still) alarms speedometer
  exact .intro _ _ same (.of_isIdle rfl)

/--
Told every time later by the same amount, a container answers the same after
every operation, is at the same position, has sent the same events and is in the
same state, and its next frame is due later by that amount, as long as no time
that is told or set comes to the end of time.
-/
theorem watch_delayed {pane : Pane Decay} (fresh : Pane.Fresh pane)
    (still : pane.isRunning = false)
    (ignores : ∀ speedometer ∈ pane.speedometer, Speedometer.IgnoresStart lead speedometer.rule)
    {operations : List Operation} (own : ∀ operation ∈ operations, operation.isOwn = true)
    (timely : (around pane).keepsTime lead operations = true) :
    (around pane).watch (operations.map (Operation.delayed lead)) =
      (((around pane).watch operations).1.map (Glimpse.delayed lead),
        ((around pane).watch operations).2) :=
  (around_alike fresh still ignores).watch (agrees_around fresh) own timely

end Container

/-- The speed between the last two touches. -/
def Speedometer.lastStretch (calls : List SpeedometerCall) : Velocity :=
  match calls.reverse with
  | .observe last :: .observe before :: _ =>
      let passed := Single.ofMillis (Millis.elapsed before.time last.time)
      ⟨(last.x - before.x) / passed, (last.y - before.y) / passed⟩
  | _ => .zero

theorem Speedometer.lastStretch_ignoresStart (lead : Millis) :
    IgnoresStart lead lastStretch := by
  intro early late alike
  have reversed := List.forall₂_reverse_iff.mpr alike
  unfold lastStretch
  generalize early.reverse = calls, late.reverse = others at reversed ⊢
  cases reversed with
  | nil => rfl
  | cons last rest =>
      cases last with
      | clear => rfl
      | observe phase x y ended =>
          cases rest with
          | nil => rfl
          | cons before _ =>
              cases before with
              | clear => rfl
              | observe _ _ _ begun =>
                  dsimp only
                  rw [begun.elapsed ended]

namespace Container

/-- A pane with a meter and a speedometer, and no physics of its own. -/
def measured : Pane Decay :=
  ((Pane.create { Settings.standard with momentumEvents := true } .standard none).withSpeedometer
    Speedometer.lastStretch).withMeter

/-- The content is dragged and flung, while the clock goes back twice. -/
def flungBackInTime : List Operation :=
  [.layOut ⟨300, 500, 0, 0⟩ 0, .layOutContent ⟨300, 1000⟩ 5, .press 10, .drag 100 25, .drag 140 20,
    .onPane (.configure fun settings => { settings with pollDelay := 30 }), .lift 800 30,
    .frame 46, .flashIndicators, .frame 40, .frame 70]

theorem watch_delayed_to_end :
    ((around measured).watch flungBackInTime).2 = none ∧
      ((around measured).watch flungBackInTime).1.map (fun glimpse =>
        (glimpse.position.y, glimpse.nextDue?)) =
          [(0, none), (0, none), (0, none), (100, none), (140, none), (140, none), (140, some 60),
            (153, some 60), (153, some 60), (153, some 60), (174, some 100)] ∧
      (around measured).watch (flungBackInTime.map (Operation.delayed 18446744073709551500)) =
        (((around measured).watch flungBackInTime).1.map (Glimpse.delayed 18446744073709551500),
          ((around measured).watch flungBackInTime).2) := by
  have fresh : Pane.Fresh measured := ((Pane.Fresh.create _ _ none).withSpeedometer _).withMeter
  have ignores : ∀ speedometer ∈ measured.speedometer,
      Speedometer.IgnoresStart 18446744073709551500 speedometer.rule := by
    rintro _ ⟨⟩
    exact Speedometer.lastStretch_ignoresStart _
  have own : ∀ operation ∈ flungBackInTime, operation.isOwn = true := by decide
  have timely : (around measured).keepsTime 18446744073709551500 flungBackInTime = true := by
    decide +kernel
  exact ⟨by decide +kernel, by decide +kernel,
    watch_delayed fresh (by decide) ignores own timely⟩

end Container

end KineticScroll
