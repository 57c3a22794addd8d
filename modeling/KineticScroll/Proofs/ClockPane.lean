import KineticScroll.Proofs.Answer
import KineticScroll.Proofs.ClockMotion

/-!
# The same pane at a later time

A pane keeps times in four places: when it saw its content last, when its
motion was advanced last, when its alarms are due, and when its speedometer was
called.  If all four are later by the same amount, whatever the pane does later
by that amount comes to the same.
-/

namespace KineticScroll

open Millis (Behind)

variable {lead now later : Millis}

namespace Pane

theorem touch_settings {σ : Type} [ScrollPhysics σ] (pane : Pane σ) (finger : Touch) :
    (pane.touch finger).2.settings = pane.settings := by
  have touched : pane.touch finger = ((pane.touch finger).1, (pane.touch finger).2) := rfl
  cases touch_change touched with
  | drift drifts => exact drifts.settings
  | drop _ _ drops => exact drops.settings
  | release _ _ drops settles =>
      cases settles with
      | joins => exact drops.settings
      | opens _ opens => exact opens.settings.trans drops.settings

/-- The same pane on two clocks. -/
inductive Alike (lead : Millis) : Pane Decay → Pane Decay → Prop where
  | intro {pane : Pane Decay} {movements : MovementFilter} {animation : Animation Decay}
      {alarms : Alarms} {speedometer : Option Speedometer} :
      MovementFilter.Alike lead pane.movements movements →
        Animation.Alike lead pane.animation animation → Alarms.Alike lead pane.alarms alarms →
        Speedometer.Alike lead pane.speedometer speedometer →
          Alike lead pane { pane with
            movements := movements
            animation := animation
            alarms := alarms
            speedometer := speedometer }

/-- The speedometer of a fresh pane has not been called. -/
theorem Fresh.calls {σ : Type} [ScrollPhysics σ] {pane : Pane σ} (fresh : Fresh pane) :
    ∀ speedometer ∈ pane.speedometer, speedometer.calls = [] := by
  intro speedometer present
  induction fresh with
  | create settings platform physics => cases present
  | withSpeedometer rule _ _ =>
      cases present
      rfl
  | withMeter _ ih => exact ih present

/-- A poll that is set now is due before the end of time, on the later clock too. -/
def Timely {σ : Type} (lead now : Millis) (pane : Pane σ) : Prop :=
  now.toNat + lead.toNat + pane.settings.pollDelay.toNat ≤ Millis.greatest.toNat

instance {σ : Type} (lead now : Millis) (pane : Pane σ) : Decidable (Timely lead now pane) :=
  inferInstanceAs (Decidable (_ ≤ _))

theorem Timely.behind {σ : Type} {pane : Pane σ} (timely : Timely lead now pane) :
    Behind lead now (now + lead) := by
  have last : Millis.greatest.toNat = 18446744073709551615 := rfl
  rw [Timely] at timely
  rw [Behind, UInt64.toNat_add]
  omega

theorem Timely.of_settings {σ : Type} {pane next : Pane σ} (timely : Timely lead now pane)
    (same : next.settings = pane.settings) : Timely lead now next := by
  rw [Timely, same]
  exact timely

namespace Alike

variable {early late : Pane Decay}

/-! ## What does not depend on the clock -/

theorem settings (alike : Alike lead early late) : late.settings = early.settings := by
  cases alike
  rfl

theorem state (alike : Alike lead early late) : late.state = early.state := by
  cases alike
  rfl

theorem settling (alike : Alike lead early late) : late.settling = early.settling := by
  cases alike
  rfl

theorem offset (alike : Alike lead early late) : late.offset = early.offset :=
  congrArg PaneState.offset alike.state

theorem content (alike : Alike lead early late) : late.content = early.content := by
  cases alike
  rfl

theorem extent (alike : Alike lead early late) : late.extent = early.extent := by
  cases alike
  rfl

theorem commands (alike : Alike lead early late) : late.commands = early.commands := by
  cases alike
  rfl

theorem emissions (alike : Alike lead early late) : late.emissions = early.emissions := by
  cases alike
  rfl

theorem snapshot (alike : Alike lead early late) : late.snapshot = early.snapshot := by
  cases alike
  rfl

theorem culling (alike : Alike lead early late) : late.culling = early.culling := by
  cases alike
  rfl

theorem meter (alike : Alike lead early late) : late.meter = early.meter := by
  cases alike
  rfl

theorem withState (alike : Alike lead early late) (change : PaneState → PaneState) :
    Alike lead { early with state := change early.state }
      { late with state := change late.state } := by
  obtain ⟨movements, animation, alarms, speedometer⟩ := alike
  exact .intro movements animation alarms speedometer

theorem withSettling (alike : Alike lead early late) (change : Settling → Settling) :
    Alike lead { early with settling := change early.settling }
      { late with settling := change late.settling } := by
  obtain ⟨movements, animation, alarms, speedometer⟩ := alike
  exact .intro movements animation alarms speedometer

theorem withAnimation (alike : Alike lead early late) {one other : Animation Decay}
    (animation : Animation.Alike lead one other) :
    Alike lead { early with animation := one } { late with animation := other } := by
  obtain ⟨movements, _, alarms, speedometer⟩ := alike
  exact .intro movements animation alarms speedometer

theorem animation (alike : Alike lead early late) :
    Animation.Alike lead early.animation late.animation := by
  obtain ⟨_, animation, _, _⟩ := alike
  exact animation

theorem alarms (alike : Alike lead early late) : Alarms.Alike lead early.alarms late.alarms := by
  obtain ⟨_, _, alarms, _⟩ := alike
  exact alarms

theorem isRunning (alike : Alike lead early late) : late.isRunning = early.isRunning :=
  alike.animation.isRunning

theorem isSettling (alike : Alike lead early late) : late.isSettling = early.isSettling :=
  congrArg Settling.isOpen alike.settling

/-! ## Sending -/

theorem emit (alike : Alike lead early late) (kind : EventKind) (velocity : Velocity) :
    Alike lead (early.emit kind velocity) (late.emit kind velocity) := by
  obtain ⟨movements, animation, alarms, speedometer⟩ := alike
  exact .intro movements animation alarms speedometer

theorem emitMomentum (alike : Alike lead early late) (kind : EventKind) :
    Alike lead (early.emitMomentum kind) (late.emitMomentum kind) := by
  obtain ⟨movements, animation, alarms, speedometer⟩ := alike
  unfold Pane.emitMomentum
  dsimp only
  split
  · exact .intro movements animation alarms speedometer
  · exact .intro movements animation alarms speedometer

theorem callMeter (alike : Alike lead early late) (call : String → MeterCall) :
    Alike lead (early.callMeter call) (late.callMeter call) := by
  obtain ⟨movements, animation, alarms, speedometer⟩ := alike
  unfold Pane.callMeter
  dsimp only
  split
  · exact .intro movements animation alarms speedometer
  · exact .intro movements animation alarms speedometer

theorem push (alike : Alike lead early late) (command : Command) :
    Alike lead (early.push command) (late.push command) := by
  obtain ⟨movements, animation, alarms, speedometer⟩ := alike
  exact .intro movements animation alarms speedometer

theorem setAlarm (alike : Alike lead early late) (wakeup : Wakeup) (behind : Behind lead now later)
    {delay : Millis} (fits : now.toNat + lead.toNat + delay.toNat ≤ Millis.greatest.toNat) :
    Alike lead (early.setAlarm wakeup now delay) (late.setAlarm wakeup later delay) := by
  obtain ⟨movements, animation, alarms, speedometer⟩ := alike
  exact .intro movements animation (alarms.set wakeup behind fits) speedometer

theorem scheduleStep (alike : Alike lead early late) (generation : UInt64)
    (behind : Behind lead now later) :
    Alike lead (early.scheduleStep generation now) (late.scheduleStep generation later) :=
  alike.setAlarm _ behind behind.fits_zero

/-- The commands are taken. -/
theorem emptied (alike : Alike lead early late) :
    Alike lead early.collectCommands.2 late.collectCommands.2 := by
  obtain ⟨movements, animation, alarms, speedometer⟩ := alike
  exact .intro movements animation alarms speedometer

/-! ## Position -/

theorem refreshCulling (alike : Alike lead early late) :
    Outcome.Both (Alike lead) early.refreshCulling late.refreshCulling := by
  obtain ⟨movements, animation, alarms, speedometer⟩ := alike
  exact .bind_same fun culling => .done (.intro movements animation alarms speedometer)

theorem configure (alike : Alike lead early late) (settings : Settings) :
    Outcome.Both (Alike lead) (early.configure settings) (late.configure settings) := by
  have configured : Alike lead
      { early with settings := settings, culling := early.culling.switch settings.culling }
      { late with settings := settings, culling := late.culling.switch settings.culling } := by
    obtain ⟨movements, animation, alarms, speedometer⟩ := alike
    exact .intro movements animation alarms speedometer
  unfold Pane.configure
  dsimp only
  rw [alike.culling] at configured ⊢
  split
  · exact configured.refreshCulling
  · exact .done configured

theorem reconfigure (alike : Alike lead early late) (change : Settings → Settings) :
    Outcome.Both (fun one other => other.1 = one.1 ∧ Alike lead one.2 other.2)
      (early.perform (.configure change)) (late.perform (.configure change)) := by
  unfold Pane.perform
  rw [alike.settings]
  exact (alike.configure _).map fun _ _ configured => ⟨rfl, configured⟩

theorem moveTo (alike : Alike lead early late) (movement : Movement) :
    Outcome.Both (fun one other => other.1 = one.1 ∧ Alike lead one.2 other.2)
      (early.moveTo movement) (late.moveTo movement) := by
  have moved := alike.withState fun state =>
    { state with offset := movement.offset, active := true }
  refine moved.refreshCulling.bind fun one other seen => .done ⟨?_, seen.emit _ _⟩
  cases seen
  rfl

/-- A report yields the same event on both clocks. -/
theorem reportPosition (alike : Alike lead early late) (position : Offset)
    (behind : Behind lead now later) :
    Outcome.Both (fun one other => other.1 = one.1 ∧ Alike lead one.2 other.2)
      (early.reportPosition position now) (late.reportPosition position later) := by
  obtain ⟨movements, animation, alarms, speedometer⟩ := alike
  refine (movements.report behind position).bind ?_
  rintro ⟨movement, filter⟩ ⟨_, other⟩ ⟨same, filtered⟩
  cases same
  cases movement with
  | none => exact .done ⟨rfl, .intro movements animation alarms speedometer⟩
  | some movement =>
      have seen : Alike lead { early with movements := filter } _ :=
        .intro filtered animation alarms speedometer
      refine (seen.moveTo movement).bind fun one other moved => .done ⟨?_, moved.2⟩
      rw [moved.1]

theorem jumpTo (alike : Alike lead early late) (y : Px) (behind : Behind lead now later) :
    Outcome.Both (Alike lead) (early.jumpTo y now) (late.jumpTo y later) := by
  unfold Pane.jumpTo
  dsimp only
  rw [alike.offset]
  exact ((alike.push _).reportPosition _ behind).bind fun _ _ moved => .done moved.2

/-! ## Layout -/

theorem fitExtent (alike : Alike lead early late) (behind : Behind lead now later) :
    Outcome.Both (Alike lead) (early.fitExtent now) (late.fitExtent later) := by
  have offset := alike.offset
  obtain ⟨movements, animation, alarms, speedometer⟩ := alike
  refine .bind_same fun extent => ?_
  have measured : Alike lead { early with extent := extent } _ :=
    .intro movements animation alarms speedometer
  have jumped (limit : Px) := measured.jumpTo limit behind
  dsimp only
  split
  · rw [offset]
    cases extent.overrun? early.offset.y with
    | none => exact .done measured
    | some limit => exact jumped limit
  · exact .done measured

theorem layOut (alike : Alike lead early late) (viewport : Viewport)
    (behind : Behind lead now later) :
    Outcome.Both (Alike lead) (early.layOut viewport now) (late.layOut viewport later) := by
  obtain ⟨movements, animation, alarms, speedometer⟩ := alike
  have placed : Alike lead { early with viewport := viewport } _ :=
    .intro movements animation alarms speedometer
  unfold Pane.layOut
  dsimp only
  split
  · exact placed.refreshCulling.bind fun _ _ seen => seen.fitExtent behind
  · exact placed.fitExtent behind

theorem setContent (alike : Alike lead early late) (content : ContentSize)
    (behind : Behind lead now later) :
    Outcome.Both (Alike lead) (early.setContent content now) (late.setContent content later) := by
  obtain ⟨movements, animation, alarms, speedometer⟩ := alike
  have placed : Alike lead { early with content := some content } _ :=
    .intro movements animation alarms speedometer
  exact placed.fitExtent behind

/-! ## Glides -/

theorem follow (alike : Alike lead early late) {one other : Option UInt64 × Animation Decay}
    (number : other.1 = one.1) (started : Animation.Alike lead one.2 other.2)
    (behind : Behind lead now later) :
    Alike lead (early.follow one now) (late.follow other later) := by
  obtain ⟨movements, animation, alarms, speedometer⟩ := alike
  have begun : Alike lead { early with animation := one.2 } _ :=
    .intro movements started alarms speedometer
  unfold Pane.follow
  dsimp only
  rw [number]
  cases one.1 with
  | none => exact begun
  | some generation => exact begun.scheduleStep generation behind

theorem startGlide (alike : Alike lead early late) (y : Px) (behind : Behind lead now later) :
    Alike lead (early.startGlide y now) (late.startGlide y later) := by
  have pushed (command : Command) := alike.push command
  obtain ⟨movements, animation, alarms, speedometer⟩ := id alike
  obtain ⟨number, started⟩ := animation.startGlide early.offset.y y behind
  have followed := alike.follow number started behind
  unfold Pane.startGlide
  dsimp only
  rw [animation.hasPhysics]
  split
  · exact followed
  · exact pushed _

theorem glideTo (alike : Alike lead early late) (y : Px) (behind : Behind lead now later) :
    Outcome.Both (Alike lead) (early.glideTo y now) (late.glideTo y later) := by
  have place : late.restingPlace y = early.restingPlace y := by
    cases alike
    rfl
  unfold Pane.glideTo
  rw [place, alike.offset]
  refine .bind_same fun target => .done ?_
  split
  · exact alike
  · exact alike.startGlide target behind

theorem glideToPage (alike : Alike lead early late) (velocity : Px)
    (behind : Behind lead now later) :
    Outcome.Both (Alike lead) (early.glideToPage velocity now)
      (late.glideToPage velocity later) := by
  have glided (target : Px) := alike.glideTo target behind
  obtain ⟨movements, animation, alarms, speedometer⟩ := alike
  exact .bind_same fun target => glided target

/-! ## Settling -/

theorem schedulePoll (alike : Alike lead early late) (sequence : UInt64)
    (behind : Behind lead now later) (timely : Timely lead now early) :
    Alike lead (early.schedulePoll sequence now) (late.schedulePoll sequence later) := by
  unfold Pane.schedulePoll
  rw [alike.settings]
  exact alike.setAlarm _ behind timely

theorem announce (alike : Alike lead early late) (kind : EventKind) (call : String → MeterCall) :
    Alike lead ((early.emitMomentum kind).callMeter call)
      ((late.emitMomentum kind).callMeter call) :=
  (alike.emitMomentum kind).callMeter call

theorem startSettling (alike : Alike lead early late) (cause : SettleCause)
    (behind : Behind lead now later) (timely : Timely lead now early) :
    Alike lead (early.startSettling cause now) (late.startSettling cause later) := by
  have opened := ((alike.withSettling fun settling => settling.start.2).withState fun state =>
    { state with active := cause.countsAsMoving }).announce .momentumBegin .enable
  unfold Pane.startSettling
  dsimp only
  rw [congrArg (fun settling => settling.start.1) alike.settling]
  split
  · exact alike
  · exact opened.schedulePoll _ behind
      (timely.of_settings (announce_signals _ .momentumBegin .enable).settings)

theorem cutSettling (alike : Alike lead early late) :
    Alike lead early.cutSettling late.cutSettling := by
  have cut := ((alike.withSettling Settling.close).withState fun state =>
    { state with flinging := false }).announce .momentumEnd .disable
  unfold Pane.cutSettling
  rw [alike.isSettling]
  split
  · exact cut
  · exact alike

/-! ## Gestures -/

theorem takeHold (alike : Alike lead early late) : Alike lead early.takeHold late.takeHold :=
  (((alike.withAnimation alike.animation.abort).cutSettling.withState fun state =>
    { state with dragging := true }).emit .dragBegin .zero).callMeter .enable

theorem grab (alike : Alike lead early late) :
    late.grab.1 = early.grab.1 ∧ Alike lead early.grab.2 late.grab.2 := by
  unfold Pane.grab
  rw [congrArg Settings.scrollEnabled alike.settings]
  split
  · exact ⟨rfl, alike.takeHold⟩
  · exact ⟨rfl, alike⟩

/-- The speed of a release depends on the time between the touches alone. -/
theorem releaseVelocity (alike : Alike lead early late) :
    late.releaseVelocity = early.releaseVelocity := by
  obtain ⟨_, _, _, speedometer⟩ := alike
  unfold Pane.releaseVelocity
  dsimp only
  generalize early.speedometer = before at speedometer ⊢
  cases speedometer with
  | absent => rfl
  | present ignores calls => exact ignores _ _ calls

theorem settlesAfterDrag (alike : Alike lead early late) :
    late.settlesAfterDrag = early.settlesAfterDrag := by
  cases alike
  rfl

theorem letGo (alike : Alike lead early late) (behind : Behind lead now later)
    (timely : Timely lead now early) :
    Alike lead (early.letGo now) (late.letGo later) := by
  have released := ((alike.emit .dragEnd early.releaseVelocity).withState fun state =>
    { state with dragging := false }).callMeter .disable
  unfold Pane.letGo
  dsimp only
  rw [alike.releaseVelocity, released.settlesAfterDrag]
  split
  · exact released.startSettling .drag behind
      (timely.of_settings (callMeter_signals _ .disable).settings)
  · exact released

theorem touch (alike : Alike lead early late) (phase : TouchPhase) (x y : Single)
    (behind : Behind lead now later) (timely : Timely lead now early) :
    (late.touch ⟨phase, x, y, later⟩).1 = (early.touch ⟨phase, x, y, now⟩).1 ∧
      Alike lead (early.touch ⟨phase, x, y, now⟩).2 (late.touch ⟨phase, x, y, later⟩).2 := by
  have observed : Alike lead
      { early with speedometer := early.speedometer.map fun speedometer =>
          speedometer.observe ⟨phase, x, y, now⟩ }
      { late with speedometer := late.speedometer.map fun speedometer =>
          speedometer.observe ⟨phase, x, y, later⟩ } := by
    obtain ⟨movements, animation, alarms, speedometer⟩ := alike
    exact .intro movements animation alarms (speedometer.observe behind phase x y)
  unfold Pane.touch
  dsimp only
  rw [congrArg Settings.scrollEnabled alike.settings, congrArg PaneState.dragging alike.state]
  split
  · split
    · exact ⟨rfl, observed.letGo behind timely⟩
    · exact ⟨rfl, observed⟩
  · exact ⟨rfl, alike⟩

/-! ## Flinging -/

theorem settleFling (alike : Alike lead early late) (behind : Behind lead now later)
    (timely : Timely lead now early) :
    Alike lead (early.settleFling now) (late.settleFling later) := by
  have flung := alike.withState fun state => { state with flinging := true }
  have settles : late.settlesAfterFling = early.settlesAfterFling := by
    cases alike
    rfl
  unfold Pane.settleFling
  rw [settles]
  split
  · exact flung.startSettling .fling behind timely
  · exact alike

theorem carryOut (alike : Alike lead early late) (response : Response)
    (behind : Behind lead now later) (timely : Timely lead now early) :
    Outcome.Both (Alike lead) (early.carryOut response now) (late.carryOut response later) := by
  cases response with
  | page target =>
      have velocity : late.movements.velocity = early.movements.velocity := by
        obtain ⟨movements, _, _, _⟩ := alike
        exact movements.velocity
      unfold Pane.carryOut
      dsimp only
      rw [velocity]
      exact (alike.emit .scroll _).glideTo target behind
  | free launch =>
      refine (alike.animation.startFling launch behind).bind ?_
      rintro one other ⟨number, started⟩
      have settings : (early.follow one now).settings = early.settings := by
        unfold Pane.follow
        dsimp only
        split <;> rfl
      have followed := alike.follow number started behind
      exact .done (followed.settleFling behind (timely.of_settings settings))
  | host velocity => exact .done ((alike.push (.fling velocity)).settleFling behind timely)

theorem fling (alike : Alike lead early late) (velocity : Px) (behind : Behind lead now later)
    (timely : Timely lead now early) :
    Outcome.Both (Alike lead) (early.fling velocity now) (late.fling velocity later) := by
  have release : late.release = early.release := by
    cases alike
    rfl
  unfold Pane.fling
  rw [alike.settings, release, alike.animation.respond]
  split
  · exact .bind_same fun response => alike.carryOut response behind timely
  · exact .done alike

/-! ## Frames -/

theorem landing (alike : Alike lead early late) (frame : Advance) :
    Outcome.Both (fun one other => other.1 = one.1 ∧ Animation.Alike lead one.2 other.2)
      (early.landing frame) (late.landing frame) := by
  obtain ⟨movements, animation, alarms, speedometer⟩ := alike
  obtain ⟨position, stopped⟩ := animation.stopAtEnd frame.position early.extent.limit
  unfold Pane.landing
  dsimp only
  rw [position]
  split
  · exact .bind_same fun clamped => .done ⟨rfl, stopped⟩
  · exact .done ⟨rfl, stopped⟩

theorem showFrame (alike : Alike lead early late) (generation : UInt64) (frame : Advance)
    (behind : Behind lead now later) :
    Outcome.Both (Alike lead) (early.showFrame generation frame now)
      (late.showFrame generation frame later) := by
  refine (alike.landing frame).bind ?_
  rintro ⟨position, one⟩ ⟨_, other⟩ ⟨same, landed⟩
  cases same
  refine ((alike.withAnimation landed).jumpTo position behind).bind fun moved _ arrived => ?_
  refine .done ?_
  rw [arrived.isRunning]
  split
  · exact arrived.scheduleStep generation behind
  · exact arrived

theorem runStep (alike : Alike lead early late) (generation : UInt64)
    (behind : Behind lead now later) :
    Outcome.Both (Alike lead) (early.runStep generation now) (late.runStep generation later) := by
  obtain ⟨advanced, stepped⟩ := alike.animation.step generation behind
  have carried := alike.withAnimation stepped
  unfold Pane.runStep
  dsimp only
  rw [advanced]
  split
  · exact .done carried
  · exact carried.showFrame generation _ behind

theorem returnToExtent (alike : Alike lead early late) (behind : Behind lead now later) :
    Outcome.Both (Alike lead) (early.returnToExtent now) (late.returnToExtent later) := by
  unfold Pane.returnToExtent
  rw [alike.content, alike.extent, alike.offset]
  split
  · refine .bind_same fun target => ?_
    split
    · exact .done alike
    · exact (alike.jumpTo target behind).bind fun _ _ moved =>
        .done (moved.withState fun state => { state with active := false })
  · exact .done alike

theorem finishSettling (alike : Alike lead early late) (behind : Behind lead now later) :
    Outcome.Both (Alike lead) (early.finishSettling now) (late.finishSettling later) :=
  ((alike.withState fun state => { state with flinging := false }).returnToExtent behind).bind
    fun _ _ returned => .done (returned.announce .momentumEnd .disable)

theorem actOn (alike : Alike lead early late) (decision : Verdict) (sequence : UInt64)
    (behind : Behind lead now later) (timely : Timely lead now early) :
    Outcome.Both (Alike lead) (early.actOn decision sequence now)
      (late.actOn decision sequence later) := by
  cases decision with
  | moving => exact .done (alike.schedulePoll sequence behind timely)
  | snap =>
      have snaps : Outcome.Both (fun one other => Alike lead one other ∧ Timely lead now one)
          (early.glideToPage 0 now) (late.glideToPage 0 later) :=
        (alike.glideToPage 0 behind).mono fun _ _ glided same =>
          ⟨same, timely.of_settings (glideToPage_steers glided).carries.settings⟩
      exact snaps.map fun _ _ snapped => snapped.1.schedulePoll sequence behind snapped.2
  | settled => exact alike.finishSettling behind

theorem runPoll (alike : Alike lead early late) (sequence : UInt64)
    (behind : Behind lead now later) (timely : Timely lead now early) :
    Outcome.Both (Alike lead) (early.runPoll sequence now) (late.runPoll sequence later) := by
  have polled := (alike.withSettling fun settling => (settling.poll sequence early.state.active
    early.settings.pagingEnabled).2).withState fun state => { state with active := false }
  unfold Pane.runPoll
  dsimp only
  rw [congrArg PaneState.active alike.state, congrArg Settings.pagingEnabled alike.settings,
    congrArg (fun settling => (settling.poll sequence early.state.active
      early.settings.pagingEnabled).1) alike.settling]
  split
  · exact .done alike
  · exact polled.actOn _ sequence behind timely

theorem wake (alike : Alike lead early late) (wakeup : Wakeup)
    (behind : Behind lead now later) (timely : Timely lead now early) :
    Outcome.Both (Alike lead) (early.wake now wakeup) (late.wake later wakeup) := by
  cases wakeup with
  | poll sequence => exact alike.runPoll sequence behind timely
  | step generation => exact alike.runStep generation behind

/-- A frame answers the same alarms on both clocks, and comes to the same. -/
theorem frame (alike : Alike lead early late)
    (behind : Behind lead now later) (timely : Timely lead now early) :
    Outcome.Both (Alike lead) (early.frame now) (late.frame later) := by
  obtain ⟨rung, left⟩ := alike.alarms.ring behind
  have ringing : Alike lead { early with alarms := (early.alarms.ring now).2 }
      { late with alarms := (late.alarms.ring later).2 } := by
    obtain ⟨movements, animation, alarms, speedometer⟩ := alike
    exact .intro movements animation left speedometer
  unfold Pane.frame
  dsimp only
  rw [rung]
  let related (one other : Pane Decay) : Prop := Alike lead one other ∧ Timely lead now one
  have woken (one other : Pane Decay) (wakeup : Wakeup) (relates : related one other) :
      Outcome.Both related (one.wake now wakeup) (other.wake later wakeup) :=
    (relates.1.wake wakeup behind relates.2).mono fun _ _ answered same =>
      ⟨same, relates.2.of_settings (wake_answer answered).settings⟩
  exact (Outcome.Both.foldlM woken ⟨ringing, timely⟩).mono fun _ _ _ relates => relates.1

end Alike

end Pane

end KineticScroll
