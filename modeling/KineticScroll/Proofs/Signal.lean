import KineticScroll.Proofs.Drift

/-!
# Signals

A drag and a settle sequence announce where they begin and end, by an event and
a call of the performance meter.  Announcing changes nothing, so what a gesture
does to a pane can be told apart from what it says about it.
-/

namespace KineticScroll

namespace Pane

variable {σ : Type}

/-- Events of these kinds are sent, and the meter may be called; nothing else happens. -/
structure Signals (kinds : List EventKind) (before after : Pane σ) : Prop where
  settings : after.settings = before.settings
  state : after.state = before.state
  settling : after.settling = before.settling
  animation : after.animation = before.animation
  alarms : after.alarms = before.alarms
  content : after.content = before.content
  extent : after.extent = before.extent
  sent : after.kinds = before.kinds ++ kinds

/-- What a momentum event of that kind adds to the events: nothing unless it is asked for. -/
def momentumKinds (pane : Pane σ) (kind : EventKind) : List EventKind :=
  if pane.settings.momentumEvents then [kind] else []

theorem Signals.trans {early late : List EventKind} {first second third : Pane σ}
    (begun : Signals early first second) (ended : Signals late second third) :
    Signals (early ++ late) first third :=
  ⟨ended.settings.trans begun.settings, ended.state.trans begun.state,
    ended.settling.trans begun.settling, ended.animation.trans begun.animation,
    ended.alarms.trans begun.alarms, ended.content.trans begun.content,
    ended.extent.trans begun.extent, by rw [ended.sent, begun.sent, List.append_assoc]⟩

theorem emit_signals (pane : Pane σ) (kind : EventKind) (velocity : Velocity) :
    Signals [kind] pane (pane.emit kind velocity) :=
  ⟨rfl, rfl, rfl, rfl, rfl, rfl, rfl, by simp [emit, kinds, eventNow]⟩

theorem emitMomentum_signals (pane : Pane σ) (kind : EventKind) :
    Signals (pane.momentumKinds kind) pane (pane.emitMomentum kind) := by
  unfold emitMomentum momentumKinds
  split
  · exact pane.emit_signals kind .zero
  · exact ⟨rfl, rfl, rfl, rfl, rfl, rfl, rfl, by simp⟩

theorem callMeter_signals (pane : Pane σ) (call : String → MeterCall) :
    Signals [] pane (pane.callMeter call) := by
  unfold callMeter
  split <;> exact ⟨rfl, rfl, rfl, rfl, rfl, rfl, rfl, by simp [kinds]⟩

/-- A momentum event together with its call of the meter. -/
theorem announce_signals (pane : Pane σ) (kind : EventKind) (call : String → MeterCall) :
    Signals (pane.momentumKinds kind) pane ((pane.emitMomentum kind).callMeter call) := by
  simpa using (pane.emitMomentum_signals kind).trans (callMeter_signals _ call)

/-! ## Settling -/

/-- A settle sequence opens: it has the next number, and its first poll is set. -/
structure Opens (pane : Pane σ) (cause : SettleCause) (now : Millis) (next : Pane σ) : Prop where
  settings : next.settings = pane.settings
  animation : next.animation = pane.animation
  state : next.state = { pane.state with active := cause.countsAsMoving }
  settling : next.settling =
    ⟨some ⟨pane.settling.lastNumber + 1, false, false⟩, pane.settling.lastNumber + 1⟩
  alarms : next.alarms =
    pane.alarms.set (.poll (pane.settling.lastNumber + 1)) now pane.settings.pollDelay
  sent : next.kinds = pane.kinds ++ pane.momentumKinds .momentumBegin

theorem Opens.isSettling {pane next : Pane σ} {cause : SettleCause} {now : Millis}
    (opens : Opens pane cause now next) : next.isSettling = true := by
  rw [Pane.isSettling, opens.settling]
  rfl

/-- A settle sequence is open afterwards, one that was open before or a new one. -/
inductive Settles (pane : Pane σ) (cause : SettleCause) (now : Millis) : Pane σ → Prop where
  | joins : pane.isSettling = true → Settles pane cause now pane
  | opens {next : Pane σ} :
      pane.isSettling = false → Opens pane cause now next → Settles pane cause now next

theorem startSettling_settles (pane : Pane σ) (cause : SettleCause) (now : Millis) :
    Settles pane cause now (pane.startSettling cause now) := by
  cases current : pane.settling.current with
  | some sequence =>
      have unchanged : pane.startSettling cause now = pane := by
        simp [startSettling, Settling.start, current]
      rw [unchanged]
      exact .joins (by simp [isSettling, Settling.isOpen, current])
  | none =>
      refine .opens (by simp [isSettling, Settling.isOpen, current]) ?_
      simp only [startSettling, Settling.start, current]
      have signals := announce_signals
        { pane with
          settling := ⟨some ⟨pane.settling.lastNumber + 1, false, false⟩,
            pane.settling.lastNumber + 1⟩
          state := { pane.state with active := cause.countsAsMoving } }
        .momentumBegin .enable
      refine ⟨signals.settings, signals.animation, signals.state, signals.settling, ?_,
        signals.sent⟩
      simp only [schedulePoll, setAlarm, signals.alarms, signals.settings]

theorem Settles.animation {pane next : Pane σ} {cause : SettleCause} {now : Millis}
    (settles : Settles pane cause now next) : next.animation = pane.animation := by
  cases settles with
  | joins => rfl
  | opens _ opens => exact opens.animation

/-- The settle sequence that may have been open is closed, and its end announced. -/
structure Cuts (pane next : Pane σ) : Prop where
  settings : next.settings = pane.settings
  animation : next.animation = pane.animation
  alarms : next.alarms = pane.alarms
  settling : next.settling = pane.settling.close
  dragging : next.state.dragging = pane.state.dragging
  flinging : next.state.flinging = (!pane.isSettling && pane.state.flinging)
  sent : next.kinds =
    pane.kinds ++ if pane.isSettling then pane.momentumKinds .momentumEnd else []

theorem cutSettling_cuts (pane : Pane σ) : Cuts pane pane.cutSettling := by
  unfold cutSettling
  split
  · next isOpen =>
      have signals := announce_signals
        { pane with
          settling := pane.settling.close
          state := { pane.state with flinging := false } }
        .momentumEnd .disable
      refine ⟨signals.settings, signals.animation, signals.alarms, signals.settling, ?_, ?_, ?_⟩
      · rw [signals.state]
      · rw [signals.state, isOpen]
        rfl
      · rw [signals.sent, if_pos isOpen]
        rfl
  · next closed =>
      have isClosed : pane.isSettling = false := by simpa using closed
      have noneOpen : pane.settling.current = none := by
        simpa [isSettling, Settling.isOpen] using isClosed
      refine ⟨rfl, rfl, rfl, ?_, rfl, by simp [isClosed], by simp [isClosed]⟩
      rw [Settling.close, ← noneOpen]

end Pane

end KineticScroll
