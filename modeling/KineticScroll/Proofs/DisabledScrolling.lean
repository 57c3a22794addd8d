import KineticScroll.Proofs.Agreement

/-!
# Gestures while scrolling is disabled

A finger that presses, drags or lifts while scrolling is disabled leaves a
container as it is, whatever drag, settling or motion was under way when the
switch was made.  One gesture escapes the switch: a drag that had begun before
it still takes the content along, though nothing else comes of it.
-/

namespace KineticScroll

namespace Pane

variable {σ : Type} [ScrollPhysics σ] {pane : Pane σ}

omit [ScrollPhysics σ] in
theorem touch_of_disabled (disabled : pane.settings.scrollEnabled = false) (finger : Touch) :
    pane.touch finger = (false, pane) := by
  simp [touch, disabled]

theorem grab_of_disabled (disabled : pane.settings.scrollEnabled = false) :
    pane.grab = (false, pane) := by
  simp [grab, disabled]

end Pane

namespace Container

variable {σ : Type}

/-- What a finger does to a container. -/
def Operation.isGesture : Operation → Bool
  | .press _ => true
  | .drag _ _ => true
  | .lift _ _ => true
  | _ => false

def Operation.isDrag : Operation → Bool
  | .drag _ _ => true
  | _ => false

/-- Where a finger takes a container that follows it. -/
def Operation.pulls (position : Offset) : Operation → Offset
  | .drag y _ => ⟨position.x, y⟩
  | _ => position

/-- Nothing has happened but that the content was moved and the container went along. -/
structure Follows (before after : Container σ) : Prop where
  pane : before.pane.Moves after.pane
  native : after.native = before.native

theorem Follows.refl (container : Container σ) : Follows container container :=
  ⟨.refl container.pane, rfl⟩

theorem Follows.trans {first second third : Container σ} (begun : Follows first second)
    (ended : Follows second third) : Follows first third :=
  ⟨begun.pane.trans ended.pane, ended.native.trans begun.native⟩

theorem moveTo_follows {container next : Container σ} {position : Offset} {now : Millis}
    (moved : container.moveTo position now = .ok next) :
    Follows container next ∧ next.position = position := by
  obtain ⟨⟨event, pane⟩, reported, same⟩ := Outcome.bind_eq_ok_iff.mp moved
  cases same
  exact ⟨⟨Pane.reportPosition_moves reported, rfl⟩, rfl⟩

variable [ScrollPhysics σ] {container : Container σ}

/-! ## One gesture -/

theorem press_of_disabled (disabled : container.pane.settings.scrollEnabled = false)
    (now : Millis) : container.press now = (false, container) := by
  unfold press
  rw [Pane.touch_of_disabled disabled]
  dsimp only
  rw [Pane.grab_of_disabled disabled]
  rfl

omit [ScrollPhysics σ] in
/-- Only the beginning of a drag is gated: one that goes on takes the content along. -/
theorem drag_of_disabled (disabled : container.pane.settings.scrollEnabled = false) (y : Px)
    (now : Millis) :
    container.drag y now =
      if container.pane.state.dragging then container.moveTo ⟨container.position.x, y⟩ now
      else .ok container := by
  unfold drag
  rw [Pane.touch_of_disabled disabled]

omit [ScrollPhysics σ] in
/-- A pane that asks for nothing leaves its container as it is. -/
theorem after_eq_self (settled : container.pane.commands = []) (now : Millis) :
    container.after (.ok container.pane) now = .ok container := by
  cases container with
  | mk pane native position flashes =>
      cases pane
      cases settled
      rfl

theorem lift_of_disabled (disabled : container.pane.settings.scrollEnabled = false)
    (settled : container.pane.commands = []) (velocity : Px) (now : Millis) :
    container.lift velocity now = .ok container := by
  unfold lift
  rw [Pane.touch_of_disabled disabled]
  exact after_eq_self settled now

/-- Where no drag is under way, or none is made, a gesture changes nothing. -/
theorem perform_of_disabled {gesture : Operation}
    (disabled : container.pane.settings.scrollEnabled = false)
    (settled : container.pane.commands = []) (touches : gesture.isGesture = true)
    (released : container.pane.state.dragging = false ∨ gesture.isDrag = false) :
    ∃ reply, container.perform gesture = .ok (reply, container) := by
  cases gesture with
  | press now =>
      refine ⟨.taken false, ?_⟩
      rw [perform, press_of_disabled disabled]
  | drag y now =>
      have free : container.pane.state.dragging = false :=
        released.resolve_right (by simp [Operation.isDrag])
      refine ⟨.done, ?_⟩
      rw [perform, drag_of_disabled disabled, free]
      rfl
  | lift velocity now =>
      refine ⟨.done, ?_⟩
      rw [perform, lift_of_disabled disabled settled]
      rfl
  | _ => cases touches

/-- During a drag, the container goes where the finger pulls it, and that is all. -/
theorem perform_follows {next : Container σ} {gesture : Operation} {reply : Reply}
    (disabled : container.pane.settings.scrollEnabled = false)
    (settled : container.pane.commands = []) (touches : gesture.isGesture = true)
    (dragging : container.pane.state.dragging = true)
    (performed : container.perform gesture = .ok (reply, next)) :
    Follows container next ∧ next.position = gesture.pulls container.position := by
  cases dragged : gesture.isDrag with
  | false =>
      obtain ⟨idle, unchanged⟩ := perform_of_disabled disabled settled touches (.inr dragged)
      rw [unchanged] at performed
      cases performed
      refine ⟨.refl container, ?_⟩
      cases gesture with
      | drag y now => cases dragged
      | _ => rfl
  | true =>
      cases gesture with
      | drag y now =>
          obtain ⟨_, moved, same⟩ := Outcome.map_eq_ok_iff.mp performed
          cases same
          rw [drag_of_disabled disabled, dragging, if_pos rfl] at moved
          exact moveTo_follows moved
      | _ => cases dragged

/-! ## Many gestures -/

theorem run_of_disabled {gestures : List Operation}
    (disabled : container.pane.settings.scrollEnabled = false)
    (settled : container.pane.commands = [])
    (touches : ∀ gesture ∈ gestures, gesture.isGesture = true)
    (released : container.pane.state.dragging = false ∨
      ∀ gesture ∈ gestures, gesture.isDrag = false) :
    container.run gestures = .ok container := by
  induction gestures with
  | nil => rfl
  | cons gesture rest ih =>
      have first := touches gesture List.mem_cons_self
      have firstReleased := released.imp_right fun none => none gesture List.mem_cons_self
      obtain ⟨reply, unchanged⟩ := perform_of_disabled disabled settled first firstReleased
      have others := ih (fun other later => touches other (List.mem_cons_of_mem _ later))
        (released.imp_right fun none other later => none other (List.mem_cons_of_mem _ later))
      exact Outcome.bind_eq_ok_iff.mpr ⟨_, unchanged, others⟩

/-- A drag that the switch has not ended is followed to where the finger was last. -/
theorem run_follows {container final : Container σ} {gestures : List Operation}
    (agrees : Agrees container) (disabled : container.pane.settings.scrollEnabled = false)
    (touches : ∀ gesture ∈ gestures, gesture.isGesture = true)
    (dragging : container.pane.state.dragging = true)
    (ran : container.run gestures = .ok final) :
    Follows container final ∧ Agrees final ∧
      final.position = gestures.foldl Operation.pulls container.position := by
  induction gestures generalizing container with
  | nil =>
      cases ran
      exact ⟨.refl _, agrees, rfl⟩
  | cons gesture rest ih =>
      obtain ⟨⟨reply, next⟩, performed, remaining⟩ := Outcome.bind_eq_ok_iff.mp ran
      have first := touches gesture List.mem_cons_self
      obtain ⟨follows, pulled⟩ :=
        perform_follows disabled agrees.commands first dragging performed
      have own : gesture.isOwn = true := by
        cases gesture with
        | onPane operation => cases first
        | _ => rfl
      have later other (among : other ∈ rest) := touches other (List.mem_cons_of_mem _ among)
      obtain ⟨onward, agreesAtLast, reached⟩ := ih (agrees.perform own performed)
        (by rw [follows.pane.settings, disabled]) later (by rw [follows.pane.dragging, dragging])
        remaining
      refine ⟨follows.trans onward, agreesAtLast, ?_⟩
      rw [reached, pulled, List.foldl_cons]

/--
Whatever was under way when scrolling was switched off, gestures leave the
container as it is, unless a drag was: then dragging on still moves the content
with the finger.  Even so only scroll events are sent, and no motion and no
settle sequence starts or ends.
-/
theorem gestures_idle_while_disabled {pane : Pane σ} (fresh : Pane.Fresh pane)
    {container : Container σ} {operations gestures : List Operation}
    (own : ∀ operation ∈ operations, operation.isOwn = true)
    (ran : (around pane).run operations = .ok container)
    (disabled : container.pane.settings.scrollEnabled = false)
    (touches : ∀ gesture ∈ gestures, gesture.isGesture = true) :
    ((container.pane.state.dragging = false ∨ ∀ gesture ∈ gestures, gesture.isDrag = false) →
      container.run gestures = .ok container) ∧
    ∀ final, container.run gestures = .ok final →
      Follows container final ∧ final.pane.commands = [] ∧ final.position = final.pane.offset ∧
      (container.pane.state.dragging = true →
        final.position = gestures.foldl Operation.pulls container.position) := by
  have agrees := (agrees_around fresh).run own ran
  have idle := run_of_disabled disabled agrees.commands touches
  refine ⟨idle, ?_⟩
  intro final performed
  cases dragging : container.pane.state.dragging with
  | false =>
      rw [idle (.inl dragging)] at performed
      cases performed
      exact ⟨.refl _, agrees.commands, agrees.position, nofun⟩
  | true =>
      obtain ⟨follows, still, reached⟩ := run_follows agrees disabled touches dragging performed
      exact ⟨follows, still.commands, still.position, fun _ => reached⟩

/-- Scrolling is switched off, or on, behind the back of a container. -/
def switchScrolling (enabled : Bool) : Operation :=
  .onPane (.configure fun settings => { settings with scrollEnabled := enabled })

/-- A fling in the midst of which scrolling is switched off. -/
def flungAndDisabled : List Operation :=
  [.onPane (.configure fun settings => { settings with momentumEvents := true }),
    .layOut ⟨300, 500, 0, 0⟩ 0, .layOutContent ⟨300, 1000⟩ 0, .press 10, .drag 100 20,
    .lift 800 30, .frame 46, switchScrolling false]

/-- A finger that drags and flings. -/
def strokes : List Operation :=
  [.press 50, .drag 300 60, .lift 2000 70, .drag 10 80, .lift 0 90]

theorem gestures_idle_while_disabled_flung :
    ∃ container : Container Decay,
      (∀ operation ∈ flungAndDisabled, operation.isOwn = true) ∧
      (create .standard .standard).run flungAndDisabled = .ok container ∧
      container.pane.settings.scrollEnabled = false ∧
      (∀ gesture ∈ strokes, gesture.isGesture = true) ∧
      container.pane.isRunning = true ∧ container.pane.isSettling = true ∧
      container.pane.state.dragging = false ∧ container.run strokes = .ok container ∧
      ∀ final, container.run strokes = .ok final →
        Follows container final ∧ final.pane.commands = [] ∧
        final.position = final.pane.offset ∧
        (container.pane.state.dragging = true →
          final.position = strokes.foldl Operation.pulls container.position) := by
  have came : ((create .standard .standard).run flungAndDisabled).map (fun container =>
      (container.pane.settings.scrollEnabled, container.pane.isRunning,
        container.pane.isSettling, container.pane.state.dragging)) =
      .ok (false, true, true, false) := by decide +kernel
  obtain ⟨container, ran, same⟩ := Outcome.map_eq_ok_iff.mp came
  simp only [Prod.mk.injEq] at same
  obtain ⟨disabled, running, settling, released⟩ := same
  have fresh : Pane.Fresh (Pane.create .standard .standard (some Decay.initial)) := .create _ _ _
  have own : ∀ operation ∈ flungAndDisabled, operation.isOwn = true := by decide
  have touches : ∀ gesture ∈ strokes, gesture.isGesture = true := by decide
  obtain ⟨idle, followed⟩ := gestures_idle_while_disabled fresh own ran disabled touches
  exact ⟨container, own, ran, disabled, touches, running, settling, released, idle (.inl released),
    followed⟩

/-- A drag in the midst of which scrolling is switched off. -/
def draggedAndDisabled : List Operation :=
  [.layOut ⟨300, 500, 0, 0⟩ 0, .layOutContent ⟨300, 1000⟩ 0, .press 0, switchScrolling false]

/-- The drag goes on: the content moves while scrolling is disabled, and an event tells of it. -/
theorem drag_moves_while_disabled :
    ∃ container final : Container Decay,
      (∀ operation ∈ draggedAndDisabled, operation.isOwn = true) ∧
      (create .standard .standard).run draggedAndDisabled = .ok container ∧
      container.pane.settings.scrollEnabled = false ∧ container.run [.drag 100 10] = .ok final ∧
      container.position = ⟨0, 0⟩ ∧ final.position = ⟨0, 100⟩ ∧
      container.pane.kinds = [.dragBegin] ∧ final.pane.kinds = [.dragBegin, .scroll] := by
  have came : ((create .standard .standard).run draggedAndDisabled).map (fun container =>
      (container.pane.settings.scrollEnabled, container.position, container.pane.kinds)) =
      .ok (false, ⟨0, 0⟩, [.dragBegin]) := by decide +kernel
  have moved : ((create .standard .standard).run draggedAndDisabled >>= fun container =>
      container.run [.drag 100 10]).map (fun final => (final.position, final.pane.kinds)) =
      .ok (⟨0, 100⟩, [.dragBegin, .scroll]) := by decide +kernel
  obtain ⟨container, ran, same⟩ := Outcome.map_eq_ok_iff.mp came
  simp only [Prod.mk.injEq] at same
  obtain ⟨disabled, before, sentBefore⟩ := same
  rw [ran] at moved
  obtain ⟨final, performed, same⟩ := Outcome.map_eq_ok_iff.mp moved
  simp only [Prod.mk.injEq] at same
  obtain ⟨after, sentAfter⟩ := same
  exact ⟨container, final, by decide, ran, disabled, performed, before, after, sentBefore,
    sentAfter⟩

end Container

end KineticScroll
