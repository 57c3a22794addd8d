import KineticScroll.Container.Operation
import KineticScroll.Proofs.Course
import KineticScroll.Proofs.Whereabouts

/-!
# The container and its pane

A container keeps a position of its own beside the offset of its pane.  Where
the pane moves its content it asks the container to follow, and where the
container moves it reports to the pane.  Whatever is done to the container, the
two agree again afterwards, and only the one that has physics moves the content.
-/

namespace KineticScroll

/-- Where a command takes the host at once. -/
def Command.leads (position : Offset) : Command → Offset
  | .jump target => target
  | .glide _ => position
  | .fling _ => position
  | .flashIndicators => position

/-- Where commands take the host at once, one after the other. -/
def Command.destination (position : Offset) (commands : List Command) : Offset :=
  commands.foldl Command.leads position

theorem Command.destination_append (position : Offset) (early late : List Command) :
    destination position (early ++ late) = destination (destination position early) late :=
  List.foldl_append

/-- A host that is asked to start a motion stays where it is until the next frame. -/
theorem Command.leads_of_startsMotion {command : Command} (starts : command.startsMotion = true)
    (position : Offset) : command.leads position = position := by
  cases command with
  | jump target => cases starts
  | glide target => rfl
  | fling velocity => rfl
  | flashIndicators => rfl

namespace Pane

variable {σ : Type}

/-! ## Guiding the host -/

/--
The commands that a pane has sent lead the host from where the content was to
where it is now, and ask for no motion where the pane has physics of its own.
-/
structure Guides (pane next : Pane σ) : Prop where
  hasPhysics : next.animation.hasPhysics = pane.animation.hasPhysics
  located : Located pane → Located next
  sent : Located pane → ∃ sent, next.commands = pane.commands ++ sent ∧
    Command.destination pane.offset sent = next.offset ∧
      (pane.animation.hasPhysics = true → ∀ command ∈ sent, command.startsMotion = false)

namespace Guides

theorem trans {first second third : Pane σ} (begun : Guides first second)
    (ended : Guides second third) : Guides first third := by
  refine ⟨ended.hasPhysics.trans begun.hasPhysics,
    fun located => ended.located (begun.located located), ?_⟩
  intro located
  obtain ⟨early, sentEarly, ledEarly, stillEarly⟩ := begun.sent located
  obtain ⟨late, sentLate, ledLate, stillLate⟩ := ended.sent (begun.located located)
  refine ⟨early ++ late, ?_, ?_, ?_⟩
  · rw [sentLate, sentEarly, List.append_assoc]
  · rw [Command.destination_append, ledEarly, ledLate]
  · intro present command among
    rcases List.mem_append.mp among with isEarly | isLate
    · exact stillEarly present command isEarly
    · exact stillLate (begun.hasPhysics.trans present) command isLate

/-- The content stays, and at most a motion is asked for where there is no physics. -/
theorem of_stays {pane next : Pane σ}
    (hasPhysics : next.animation.hasPhysics = pane.animation.hasPhysics)
    (offset : next.offset = pane.offset) (movements : next.movements = pane.movements)
    (asks : next.commands = pane.commands ∨ pane.animation.hasPhysics = false ∧
      ∃ command, command.startsMotion = true ∧ next.commands = pane.commands ++ [command]) :
    Guides pane next := by
  refine ⟨hasPhysics, ?_, fun _ => ?_⟩
  · intro located
    rw [Located, sightedOffset, offset, movements]
    exact located
  · rcases asks with same | ⟨absent, command, starts, asked⟩
    · exact ⟨[], by rw [same, List.append_nil], offset.symm, by simp⟩
    · refine ⟨[command], asked, ?_, by simp [absent]⟩
      rw [offset]
      exact Command.leads_of_startsMotion starts pane.offset

theorem refl (pane : Pane σ) : Guides pane pane :=
  of_stays rfl rfl rfl (.inl rfl)

end Guides

theorem Stays.guides {pane next : Pane σ} (stays : Stays pane next)
    (hasPhysics : next.animation.hasPhysics = pane.animation.hasPhysics) : Guides pane next :=
  .of_stays hasPhysics stays.offset stays.movements (.inl stays.commands)

theorem jumpTo_guides {pane next : Pane σ} {y : Px} {now : Millis}
    (jumped : pane.jumpTo y now = .ok next) : Guides pane next := by
  have arrives := jumpTo_arrives jumped
  refine ⟨congrArg Animation.hasPhysics (jumpTo_moves jumped).animation, arrives.located, ?_⟩
  intro located
  exact ⟨_, arrives.commands_eq, (arrives.offset_eq located).symm, by simp [Command.startsMotion]⟩

theorem Shifts.guides {pane next : Pane σ} {now : Millis} (shifts : Shifts pane now next)
    (animation : next.animation = pane.animation) : Guides pane next := by
  cases shifts with
  | stays stays _ => exact stays.guides (congrArg Animation.hasPhysics animation)
  | @jumps placed _ y stays _ jumped =>
      have placedFrom : placed.animation = pane.animation := by
        rw [← animation, (jumpTo_moves jumped).animation]
      exact (stays.guides (congrArg Animation.hasPhysics placedFrom)).trans (jumpTo_guides jumped)

theorem layOut_guides {pane next : Pane σ} {viewport : Viewport} {now : Millis}
    (laid : pane.layOut viewport now = .ok next) : Guides pane next :=
  (layOut_shifts laid).guides (layOut_drifts laid).animation

theorem setContent_guides {pane next : Pane σ} {content : ContentSize} {now : Millis}
    (set : pane.setContent content now = .ok next) : Guides pane next :=
  (setContent_shifts set).guides (setContent_drifts set).animation

theorem configure_guides {pane next : Pane σ} {settings : Settings}
    (configured : pane.configure settings = .ok next) : Guides pane next :=
  (configure_stays configured).1.guides
    (congrArg Animation.hasPhysics (configure_drifts configured).animation)

/-! ## Physics is kept -/

theorem hasPhysics_of_ok {animation : Animation σ} {physics : σ}
    (held : animation.physics = .ok physics) : animation.hasPhysics = true := by
  rw [Animation.hasPhysics, held]

variable [ScrollPhysics σ]

theorem hasPhysics_abort (animation : Animation σ) :
    animation.abort.hasPhysics = animation.hasPhysics := by
  unfold Animation.abort Animation.hasPhysics
  cases animation.physics <;> rfl

theorem Steers.hasPhysics {pane next : Pane σ} {now : Millis} (steers : Steers pane now next) :
    next.animation.hasPhysics = pane.animation.hasPhysics := by
  cases steers with
  | move moves => rw [moves.animation]
  | start moves starts =>
      cases starts with
      | intro present started =>
          rw [moves.animation] at present
          rw [hasPhysics_of_ok present]
          rfl

theorem Answer.guides {pane next : Pane σ} {wakeup : Wakeup} {now : Millis}
    (answer : Answer now pane wakeup next) : Guides pane next := by
  cases answer with
  | staleStep => exact .refl pane
  | noPhysics => exact .refl pane
  | spent held advanced => exact .of_stays (hasPhysics_of_ok held).symm rfl rfl (.inl rfl)
  | @shown _ _ left _ carried held advanced lands jumped =>
      have present := hasPhysics_of_ok held
      have landed : Guides pane { pane with animation := ⟨.ok left, pane.animation.generation⟩ } :=
        .of_stays present.symm rfl rfl (.inl rfl)
      have shown := landed.trans (jumpTo_guides jumped)
      split
      · exact shown
      · exact shown.trans (.of_stays rfl rfl rfl (.inl rfl))
  | stalePoll => exact .refl pane
  | moving => exact .of_stays rfl rfl rfl (.inl rfl)
  | @snap sequence steered current quiet paging unsnapped glided =>
      have defers := glideToPage_defers glided
      have physics := (glideToPage_steers glided).hasPhysics
      have offset : steered.offset = pane.offset := by rw [Pane.offset, defers.state]; rfl
      exact .of_stays physics offset defers.movements defers.asks
  | @settled sequence returned current quiet unpaged placed =>
      have closed : Guides pane pane.concluded := .of_stays rfl rfl rfl (.inl rfl)
      have back : Guides pane.concluded returned := by
        rcases returnToExtent_eq_ok placed with rfl | ⟨y, moved, jumped, rfl⟩
        · exact .refl _
        · exact (jumpTo_guides jumped).trans (.of_stays rfl rfl rfl (.inl rfl))
      have announced := (announce_stays returned .momentumEnd .disable).guides
        (congrArg Animation.hasPhysics (announce_signals returned .momentumEnd .disable).animation)
      exact (closed.trans back).trans announced

theorem Midway.guides {pane reached : Pane σ} {rest : List Wakeup} {now : Millis}
    (midway : Midway pane now reached rest) : Guides pane reached := by
  induction midway with
  | begin => exact .of_stays rfl rfl rfl (.inl rfl)
  | next _ woken ih => exact ih.trans (wake_answer woken).guides

/-- No operation takes the physics of a pane away or gives it any. -/
theorem Change.hasPhysics {pane next : Pane σ} {operation : Operation}
    (change : Change pane operation next) :
    next.animation.hasPhysics = pane.animation.hasPhysics := by
  cases change with
  | drift drifts => rw [drifts.animation]
  | configure drifts => rw [drifts.animation]
  | grab _ grabs => rw [grabs.animation, hasPhysics_abort]
  | drop _ _ drops => rw [drops.animation]
  | release _ _ drops settles => rw [settles.animation, drops.animation]
  | glide _ steers => exact steers.hasPhysics
  | fling _ steers settles =>
      rw [settles.animation]
      exact steers.hasPhysics
  | frame framed => exact (frame_midway framed).guides.hasPhysics

/-! ## Operations -/

theorem grab_guides {pane next : Pane σ} {accepted : Bool}
    (grabbed : pane.grab = (accepted, next)) : Guides pane next :=
  (grab_stays grabbed).guides (grab_change grabbed).hasPhysics

theorem touch_guides {pane next : Pane σ} {touch : Touch} {accepted : Bool}
    (touched : pane.touch touch = (accepted, next)) : Guides pane next :=
  (touch_stays touched).guides (touch_change touched).hasPhysics

theorem fling_guides {pane next : Pane σ} {velocity : Px} {now : Millis}
    (flung : pane.fling velocity now = .ok next) : Guides pane next := by
  have hasPhysics := (fling_change flung).hasPhysics
  obtain ⟨asked, defers, same⟩ := fling_defers flung
  have offset : asked.offset = pane.offset := congrArg PaneState.offset defers.state
  rcases same with rfl | rfl
  · exact .of_stays hasPhysics offset defers.movements defers.asks
  · have stays := asked.flung.startSettling_stays .fling now
    refine .of_stays hasPhysics (stays.offset.trans offset)
      (stays.movements.trans defers.movements) ?_
    rw [stays.commands]
    exact defers.asks

theorem frame_guides {pane next : Pane σ} {now : Millis} (framed : pane.frame now = .ok next) :
    Guides pane next :=
  (frame_midway framed).guides

/-- Whatever is done, the content stays where it was seen last. -/
theorem perform_located {pane next : Pane σ} {operation : Operation} {reply : Reply}
    (performed : pane.perform operation = .ok (reply, next)) (located : Located pane) :
    Located next := by
  cases perform_performs performed with
  | configure configured => exact (configure_guides configured).located located
  | layOut laid => exact (layOut_guides laid).located located
  | setContent set => exact (setContent_guides set).located located
  | resizeContent resized =>
      have animation := (resizeContent_drifts resized).animation
      exact ((resizeContent_shifts resized).guides animation).located located
  | enterWindow entered =>
      obtain ⟨culling, rfl⟩ := refreshCulling_eq_ok entered
      exact located
  | refreshCulling refreshed => exact (refreshCulling_stays refreshed).1.located located
  | reportPosition reported => exact (reportPosition_arrives reported).located located
  | grab grabbed => exact (grab_guides grabbed).located located
  | touch touched => exact (touch_guides touched).located located
  | fling flung => exact (fling_guides flung).located located
  | frame framed => exact (frame_guides framed).located located
  | _ => exact located

theorem Fresh.located {pane : Pane σ} (fresh : Fresh pane) : Located pane := by
  have rest := fresh.atRest
  rw [Located, Pane.offset, sightedOffset, rest.state, rest.movements]
  rfl

theorem Course.located {start pane : Pane σ} {turns : List (Turn σ)} (fresh : Fresh start)
    (course : Course start turns pane) : Located pane := by
  induction course with
  | start => exact fresh.located
  | turn _ performed ih => exact perform_located performed ih

end Pane

namespace Container

variable {σ : Type}

/-! ## Following the pane -/

/-- Carrying out a command takes the container where the command leads, and leaves its pane. -/
theorem carryOut_eq_ok {container next : Container σ} {command : Command} {now : Millis}
    (done : container.carryOut now command = .ok next) :
    next.pane = container.pane ∧ next.position = command.leads container.position ∧
      (command.startsMotion = false → container.native.isIdle = true →
        next.native.isIdle = true) := by
  cases command with
  | jump target =>
      cases done
      exact ⟨rfl, rfl, fun _ _ => rfl⟩
  | glide target =>
      obtain ⟨distance, _, same⟩ := Outcome.bind_eq_ok_iff.mp done
      cases same
      exact ⟨rfl, rfl, by simp [Command.startsMotion]⟩
  | fling velocity =>
      obtain ⟨native, _, same⟩ := Outcome.bind_eq_ok_iff.mp done
      cases same
      exact ⟨rfl, rfl, by simp [Command.startsMotion]⟩
  | flashIndicators =>
      replace done : container.flash = .ok next := done
      unfold flash at done
      split at done
      · cases done
        exact ⟨rfl, rfl, fun _ idle => idle⟩
      · cases done

theorem carryOutAll_eq_ok {container next : Container σ} {commands : List Command} {now : Millis}
    (done : commands.foldlM (carryOut now) container = .ok next) :
    next.pane = container.pane ∧
      next.position = Command.destination container.position commands ∧
      ((∀ command ∈ commands, command.startsMotion = false) → container.native.isIdle = true →
        next.native.isIdle = true) := by
  induction commands generalizing container with
  | nil =>
      cases done
      exact ⟨rfl, rfl, fun _ idle => idle⟩
  | cons command rest ih =>
      rw [List.foldlM_cons] at done
      obtain ⟨middle, carried, remaining⟩ := Outcome.bind_eq_ok_iff.mp done
      obtain ⟨kept, led, stilled⟩ := carryOut_eq_ok carried
      obtain ⟨keptAll, ledAll, stilledAll⟩ := ih remaining
      refine ⟨keptAll.trans kept, by rw [ledAll, led]; rfl, ?_⟩
      intro still idle
      have first := stilled (still command List.mem_cons_self) idle
      exact stilledAll (fun other later => still other (List.mem_cons_of_mem _ later)) first

/-- The container is where its pane takes the content to be, and waits only for its own motion. -/
structure Agrees (container : Container σ) : Prop where
  located : container.pane.Located
  position : container.position = container.pane.offset
  commands : container.pane.commands = []
  native : container.pane.animation.hasPhysics = true → container.native.isIdle = true

/-- The container agrees again once it has carried out what the changed pane asks for. -/
theorem Agrees.after {container next : Container σ} {changed : Pane σ} {now : Millis}
    (agrees : Agrees container) (guides : container.pane.Guides changed)
    (done : container.after (.ok changed) now = .ok next) : Agrees next := by
  obtain ⟨sent, asked, led, still⟩ := guides.sent agrees.located
  rw [agrees.commands, List.nil_append] at asked
  have obeyed : changed.commands.foldlM (carryOut now)
      { container with pane := { changed with commands := [] } } = .ok next := done
  obtain ⟨kept, followed, stilled⟩ := carryOutAll_eq_ok obeyed
  refine ⟨?_, ?_, by rw [kept], ?_⟩
  · rw [kept]
    exact guides.located agrees.located
  · rw [followed, kept, asked]
    show Command.destination container.position sent = changed.offset
    rw [agrees.position]
    exact led
  · intro present
    rw [kept] at present
    have before := guides.hasPhysics.symm.trans present
    exact stilled (asked ▸ still before) (agrees.native before)

theorem exists_changed {container next : Container σ} {pane : Except Fault (Pane σ)}
    {now : Millis} (done : container.after pane now = .ok next) :
    ∃ changed, pane = .ok changed :=
  let ⟨changed, computed, _⟩ := Outcome.bind_eq_ok_iff.mp done
  ⟨changed, computed⟩

/-- A position that the container reports is taken over by the pane. -/
theorem Agrees.moveTo {container next : Container σ} {position : Offset} {now : Millis}
    (agrees : Agrees container) (moved : container.moveTo position now = .ok next) :
    Agrees next := by
  obtain ⟨⟨event, pane⟩, reported, same⟩ := Outcome.bind_eq_ok_iff.mp moved
  cases same
  have arrives := Pane.reportPosition_arrives reported
  refine ⟨arrives.located agrees.located, (arrives.offset_eq agrees.located).symm,
    arrives.commands_eq.trans agrees.commands, ?_⟩
  intro present
  have animation : pane.animation = container.pane.animation :=
    (Pane.reportPosition_moves reported).animation
  exact agrees.native (animation ▸ present)

/-- A pane that keeps quiet may change behind the back of its container. -/
theorem Agrees.of_quiet {container : Container σ} {pane : Pane σ} (agrees : Agrees container)
    (stays : container.pane.Stays pane)
    (hasPhysics : pane.animation.hasPhysics = container.pane.animation.hasPhysics)
    {native : Decay} (stilled : container.native.isIdle = true → native.isIdle = true) :
    Agrees { container with pane := pane, native := native } := by
  refine ⟨stays.located agrees.located, agrees.position.trans stays.offset.symm,
    stays.commands.trans agrees.commands, ?_⟩
  intro present
  exact stilled (agrees.native (hasPhysics ▸ present))

variable [ScrollPhysics σ]

/-! ## Every operation -/

/-- Operations of the container itself, and new settings for its pane. -/
def Operation.isOwn : Operation → Bool
  | .onPane (.configure _) => true
  | .onPane _ => false
  | _ => true

theorem Agrees.press {container : Container σ} (agrees : Agrees container) (now : Millis) :
    Agrees (container.press now).2 := by
  unfold Container.press
  rcases touched : container.pane.touch (touchAt .down now) with ⟨taken, pane⟩
  rcases grabbed : pane.grab with ⟨accepted, held⟩
  simp only [grabbed]
  have hasPhysics : held.animation.hasPhysics = container.pane.animation.hasPhysics :=
    (Pane.grab_guides grabbed).hasPhysics.trans (Pane.touch_guides touched).hasPhysics
  refine agrees.of_quiet ((Pane.touch_stays touched).trans (Pane.grab_stays grabbed)) hasPhysics ?_
  intro idle
  split
  · rfl
  · exact idle

theorem Agrees.drag {container next : Container σ} {y : Px} {now : Millis}
    (agrees : Agrees container) (dragged : container.drag y now = .ok next) : Agrees next := by
  unfold Container.drag at dragged
  split at dragged
  · rcases touched : container.pane.touch (touchAt .move now) with ⟨taken, pane⟩
    simp only [touched] at dragged
    have followed := agrees.of_quiet (Pane.touch_stays touched)
      (Pane.touch_guides touched).hasPhysics id
    exact followed.moveTo dragged
  · cases dragged
    exact agrees

theorem Agrees.lift {container next : Container σ} {velocity : Px} {now : Millis}
    (agrees : Agrees container) (lifted : container.lift velocity now = .ok next) :
    Agrees next := by
  unfold Container.lift at lifted
  rcases touched : container.pane.touch (touchAt .up now) with ⟨accepted, pane⟩
  simp only [touched] at lifted
  have released := Pane.touch_guides touched
  obtain ⟨changed, computed⟩ := exists_changed lifted
  rw [computed] at lifted
  split at computed
  · exact agrees.after (released.trans (Pane.fling_guides computed)) lifted
  · cases computed
    exact agrees.after released lifted

omit [ScrollPhysics σ] in
theorem Agrees.advanceNative {container next : Container σ} {now : Millis}
    (agrees : Agrees container) (advanced : container.advanceNative now = .ok next) :
    Agrees next := by
  unfold Container.advanceNative at advanced
  dsimp only at advanced
  have moved := container.native.advance_fst now
  cases idle : container.native.isIdle with
  | true =>
      rw [Decay.advance_of_isIdle idle] at advanced
      cases advanced
      exact agrees
  | false =>
      -- Only a pane without physics leaves its motions to the container.
      have absent : container.pane.animation.hasPhysics = false := by
        cases present : container.pane.animation.hasPhysics with
        | false => rfl
        | true =>
            rw [agrees.native present] at idle
            cases idle
      rw [moved, idle] at advanced
      have ahead : Agrees { container with native := (container.native.advance now).2 } :=
        ⟨agrees.located, agrees.position, agrees.commands, by simp [absent]⟩
      exact ahead.moveTo advanced

theorem Agrees.frame {container next : Container σ} {now : Millis} (agrees : Agrees container)
    (framed : container.frame now = .ok next) : Agrees next := by
  obtain ⟨advanced, moved, done⟩ := Outcome.bind_eq_ok_iff.mp framed
  obtain ⟨changed, computed⟩ := exists_changed done
  rw [computed] at done
  exact (agrees.advanceNative moved).after (Pane.frame_guides computed) done

/-- Every operation of a container leaves it in agreement with its pane. -/
theorem Agrees.perform {container next : Container σ} {operation : Operation} {reply : Reply}
    (agrees : Agrees container) (own : operation.isOwn = true)
    (performed : container.perform operation = .ok (reply, next)) : Agrees next := by
  cases operation with
  | layOut viewport now =>
      obtain ⟨_, laid, same⟩ := Outcome.map_eq_ok_iff.mp performed
      cases same
      obtain ⟨changed, computed⟩ := exists_changed laid
      rw [Container.layOut, computed] at laid
      exact agrees.after (Pane.layOut_guides computed) laid
  | layOutContent content now =>
      obtain ⟨_, laid, same⟩ := Outcome.map_eq_ok_iff.mp performed
      cases same
      obtain ⟨changed, computed⟩ := exists_changed laid
      rw [Container.layOutContent, computed] at laid
      exact agrees.after (Pane.setContent_guides computed) laid
  | press now =>
      cases performed
      exact agrees.press now
  | drag y now =>
      obtain ⟨_, dragged, same⟩ := Outcome.map_eq_ok_iff.mp performed
      cases same
      exact agrees.drag dragged
  | lift velocity now =>
      obtain ⟨_, lifted, same⟩ := Outcome.map_eq_ok_iff.mp performed
      cases same
      exact agrees.lift lifted
  | flashIndicators =>
      obtain ⟨_, flashed, same⟩ := Outcome.map_eq_ok_iff.mp performed
      cases same
      have asked : container.pane.Guides container.pane.flashIndicators :=
        ⟨rfl, id, fun _ => ⟨[.flashIndicators], rfl, rfl, by simp [Command.startsMotion]⟩⟩
      exact agrees.after asked flashed
  | frame now =>
      obtain ⟨_, framed, same⟩ := Outcome.map_eq_ok_iff.mp performed
      cases same
      exact agrees.frame framed
  | onPane operation =>
      cases operation with
      | configure change =>
          obtain ⟨⟨_, pane⟩, changed, same⟩ := Outcome.map_eq_ok_iff.mp performed
          cases same
          obtain ⟨_, configured, same⟩ := Outcome.map_eq_ok_iff.mp changed
          cases same
          exact agrees.of_quiet (Pane.configure_stays configured).1
            (Pane.configure_guides configured).hasPhysics id
      | _ => cases own

theorem Agrees.run {container final : Container σ} {operations : List Operation}
    (agrees : Agrees container) (own : ∀ operation ∈ operations, operation.isOwn = true)
    (ran : container.run operations = .ok final) : Agrees final := by
  induction operations generalizing container with
  | nil =>
      cases ran
      exact agrees
  | cons operation rest ih =>
      obtain ⟨⟨reply, next⟩, performed, remaining⟩ := Outcome.bind_eq_ok_iff.mp ran
      have stillOwn other (later : other ∈ rest) := own other (List.mem_cons_of_mem _ later)
      exact ih (agrees.perform (own operation List.mem_cons_self) performed) stillOwn remaining

/-- A play is a run of frames, which stops early only where nothing moves. -/
theorem exists_run_of_play {container final : Container σ} {positions : List Px}
    {now interval stopped : Millis} {count : Nat}
    (played : container.play now interval count = .ok (positions, stopped, final)) :
    ∃ frames ≤ count,
      container.run ((Millis.ticks now interval frames).map .frame) = .ok final ∧
      positions.length = frames ∧ (final.needsFrames = true → frames = count) ∧
      positions.getLastD container.position.y = final.position.y := by
  induction count generalizing container positions now with
  | zero =>
      cases played
      exact ⟨0, Nat.le_refl _, rfl, rfl, fun _ => rfl, rfl⟩
  | succ count ih =>
      rw [play] at played
      split at played
      · obtain ⟨framed, advanced, played⟩ := Outcome.bind_eq_ok_iff.mp played
        obtain ⟨⟨later, _, last⟩, rest, same⟩ := Outcome.bind_eq_ok_iff.mp played
        cases same
        obtain ⟨frames, few, ran, length, all, seen⟩ := ih rest
        refine ⟨frames + 1, Nat.succ_le_succ few, ?_, by rw [List.length_cons, length],
          fun needs => by rw [all needs], ?_⟩
        · exact Outcome.bind_eq_ok_iff.mpr
            ⟨_, Outcome.map_eq_ok_iff.mpr ⟨_, advanced, rfl⟩, ran⟩
        · rw [List.getLastD_cons]
          exact seen
      · next rests =>
          cases played
          exact ⟨0, Nat.zero_le _, rfl, rfl, fun needs => absurd needs rests, rfl⟩

theorem Agrees.play {container final : Container σ} {positions : List Px}
    {now interval stopped : Millis} {count : Nat} (agrees : Agrees container)
    (played : container.play now interval count = .ok (positions, stopped, final)) :
    Agrees final := by
  obtain ⟨frames, _, ran, _⟩ := exists_run_of_play played
  refine agrees.run ?_ ran
  intro operation among
  obtain ⟨_, _, same⟩ := List.mem_map.mp among
  rw [← same]
  rfl

theorem agrees_around {pane : Pane σ} (fresh : Pane.Fresh pane) : Agrees (around pane) := by
  have rest := fresh.atRest
  have start : pane.offset = ⟨0, 0⟩ := by rw [Pane.offset, rest.state]; rfl
  exact ⟨fresh.located, start.symm, rest.commands, fun _ => rfl⟩

/--
After every operation the container is at the offset of its pane and the pane
asks for nothing more.  The container runs no motion where the pane has physics,
and the pane runs none where it has not, so that they never move the content at
the same time.
-/
theorem agrees_after_run {pane : Pane σ} (fresh : Pane.Fresh pane) {final : Container σ}
    {operations : List Operation} (own : ∀ operation ∈ operations, operation.isOwn = true)
    (ran : (around pane).run operations = .ok final) :
    final.position = final.pane.offset ∧ final.pane.commands = [] ∧
      (final.pane.animation.hasPhysics = true → final.native.isIdle = true) ∧
      (final.pane.animation.hasPhysics = false → final.pane.isRunning = false) ∧
      (final.native.isIdle = true ∨ final.pane.isRunning = false) := by
  have agrees := (agrees_around fresh).run own ran
  refine ⟨agrees.position, agrees.commands, agrees.native, Animation.isRunning_of_absent, ?_⟩
  cases present : final.pane.animation.hasPhysics with
  | true => exact .inl (agrees.native present)
  | false => exact .inr (Animation.isRunning_of_absent present)

/-- A container is dragged and flung, and its content shrinks while it moves. -/
def flungAndCut : List Operation :=
  [.layOut ⟨300, 500, 0, 0⟩ 0, .layOutContent ⟨300, 1000⟩ 0, .press 10, .drag 100 20,
    .onPane (.configure fun settings => { settings with momentumEvents := true }),
    .lift 800 30, .frame 46, .layOutContent ⟨300, 610⟩ 50, .frame 62]

theorem agrees_after_cut :
    ∃ final : Container Decay,
      (create .standard .standard).run flungAndCut = .ok final ∧ final.position = ⟨0, 110⟩ ∧
      final.position = final.pane.offset ∧ final.pane.commands = [] ∧
      (final.pane.animation.hasPhysics = true → final.native.isIdle = true) ∧
      (final.pane.animation.hasPhysics = false → final.pane.isRunning = false) ∧
      (final.native.isIdle = true ∨ final.pane.isRunning = false) := by
  have came : ((create .standard .standard).run flungAndCut).map Container.position =
      .ok ⟨0, 110⟩ := by decide +kernel
  obtain ⟨final, ran, there⟩ := Outcome.map_eq_ok_iff.mp came
  have fresh : Pane.Fresh (Pane.create .standard .standard (some Decay.initial)) := .create _ _ _
  have own : ∀ operation ∈ flungAndCut, operation.isOwn = true := by decide
  exact ⟨final, ran, there, agrees_after_run fresh own ran⟩

end Container

end KineticScroll
