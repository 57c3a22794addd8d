import KineticScroll.Settling
import Mathlib.Algebra.GroupWithZero.Nat
import Mathlib.Data.List.Nodup
import Mathlib.Data.List.Range

/-!
# The life of a settle sequence

Whoever holds a settle machine may open a sequence, close the one that is open,
or poll under any number, in any order.  What was asked and what was answered
tell by themselves which sequences there have been and how each was polled.  The
machine answers from that: a poll finds the sequence moving as long as it is told
so, a first quiet poll under paging asks for a snap, and any other quiet poll ends
the sequence, once and for all.
-/

namespace KineticScroll

namespace Settling

inductive Call where
  | start
  | close
  | poll (number : UInt64) (active paging : Bool)
deriving DecidableEq

inductive Reply where
  | opened (number : Option UInt64)
  | closed (wasOpen : Bool)
  | polled (verdict : Option Verdict)
deriving DecidableEq

def ask (settling : Settling) : Call → Reply × Settling
  | .start => (.opened settling.start.1, settling.start.2)
  | .close => (.closed settling.isOpen, settling.close)
  | .poll number active paging =>
      (.polled (settling.poll number active paging).1, (settling.poll number active paging).2)

/-! ## What has been asked and answered -/

/-- What a poll is told. -/
structure Tick where
  active : Bool
  paging : Bool
deriving DecidableEq

/-- A quiet poll under paging, which calls for a snap. -/
def Tick.callsForSnap (tick : Tick) : Bool :=
  !tick.active && tick.paging

/-- A sequence, with the polls that it has had. -/
structure Life where
  number : UInt64
  ticks : List Tick
deriving DecidableEq

namespace Life

def add (life : Life) (tick : Tick) : Life :=
  { life with ticks := life.ticks ++ [tick] }

def hasSnapped (life : Life) : Bool :=
  life.ticks.any Tick.callsForSnap

/-- Moving while told so, a snap at the first quiet poll under paging, and else the end. -/
def verdict (life : Life) (tick : Tick) : Verdict :=
  if tick.active then .moving
  else if tick.paging && !life.hasSnapped then .snap
  else .settled

/-- The number of the sequence, if it has been told to snap. -/
def numberIfSnapped (life : Life) : List UInt64 :=
  if life.hasSnapped then [life.number] else []

/-- What the machine keeps of a sequence. -/
def sequence (life : Life) : SettleSequence where
  number := life.number
  lastPollWasActive := (life.ticks.getLast?.map Tick.active).getD false
  snapped := life.hasSnapped

end Life

/-- What calls and their replies tell of the sequences so far. -/
structure Log where
  /-- The numbers handed out, in order. -/
  opened : List UInt64
  /-- The numbers under which a snap was asked for, in order. -/
  snapped : List UInt64
  /-- The sequences that are over, in order. -/
  ended : List Life
  current : Option Life

namespace Log

def empty : Log :=
  ⟨[], [], [], none⟩

def note (log : Log) : Call → Reply → Log
  | .start, .opened (some number) =>
      { log with opened := log.opened ++ [number], current := some ⟨number, []⟩ }
  | .close, .closed wasOpen =>
      if wasOpen then { log with ended := log.ended ++ log.current.toList, current := none }
      else log
  | .poll _ active paging, .polled (some .moving) =>
      { log with current := log.current.map (·.add ⟨active, paging⟩) }
  | .poll number active paging, .polled (some .snap) =>
      { log with
        snapped := log.snapped ++ [number]
        current := log.current.map (·.add ⟨active, paging⟩) }
  | .poll _ active paging, .polled (some .settled) =>
      { log with
        ended := log.ended ++ (log.current.map (·.add ⟨active, paging⟩)).toList
        current := none }
  | _, _ => log

end Log

/-- Calls to a machine that was idle, what they have made of it, and what they tell. -/
inductive Lived : List Call → Settling → Log → Prop where
  | idle : Lived [] idle .empty
  | ask {calls : List Call} {settling : Settling} {log : Log} (call : Call) :
      Lived calls settling log →
        Lived (calls ++ [call]) (settling.ask call).2 (log.note call (settling.ask call).1)

/-! ## What the machine keeps -/

theorem Life.sequence_add (life : Life) (tick : Tick) :
    (life.add tick).sequence =
      ⟨life.number, tick.active, life.hasSnapped || tick.callsForSnap⟩ := by
  simp [Life.sequence, Life.add, Life.hasSnapped]

theorem Life.hasSnapped_add (life : Life) (tick : Tick) :
    (life.add tick).hasSnapped = (life.hasSnapped || tick.callsForSnap) := by
  simp [Life.hasSnapped, Life.add]

theorem Life.numberIfSnapped_sublist (life : Life) :
    List.Sublist life.numberIfSnapped [life.number] := by
  unfold numberIfSnapped
  split
  · exact .refl _
  · exact List.nil_sublist _

theorem Life.active_of_moving {life : Life} {tick : Tick} (told : life.verdict tick = .moving) :
    tick.active = true := by
  unfold verdict at told
  split at told
  · next active => exact active
  · split at told <;> cases told

theorem Life.callsForSnap_of_snap {life : Life} {tick : Tick} (told : life.verdict tick = .snap) :
    tick.callsForSnap = true ∧ life.hasSnapped = false := by
  unfold verdict at told
  split at told
  · cases told
  · next quiet =>
      split at told
      · next first =>
          obtain ⟨paging, unsnapped⟩ := Bool.and_eq_true_iff.mp first
          exact ⟨by simp [Tick.callsForSnap, quiet, paging], by simpa using unsnapped⟩
      · cases told

/-- The machine and the log tell the same. -/
structure Faithful (settling : Settling) (log : Log) : Prop where
  current : settling.current = log.current.map Life.sequence
  lastNumber : settling.lastNumber = UInt64.ofNat log.opened.length
  numbers : log.opened = (List.range log.opened.length).map fun count => UInt64.ofNat (count + 1)
  lives : log.opened = (log.ended ++ log.current.toList).map Life.number
  /-- Only sequences that have snapped are among those told to snap, each once. -/
  snapped : List.Sublist log.snapped
    (log.ended.map Life.number ++ log.current.toList.flatMap Life.numberIfSnapped)
  quiet : ∀ life ∈ log.current,
    life.ticks.length ≤ life.ticks.countP Tick.active + life.hasSnapped.toNat
  brief : ∀ life ∈ log.ended, life.ticks.length ≤ life.ticks.countP Tick.active + 2

namespace Faithful

variable {settling : Settling} {log : Log}

theorem isOpen (faithful : Faithful settling log) :
    settling.isOpen = log.current.isSome := by
  rw [Settling.isOpen, faithful.current, Option.isSome_map]

theorem poll_of_ne (faithful : Faithful settling log) {number : UInt64}
    (stale : log.current.map Life.number ≠ some number) (active paging : Bool) :
    settling.poll number active paging = (none, settling) := by
  apply Settling.poll_of_ne
  rw [faithful.current, Option.map_map]
  exact stale

/-- A poll of the open sequence is judged by the polls before, and noted unless it ends it. -/
theorem poll_current (faithful : Faithful settling log) {life : Life}
    (current : log.current = some life) (tick : Tick) :
    settling.poll life.number tick.active tick.paging =
      (some (life.verdict tick),
        { settling with
          current := if life.verdict tick = .settled then none
            else some (life.add tick).sequence }) := by
  have held : settling.current = some life.sequence := by rw [faithful.current, current]; rfl
  have number : life.sequence.number = life.number := rfl
  have snapped : life.sequence.snapped = life.hasSnapped := rfl
  rw [Life.sequence_add]
  unfold Settling.poll Life.verdict
  simp only [held, number, if_true, snapped]
  obtain ⟨active, paging⟩ := tick
  cases active with
  | true => simp [Tick.callsForSnap]
  | false =>
      cases paging with
      | false => simp
      | true =>
          cases already : life.hasSnapped with
          | false => simp [Tick.callsForSnap]
          | true => simp

/-! ## Calls -/

theorem empty : Faithful idle .empty where
  current := rfl
  lastNumber := rfl
  numbers := rfl
  lives := rfl
  snapped := .slnil
  quiet := nofun
  brief := nofun

/-- A sequence is opened under the next number, unless one is open. -/
theorem start (faithful : Faithful settling log) :
    Faithful settling.start.2 (log.note .start (.opened settling.start.1)) := by
  cases current : log.current with
  | some life =>
      have held : settling.current = some life.sequence := by
        rw [faithful.current, current]
        rfl
      have joins : settling.start = (none, settling) := by rw [Settling.start, held]
      rw [joins]
      exact faithful
  | none =>
      have held : settling.current = none := by
        rw [faithful.current, current]
        rfl
      have next : settling.lastNumber + 1 = UInt64.ofNat (log.opened.length + 1) := by
        rw [faithful.lastNumber, UInt64.ofNat_add]
        rfl
      have opens : settling.start =
          (some (settling.lastNumber + 1),
            ⟨some ⟨settling.lastNumber + 1, false, false⟩, settling.lastNumber + 1⟩) := by
        rw [Settling.start, held]
      rw [opens]
      have lives := faithful.lives
      have snapped := faithful.snapped
      rw [current] at lives snapped
      refine ⟨rfl, ?_, ?_, ?_, snapped, ?_, faithful.brief⟩
      · simp [Log.note, next]
      · simp only [Log.note, List.length_append, List.length_singleton, List.range_succ,
          List.map_append, List.map_singleton, ← faithful.numbers, next]
      · simpa [Log.note] using lives
      · rintro life ⟨⟩
        exact Nat.zero_le _

/-- The open sequence, with its last poll if that ended it, is counted among those that are over. -/
theorem finish (faithful : Faithful settling log) {life last : Life}
    (current : log.current = some life) (same : last.number = life.number)
    (brief : last.ticks.length ≤ last.ticks.countP Tick.active + 2) :
    Faithful settling.close { log with ended := log.ended ++ [last], current := none } := by
  have lives := faithful.lives
  have snapped := faithful.snapped
  rw [current] at lives snapped
  refine ⟨rfl, faithful.lastNumber, faithful.numbers, ?_, ?_, nofun, ?_⟩
  · simpa [same] using lives
  · have once : List.Sublist ([life].flatMap Life.numberIfSnapped) [last.number] := by
      rw [same, List.flatMap_singleton]
      exact life.numberIfSnapped_sublist
    simpa using snapped.trans ((List.Sublist.refl _).append once)
  · intro other among
    rcases List.mem_append.mp among with before | now
    · exact faithful.brief other before
    · rw [List.mem_singleton.mp now]
      exact brief

/-- Closing ends the open sequence, if there is one. -/
theorem close (faithful : Faithful settling log) :
    Faithful settling.close (log.note .close (.closed settling.isOpen)) := by
  rw [faithful.isOpen]
  cases current : log.current with
  | none =>
      have closed : settling.current = none := by
        rw [faithful.current, current]
        rfl
      have same : settling.close = settling := by
        rw [Settling.close, ← closed]
      rw [same]
      exact faithful
  | some life =>
      have quiet := faithful.quiet life current
      have once := Bool.toNat_le life.hasSnapped
      have ends := faithful.finish current rfl (by omega)
      simpa [Log.note, current] using ends

/-- The open sequence has had one poll more, and stays open. -/
theorem goOn (faithful : Faithful settling log) {life : Life} {tick : Tick} {snapped : List UInt64}
    (current : log.current = some life)
    (told : List.Sublist snapped (log.ended.map Life.number ++ (life.add tick).numberIfSnapped))
    (quiet : (life.add tick).ticks.length ≤
      (life.add tick).ticks.countP Tick.active + (life.add tick).hasSnapped.toNat) :
    Faithful { settling with current := some (life.add tick).sequence }
      { log with snapped := snapped, current := some (life.add tick) } := by
  have lives := faithful.lives
  rw [current] at lives
  refine ⟨rfl, faithful.lastNumber, faithful.numbers, ?_, ?_, ?_, faithful.brief⟩
  · simpa [Life.add] using lives
  · simpa using told
  · rintro other ⟨⟩
    exact quiet

/-- A poll that finds the sequence moving is one more active poll. -/
theorem poll_moving (faithful : Faithful settling log) {life : Life} {tick : Tick}
    (current : log.current = some life) (active : tick.active = true) :
    Faithful { settling with current := some (life.add tick).sequence }
      { log with current := some (life.add tick) } := by
  have quiet := faithful.quiet life current
  have snapped := faithful.snapped
  have same : (life.add tick).hasSnapped = life.hasSnapped := by
    simp [Life.hasSnapped_add, Tick.callsForSnap, active]
  have sameNumber : (life.add tick).numberIfSnapped = life.numberIfSnapped := by
    rw [Life.numberIfSnapped, same]
    rfl
  rw [current] at snapped
  refine faithful.goOn current ?_ ?_
  · rw [sameNumber]
    simpa using snapped
  · rw [same]
    simp only [Life.add, List.length_append, List.countP_append, List.length_singleton,
      List.countP_singleton, active, if_true]
    omega

/-- A poll that asks for a snap is the first quiet one. -/
theorem poll_snap (faithful : Faithful settling log) {life : Life} {tick : Tick}
    (current : log.current = some life) (calls : tick.callsForSnap = true)
    (unsnapped : life.hasSnapped = false) :
    Faithful { settling with current := some (life.add tick).sequence }
      { log with
        snapped := log.snapped ++ [life.number]
        current := some (life.add tick) } := by
  have quiet := faithful.quiet life current
  have snapped := faithful.snapped
  have now : (life.add tick).hasSnapped = true := by
    simp [Life.hasSnapped_add, calls]
  rw [current] at snapped
  refine faithful.goOn current ?_ ?_
  · have before : List.Sublist log.snapped (log.ended.map Life.number) := by
      simpa [Life.numberIfSnapped, unsnapped] using snapped
    rw [Life.numberIfSnapped, if_pos now]
    exact before.append (.refl _)
  · rw [now]
    rw [unsnapped] at quiet
    simp only [Life.add, List.length_append, List.countP_append, List.length_singleton,
      Bool.toNat_true, Bool.toNat_false] at quiet ⊢
    omega

/-- A poll that ends the sequence is its last one. -/
theorem poll_settled (faithful : Faithful settling log) {life : Life} (tick : Tick)
    (current : log.current = some life) :
    Faithful settling.close
      { log with ended := log.ended ++ [life.add tick], current := none } := by
  have quiet := faithful.quiet life current
  have once := Bool.toNat_le life.hasSnapped
  refine faithful.finish current rfl ?_
  simp only [Life.add, List.length_append, List.countP_append, List.length_singleton]
  omega

/-- A poll of the open sequence is told among its polls; other polls are not told at all. -/
theorem poll (faithful : Faithful settling log) (number : UInt64) (active paging : Bool) :
    Faithful (settling.poll number active paging).2
      (log.note (.poll number active paging)
        (.polled (settling.poll number active paging).1)) := by
  by_cases known : log.current.map Life.number = some number
  · obtain ⟨life, current, rfl⟩ := Option.map_eq_some_iff.mp known
    rw [faithful.poll_current current ⟨active, paging⟩]
    cases told : life.verdict ⟨active, paging⟩ with
    | moving =>
        simp only [Log.note, current, Option.map_some, reduceCtorEq, if_false]
        exact faithful.poll_moving current (Life.active_of_moving told)
    | snap =>
        obtain ⟨calls, unsnapped⟩ := Life.callsForSnap_of_snap told
        simp only [Log.note, current, Option.map_some, reduceCtorEq, if_false]
        exact faithful.poll_snap current calls unsnapped
    | settled =>
        simp only [Log.note, current, Option.map_some, Option.toList_some, if_true]
        exact faithful.poll_settled ⟨active, paging⟩ current
  · rw [faithful.poll_of_ne known]
    exact faithful

theorem ask (faithful : Faithful settling log) (call : Call) :
    Faithful (settling.ask call).2 (log.note call (settling.ask call).1) := by
  cases call with
  | start => exact faithful.start
  | close => exact faithful.close
  | poll number active paging => exact faithful.poll number active paging

/-! ## Numbers -/

theorem mem_opened (faithful : Faithful settling log) {number : UInt64} :
    number ∈ log.opened ↔
      ∃ count, count < log.opened.length ∧ UInt64.ofNat (count + 1) = number := by
  constructor
  · intro among
    rw [faithful.numbers, List.mem_map] at among
    simpa using among
  · rintro ⟨count, within, rfl⟩
    rw [faithful.numbers, List.mem_map]
    exact ⟨count, List.mem_range.mpr within, rfl⟩

/-- Numbers go round once they have all been handed out, and not before. -/
theorem opened_nodup (faithful : Faithful settling log) (few : log.opened.length < 2 ^ 64) :
    log.opened.Nodup := by
  rw [faithful.numbers]
  refine List.Nodup.map_on ?_ List.nodup_range
  intro first firstIn second secondIn same
  have equal := congrArg UInt64.toNat same
  rw [List.mem_range] at firstIn secondIn
  simp only [UInt64.toNat_ofNat'] at equal
  omega

theorem next_fresh (faithful : Faithful settling log) (few : log.opened.length < 2 ^ 64) :
    settling.lastNumber + 1 ∉ log.opened := by
  have next : settling.lastNumber + 1 = UInt64.ofNat (log.opened.length + 1) := by
    rw [faithful.lastNumber, UInt64.ofNat_add]
    rfl
  rw [next]
  intro among
  obtain ⟨count, within, same⟩ := faithful.mem_opened.mp among
  have equal := congrArg UInt64.toNat same
  simp only [UInt64.toNat_ofNat'] at equal
  omega

end Faithful

/-! ## Whole lives -/

/-- Only a start opens a sequence, and only one. -/
theorem Log.note_opened_le (log : Log) (call : Call) (reply : Reply) :
    (log.note call reply).opened.length ≤
      log.opened.length + if call == .start then 1 else 0 := by
  unfold note
  split
  · simp
  · next wasOpen => cases wasOpen <;> simp
  all_goals simp

namespace Lived

variable {calls : List Call} {settling : Settling} {log : Log}

theorem faithful (lived : Lived calls settling log) : Faithful settling log := by
  induction lived with
  | idle => exact .empty
  | ask call _ faithful => exact faithful.ask call

theorem opened_le (lived : Lived calls settling log) :
    log.opened.length ≤ calls.count .start := by
  induction lived with
  | idle => exact Nat.le_refl 0
  | @ask calls settling log call _ before =>
      rw [List.count_append, List.count_singleton]
      have grows := log.note_opened_le call (settling.ask call).1
      omega

/-- The numbers of sequences that are over or open are all different. -/
theorem lives_nodup (lived : Lived calls settling log) (few : calls.count .start < 2 ^ 64) :
    ((log.ended ++ log.current.toList).map Life.number).Nodup := by
  rw [← lived.faithful.lives]
  exact lived.faithful.opened_nodup (Nat.lt_of_le_of_lt lived.opened_le few)

/-- As long as numbers do not go round, every sequence opened is ended once, having asked for one
snap at most, and each poll of it is judged by its own polls alone. -/
theorem whole_life (lived : Lived calls settling log) (few : calls.count .start < 2 ^ 64) :
    ((settling.start.1 = none ↔ log.current.isSome = true) ∧
      (∀ number, settling.start.1 = some number → number ∉ log.opened)) ∧
    (∀ number active paging, log.current.map Life.number ≠ some number →
      settling.poll number active paging = (none, settling)) ∧
    (∀ life ∈ log.current, ∀ tick : Tick,
      (settling.poll life.number tick.active tick.paging).1 = some (life.verdict tick)) ∧
    (∀ life ∈ log.ended, ∀ active paging,
      settling.poll life.number active paging = (none, settling)) ∧
    log.snapped.Nodup ∧
    log.opened.Nodup ∧ log.opened = (log.ended ++ log.current.toList).map Life.number ∧
    (∀ life ∈ log.current, life.ticks.length < life.ticks.countP Tick.active + 2) ∧
    (∀ life ∈ log.ended, life.ticks.length ≤ life.ticks.countP Tick.active + 2) := by
  have faithful := lived.faithful
  have inRange := Nat.lt_of_le_of_lt lived.opened_le few
  have apart := lived.lives_nodup few
  rw [List.map_append] at apart
  refine ⟨⟨?_, ?_⟩, fun _ active paging stale => faithful.poll_of_ne stale active paging,
    ?_, ?_, ?_, faithful.opened_nodup inRange, faithful.lives, ?_, faithful.brief⟩
  · rw [start_eq_none_iff, faithful.isOpen]
  · intro number opened
    rw [start_eq_some opened]
    exact faithful.next_fresh inRange
  · intro life current tick
    rw [faithful.poll_current current tick]
  · intro life among active paging
    refine faithful.poll_of_ne ?_ active paging
    intro again
    obtain ⟨other, current, same⟩ := Option.map_eq_some_iff.mp again
    refine List.disjoint_of_nodup_append apart (List.mem_map_of_mem among) ?_
    rw [current, ← same]
    exact List.mem_singleton_self other.number
  · -- a number is told to snap only while it belongs to a sequence
    refine (faithful.snapped.trans ?_).nodup apart
    refine (List.Sublist.refl _).append ?_
    cases log.current with
    | none => exact .slnil
    | some life => simpa using life.numberIfSnapped_sublist
  · intro life current
    have quiet := faithful.quiet life current
    have once := Bool.toNat_le life.hasSnapped
    omega

/-- Two sequences, the first of them asked to snap and polled again when it is over. -/
theorem whole_life_snapped_once :
    let calls : List Call :=
      [.start, .start, .poll 7 false true, .poll 1 true false, .poll 1 false true,
        .poll 1 true true, .poll 1 false true, .start, .poll 1 false true, .poll 2 true false]
    let first : Life := ⟨1, [⟨true, false⟩, ⟨false, true⟩, ⟨true, true⟩, ⟨false, true⟩]⟩
    let second : Life := ⟨2, [⟨true, false⟩]⟩
    let settling : Settling := ⟨some ⟨2, true, false⟩, 2⟩
    Lived calls settling ⟨[1, 2], [1], [first], some second⟩ ∧ calls.count .start < 2 ^ 64 ∧
      (∀ active paging, settling.poll 1 active paging = (none, settling)) ∧
      (∀ tick : Tick, (settling.poll 2 tick.active tick.paging).1 = some (second.verdict tick)) ∧
      first.ticks.length ≤ first.ticks.countP Tick.active + 2 := by
  intro calls first second settling
  have lived : Lived calls settling ⟨[1, 2], [1], [first], some second⟩ :=
    .ask (.poll 2 true false) (.ask (.poll 1 false true) (.ask .start
      (.ask (.poll 1 false true) (.ask (.poll 1 true true) (.ask (.poll 1 false true)
        (.ask (.poll 1 true false) (.ask (.poll 7 false true) (.ask .start
          (.ask .start .idle)))))))))
  have few : calls.count .start < 2 ^ 64 := by decide
  obtain ⟨-, -, polls, finished, -, -, -, -, brief⟩ := lived.whole_life few
  exact ⟨lived, few, finished first (.head _), polls second rfl, brief first (.head _)⟩

end Lived

end Settling

end KineticScroll
