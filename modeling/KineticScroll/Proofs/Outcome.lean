import KineticScroll.Fault

/-!
# Outcomes

How a result is read off a computation that may end in a fault: each part of it
has given a result of its own.  A computation that answers a list of demands
keeps whatever each answer keeps.  Two computations come to related results when
the parts of one are related to those of the other.
-/

namespace KineticScroll

namespace Outcome

variable {ε α β : Type}

theorem bind_eq_ok_iff {first : Except ε α} {rest : α → Except ε β} {result : β} :
    (first >>= rest) = .ok result ↔ ∃ value, first = .ok value ∧ rest value = .ok result := by
  cases first with
  | error fault =>
      constructor
      · intro impossible
        cases impossible
      · rintro ⟨value, impossible, _⟩
        cases impossible
  | ok value =>
      constructor
      · intro computed
        exact ⟨value, rfl, computed⟩
      · rintro ⟨_, same, computed⟩
        cases same
        exact computed

theorem map_eq_ok_iff {change : α → β} {outcome : Except ε α} {result : β} :
    outcome.map change = .ok result ↔ ∃ value, outcome = .ok value ∧ change value = result := by
  cases outcome with
  | error fault => simp [Except.map]
  | ok value => simp [Except.map]

theorem eq_ok_of_toOption_eq_some {outcome : Except ε α} {value : α}
    (given : outcome.toOption = some value) : outcome = .ok value := by
  cases outcome with
  | error fault => cases given
  | ok result =>
      cases given
      rfl

/-- What is true at the start, and kept by every answer, is true at the end. -/
theorem foldlM_keeps {answer : α → β → Except ε α} (kept : α → List β → Prop)
    (step : ∀ {state next demand rest}, kept state (demand :: rest) →
      answer state demand = .ok next → kept next rest)
    {demands : List β} {start final : α}
    (first : kept start demands) (done : demands.foldlM answer start = .ok final) :
    kept final [] := by
  induction demands generalizing start with
  | nil =>
      cases done
      exact first
  | cons demand rest ih =>
      rw [List.foldlM_cons] at done
      obtain ⟨next, answered, remaining⟩ := bind_eq_ok_iff.mp done
      exact ih (step first answered) remaining

/-- If every answer succeeds and keeps what is true, all demands are answered. -/
theorem exists_foldlM {answer : α → β → Except ε α} (kept : α → List β → Prop)
    (step : ∀ {state demand rest}, kept state (demand :: rest) →
      ∃ next, answer state demand = .ok next ∧ kept next rest)
    {demands : List β} {start : α} (first : kept start demands) :
    ∃ final, demands.foldlM answer start = .ok final ∧ kept final [] := by
  induction demands generalizing start with
  | nil => exact ⟨start, rfl, first⟩
  | cons demand rest ih =>
      obtain ⟨next, answered, keeps⟩ := step first
      obtain ⟨final, done, kept⟩ := ih keeps
      exact ⟨final, by rw [List.foldlM_cons, answered]; exact done, kept⟩

/-- Demands that all leave the state alone leave it alone together. -/
theorem foldlM_eq_self {answer : α → β → Except ε α} {state : α} {demands : List β}
    (idle : ∀ demand ∈ demands, answer state demand = .ok state) :
    demands.foldlM answer state = .ok state := by
  induction demands with
  | nil => rfl
  | cons demand rest ih =>
      rw [List.foldlM_cons, idle demand List.mem_cons_self]
      exact ih fun other among => idle other (List.mem_cons_of_mem _ among)

/-! ## Two computations -/

/-- Both computations end in the same fault, or both give results, which are related. -/
inductive Both {γ : Type} (related : α → γ → Prop) : Except ε α → Except ε γ → Prop where
  | fault (fault : ε) : Both related (.error fault) (.error fault)
  | done {first : α} {second : γ} : related first second → Both related (.ok first) (.ok second)

namespace Both

variable {γ δ : Type} {related : α → γ → Prop} {after : β → δ → Prop}

theorem bind {first : Except ε α} {second : Except ε γ} {restFirst : α → Except ε β}
    {restSecond : γ → Except ε δ} (both : Both related first second)
    (rest : ∀ one other, related one other → Both after (restFirst one) (restSecond other)) :
    Both after (first >>= restFirst) (second >>= restSecond) := by
  cases both with
  | fault fault => exact .fault fault
  | done relates => exact rest _ _ relates

theorem map {first : Except ε α} {second : Except ε γ} {changeFirst : α → β}
    {changeSecond : γ → δ} (both : Both related first second)
    (change : ∀ one other, related one other → after (changeFirst one) (changeSecond other)) :
    Both after (first.map changeFirst) (second.map changeSecond) := by
  cases both with
  | fault fault => exact .fault fault
  | done relates => exact .done (change _ _ relates)

/-- A part that is the same in both needs no relation of its own. -/
theorem bind_same {first : Except ε α} {restFirst : α → Except ε β} {restSecond : α → Except ε δ}
    (rest : ∀ one, Both after (restFirst one) (restSecond one)) :
    Both after (first >>= restFirst) (first >>= restSecond) := by
  cases first with
  | error fault => exact .fault fault
  | ok one => exact rest one

theorem mono {first : Except ε α} {second : Except ε γ} {weaker : α → γ → Prop}
    (both : Both related first second)
    (weaken : ∀ one other, first = .ok one → related one other → weaker one other) :
    Both weaker first second := by
  cases both with
  | fault fault => exact .fault fault
  | done relates => exact .done (weaken _ _ rfl relates)

theorem foldlM {answerFirst : α → β → Except ε α} {answerSecond : γ → β → Except ε γ}
    (step : ∀ one other demand, related one other →
      Both related (answerFirst one demand) (answerSecond other demand))
    {demands : List β} {first : α} {second : γ} (relates : related first second) :
    Both related (demands.foldlM answerFirst first) (demands.foldlM answerSecond second) := by
  induction demands generalizing first second with
  | nil => exact .done relates
  | cons demand rest ih =>
      rw [List.foldlM_cons, List.foldlM_cons]
      exact (step _ _ demand relates).bind fun _ _ answered => ih answered

end Both

end Outcome

end KineticScroll
