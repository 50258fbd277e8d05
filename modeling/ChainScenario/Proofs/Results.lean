import Mathlib.Data.List.Forall2

/-!
# Results that may be faults

How a computation that ended well was put together. Main statements: `except_bind` for one step after
another, and `mapM_ok_iff` for one step for each item.
-/
namespace ChainScenario

variable {ε υ α β : Type}

theorem except_bind {first : Except ε α} {next : α → Except ε β} {value : β} :
    (first >>= next) = .ok value ↔ ∃ given, first = .ok given ∧ next given = .ok value := by
  cases first with
  | error fault => simp [bind, Except.bind]
  | ok given => simp [bind, Except.bind]

theorem ok_map {result : Except ε α} {next : α → β} {value : β} :
    result.map next = .ok value ↔ ∃ given, result = .ok given ∧ next given = value := by
  cases result <;> simp [Except.map]

theorem ok_mapError {result : Except ε α} {wrap : ε → υ} {value : α} :
    result.mapError wrap = .ok value ↔ result = .ok value := by
  cases result <;> simp [Except.mapError]

theorem ok_of_toOption_map {result : Except ε α} {test : α → Bool}
    (passes : result.toOption.map test = some true) : ∃ value, result = .ok value ∧ test value = true := by
  cases result with
  | error fault => cases passes
  | ok value => exact ⟨value, rfl, Option.some.inj passes⟩

theorem foldlM_eq_foldl {step : α → β → Except ε α} {next : α → β → α}
    (agrees : ∀ state item last, step state item = .ok last → last = next state item)
    {items : List β} {start last : α} (folded : items.foldlM step start = .ok last) :
    last = items.foldl next start := by
  -- by induction on the items, for every start, since each step gives the start of the rest
  induction items generalizing start with
  | nil =>
    cases folded
    rfl
  | cons item rest ih =>
    rw [List.foldlM_cons] at folded
    obtain ⟨middle, stepped, others⟩ := except_bind.1 folded
    rw [agrees start item middle stepped] at others
    exact ih others

theorem ok_of_mem_foldlM {step : α → β → Except ε α} {items : List β} {start last : α}
    (folded : items.foldlM step start = .ok last) {item : β} (member : item ∈ items) :
    ∃ before after, step before item = .ok after := by
  induction items generalizing start with
  | nil => cases member
  | cons first rest ih =>
    rw [List.foldlM_cons] at folded
    obtain ⟨middle, stepped, others⟩ := except_bind.1 folded
    rcases List.mem_cons.1 member with rfl | behind
    · exact ⟨start, middle, stepped⟩
    · exact ih others behind

theorem mapM_ok_iff {action : α → Except ε β} {items : List α} {results : List β} :
    items.mapM action = .ok results ↔
      List.Forall₂ (fun item result => action item = .ok result) items results := by
  induction items generalizing results with
  | nil =>
    rw [List.forall₂_nil_left_iff, List.mapM_nil]
    exact ⟨fun ended => (Except.ok.inj ended).symm, fun empty => congrArg Except.ok empty.symm⟩
  | cons item rest ih =>
    simp only [List.mapM_cons, List.forall₂_cons_left_iff, except_bind, ih]
    constructor
    · rintro ⟨first, given, others, gives, ended⟩
      exact ⟨first, others, given, gives, (Except.ok.inj ended).symm⟩
    · rintro ⟨first, others, given, gives, rfl⟩
      exact ⟨first, given, others, gives, rfl⟩

end ChainScenario
