import ChainScenario.Proofs.Action
import ChainScenario.Run.Steps

/-!
# Two runs side by side

Two actions are alike under a relation between their states if from related states they end alike: both
well and with the same value, or both with the same fault, and in related states. The rules follow the
way in which actions are built.
-/
namespace ChainScenario

section Rules

variable {ε σ τ α β : Type} {related : σ → τ → Prop}

/-- How an action ends: its value or its fault. -/
def verdict : EStateM.Result ε σ α → Except ε α
  | .ok value _ => .ok value
  | .error fault _ => .error fault

/-- Two actions end with the same value or the same fault, and in related states. -/
inductive Matches (related : σ → τ → Prop) :
    EStateM.Result ε σ α → EStateM.Result ε τ α → Prop
  | ok (value : α) {state : σ} {other : τ} (holds : related state other) :
      Matches related (.ok value state) (.ok value other)
  | error (fault : ε) {state : σ} {other : τ} (holds : related state other) :
      Matches related (.error fault state) (.error fault other)

section Results

variable {left : EStateM.Result ε σ α} {right : EStateM.Result ε τ α}

theorem Matches.verdict_eq (same : Matches related left right) : verdict left = verdict right := by
  cases same <;> rfl

theorem Matches.states (same : Matches related left right) :
    related (stateAfter left) (stateAfter right) := by
  cases same <;> assumption

theorem Matches.mono {further : σ → τ → Prop} (same : Matches related left right)
    (weaker : ∀ state other, related state other → further state other) :
    Matches further left right := by
  cases same with
  | ok value holds => exact .ok value (weaker _ _ holds)
  | error fault holds => exact .error fault (weaker _ _ holds)

/-- Both end well, or both with a fault. -/
theorem Matches.ends (same : Matches related left right) :
    (∃ value state other, left = .ok value state ∧ right = .ok value other ∧ related state other) ∨
      ∃ fault state other,
        left = .error fault state ∧ right = .error fault other ∧ related state other := by
  cases same with
  | ok value holds => exact .inl ⟨value, _, _, rfl, rfl, holds⟩
  | error fault holds => exact .inr ⟨fault, _, _, rfl, rfl, holds⟩

end Results

/-- From related states two actions end alike. -/
def Alike (related : σ → τ → Prop) (left : EStateM ε σ α) (right : EStateM ε τ α) : Prop :=
  ∀ state other, related state other → Matches related (left state) (right other)

variable {left : EStateM ε σ α} {right : EStateM ε τ α}

theorem alike_pure (value : α) :
    Alike related (pure value : EStateM ε σ α) (pure value : EStateM ε τ α) :=
  fun _ _ holds => .ok value holds

theorem alike_throw (fault : ε) :
    Alike related (throw fault : EStateM ε σ α) (throw fault : EStateM ε τ α) :=
  fun _ _ holds => .error fault holds

theorem alike_modify {change : σ → σ} {other : τ → τ}
    (writes : ∀ state state', related state state' → related (change state) (other state')) :
    Alike related (modify change : EStateM ε σ PUnit) (modify other : EStateM ε τ PUnit) :=
  fun state state' holds => .ok _ (writes state state' holds)

theorem alike_get_bind {next : σ → EStateM ε σ β} {other : τ → EStateM ε τ β}
    (behind : ∀ state state', related state state' →
      Matches related (next state state) (other state' state')) :
    Alike related ((get : EStateM ε σ σ) >>= next) ((get : EStateM ε τ τ) >>= other) := behind

/-- What starts in related states and ends alike goes on alike. -/
theorem Matches.bind {state : σ} {state' : τ} {next : α → EStateM ε σ β} {other : α → EStateM ε τ β}
    (before : Matches related (left state) (right state'))
    (behind : ∀ value, Alike related (next value) (other value)) :
    Matches related ((left >>= next) state) ((right >>= other) state') := by
  obtain ⟨value, _, _, ran, ran', holds⟩ | ⟨fault, _, _, ran, ran', holds⟩ := before.ends
  · rw [bind_ok _ ran, bind_ok _ ran']
    exact behind value _ _ holds
  · -- a fault on both sides passes over what follows
    rw [bind_error _ ran, bind_error _ ran']
    exact .error fault holds

theorem Alike.bind {next : α → EStateM ε σ β} {other : α → EStateM ε τ β}
    (before : Alike related left right) (behind : ∀ value, Alike related (next value) (other value)) :
    Alike related (left >>= next) (right >>= other) :=
  fun state state' holds => (before state state' holds).bind behind

theorem alike_forM {ι : Type} {items : List ι} {action : ι → EStateM ε σ PUnit}
    {other : ι → EStateM ε τ PUnit} (each : ∀ item ∈ items, Alike related (action item) (other item)) :
    Alike related (items.forM action) (items.forM other) := by
  -- By induction on the items: each leaves related states to the next.
  induction items with
  | nil => exact alike_pure _
  | cons item rest ih =>
    change Alike related (action item >>= fun _ => rest.forM action)
      (other item >>= fun _ => rest.forM other)
    exact (each item List.mem_cons_self).bind fun _ =>
      ih fun item member => each item (List.mem_cons_of_mem _ member)

/-- What two actions keep of their own states may be added to what relates them. -/
theorem Alike.and {further : σ → τ → Prop} (alike : Alike related left right)
    (kept : ∀ state state', further state state' →
      further (stateAfter (left state)) (stateAfter (right state'))) :
    Alike (fun state state' => related state state' ∧ further state state') left right := by
  rintro state state' ⟨holds, also⟩
  have after := kept state state' also
  obtain ⟨value, _, _, ran, ran', holds⟩ | ⟨fault, _, _, ran, ran', holds⟩ :=
    (alike state state' holds).ends
  · rw [ran, ran'] at after ⊢
    exact .ok value ⟨holds, after⟩
  · rw [ran, ran'] at after ⊢
    exact .error fault ⟨holds, after⟩

end Rules

namespace Run

variable {ε σ τ α : Type} {related : Executor σ → Executor τ → Prop}

theorem alike_attempt {left : Run σ α} {right : Run τ α} (alike : Alike related left right) :
    Alike related (attempt left) (attempt right) := by
  intro state state' holds
  unfold attempt
  obtain ⟨value, _, _, ran, ran', holds⟩ | ⟨fault, _, _, ran, ran', holds⟩ :=
    (alike state state' holds).ends
  · rw [ran, ran']
    exact .ok _ holds
  · rw [ran, ran']
    exact .ok _ holds

/-- What follows an action on one side only may turn one relation into another. -/
theorem matches_afterwards {further : Executor σ → Executor τ → Prop} {left : Run σ α}
    {right : EStateM.Result Fault (Executor τ) α} {final : Executor σ → Executor σ}
    {state : Executor σ} (same : Matches related (left state) right)
    (ends : ∀ state other, related state other → further (final state) other) :
    Matches further (afterwards left final state) right := by
  obtain ⟨value, _, _, ran, rfl, holds⟩ | ⟨fault, _, _, ran, rfl, holds⟩ := same.ends
  · rw [afterwards, ran]
    exact .ok _ (ends _ _ holds)
  · rw [afterwards, ran]
    exact .error _ (ends _ _ holds)

theorem alike_afterwards {left : Run σ α} {right : Run τ α} {final : Executor σ → Executor σ}
    {other : Executor τ → Executor τ} (alike : Alike related left right)
    (ends : ∀ state state', related state state' → related (final state) (other state')) :
    Alike related (afterwards left final) (afterwards right other) := by
  intro state state' holds
  unfold afterwards
  obtain ⟨value, _, _, ran, ran', holds⟩ | ⟨fault, _, _, ran, ran', holds⟩ :=
    (alike state state' holds).ends
  · rw [ran, ran']
    exact .ok _ (ends _ _ holds)
  · rw [ran, ran']
    exact .error _ (ends _ _ holds)

theorem alike_traced {σ : Type} {machine : Machine σ} {external other : ExternalSteps → Run σ Unit}
    {related : Executor σ → Executor σ → Prop} {step : Step}
    (traces : ∀ state state', related state state' → Matches related
      (setTracing machine state.tracesGas state) (setTracing machine state'.tracesGas state'))
    (quiets : ∀ state state', related state state' →
      related (state.quiet machine) (state'.quiet machine))
    (runs : Alike related (stepWith machine external step) (stepWith machine other step)) :
    Alike related (tracedStep machine external step) (tracedStep machine other step) :=
  alike_get_bind fun state state' holds =>
    (traces state state' holds).bind fun _ => alike_afterwards runs quiets

theorem alike_takeOver (result : Except ε α) (wrap : ε → Fault) :
    Alike related (ofExcept result wrap) (ofExcept result wrap) := by
  unfold ofExcept
  split
  · exact alike_pure _
  · exact alike_throw _

end Run
end ChainScenario
