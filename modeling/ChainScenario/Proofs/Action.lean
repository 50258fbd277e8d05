import ChainScenario.Builtin.Function
import ChainScenario.Run.Executor

/-!
# Reasoning about actions

An action ends well or with a fault, and leaves a state either way. `ok_bind` and `error_bind` peel
one step off an action; `Keeps` says that a part of the state is the same however the action ends.
-/
namespace ChainScenario

/-! ## One step of an action -/

section Step

variable {ε σ α β : Type}

theorem ok_bind {first : EStateM ε σ α} {next : α → EStateM ε σ β} {start after : σ} {value : β} :
    (first >>= next) start = .ok value after ↔
      ∃ given middle, first start = .ok given middle ∧ next given middle = .ok value after := by
  change EStateM.bind first next start = _ ↔ _
  cases ran : first start with
  | ok given middle =>
    simp only [EStateM.bind, ran, EStateM.Result.ok.injEq]
    constructor
    · intro rest
      exact ⟨given, middle, ⟨rfl, rfl⟩, rest⟩
    · rintro ⟨_, _, ⟨rfl, rfl⟩, rest⟩
      exact rest
  | error fault middle => simp [EStateM.bind, ran]

theorem error_bind {first : EStateM ε σ α} {next : α → EStateM ε σ β} {start after : σ} {fault : ε} :
    (first >>= next) start = .error fault after ↔
      first start = .error fault after ∨
        ∃ given middle, first start = .ok given middle ∧ next given middle = .error fault after := by
  change EStateM.bind first next start = _ ↔ _
  cases ran : first start with
  | ok given middle =>
    simp only [EStateM.bind, ran, reduceCtorEq, false_or, EStateM.Result.ok.injEq]
    constructor
    · intro rest
      exact ⟨given, middle, ⟨rfl, rfl⟩, rest⟩
    · rintro ⟨_, _, ⟨rfl, rfl⟩, rest⟩
      exact rest
  | error thrown middle => simp [EStateM.bind, ran]

theorem bind_ok {first : EStateM ε σ α} {start middle : σ} {given : α}
    (next : α → EStateM ε σ β) (ran : first start = .ok given middle) :
    (first >>= next) start = next given middle := by
  change EStateM.bind first next start = _
  simp [EStateM.bind, ran]

theorem bind_error {first : EStateM ε σ α} {start middle : σ} {fault : ε}
    (next : α → EStateM ε σ β) (ran : first start = .error fault middle) :
    (first >>= next) start = .error fault middle := by
  change EStateM.bind first next start = _
  simp [EStateM.bind, ran]

theorem get_bind (next : σ → EStateM ε σ β) (start : σ) :
    ((get : EStateM ε σ σ) >>= next) start = next start start := rfl

@[simp] theorem ok_pure {value given : α} {start after : σ} :
    (pure given : EStateM ε σ α) start = .ok value after ↔ given = value ∧ after = start := by
  change EStateM.Result.ok given start = _ ↔ _
  rw [EStateM.Result.ok.injEq, @eq_comm _ after]

@[simp] theorem ok_modify {change : σ → σ} {value : PUnit} {start after : σ} :
    (modify change : EStateM ε σ PUnit) start = .ok value after ↔ after = change start := by
  change EStateM.Result.ok PUnit.unit (change start) = _ ↔ _
  simp [eq_comm]

@[simp] theorem ok_throw {fault : ε} {value : α} {start after : σ} :
    (throw fault : EStateM ε σ α) start = .ok value after ↔ False := by
  change EStateM.Result.error fault start = _ ↔ _
  simp

@[simp] theorem error_pure {fault : ε} {given : α} {start after : σ} :
    (pure given : EStateM ε σ α) start = .error fault after ↔ False := by
  change EStateM.Result.ok given start = _ ↔ _
  simp

@[simp] theorem error_get {fault : ε} {start after : σ} :
    (get : EStateM ε σ σ) start = .error fault after ↔ False := by
  change EStateM.Result.ok start start = _ ↔ _
  simp

@[simp] theorem error_modify {change : σ → σ} {fault : ε} {start after : σ} :
    (modify change : EStateM ε σ PUnit) start = .error fault after ↔ False := by
  change EStateM.Result.ok PUnit.unit (change start) = _ ↔ _
  simp

@[simp] theorem error_throw {fault thrown : ε} {start after : σ} :
    (throw thrown : EStateM ε σ α) start = .error fault after ↔ fault = thrown ∧ after = start := by
  change EStateM.Result.error thrown start = _ ↔ _
  simp [eq_comm]

/-- Whether an action ended well with a value and a state as wanted. -/
def endedWith (wanted : α → σ → Bool) : EStateM.Result ε σ α → Bool
  | .ok value state => wanted value state
  | .error _ _ => false

theorem ok_of_endedWith {wanted : α → σ → Bool} {result : EStateM.Result ε σ α}
    (ended : endedWith wanted result = true) :
    ∃ value state, result = .ok value state ∧ wanted value state = true := by
  cases result with
  | ok value state => exact ⟨value, state, rfl, ended⟩
  | error fault state => cases ended

end Step

/-! ## What an action keeps -/

section Keeps

variable {ε σ τ α β : Type}

/-- The state an action leaves. -/
def stateAfter : EStateM.Result ε σ α → σ
  | .ok _ state => state
  | .error _ state => state

/-- A view of the state is the same before and after an action, however it ends. -/
def Keeps (view : σ → τ) (action : EStateM ε σ α) : Prop :=
  ∀ state, view (stateAfter (action state)) = view state

variable {view : σ → τ}

theorem Keeps.ok {action : EStateM ε σ α} {start after : σ} {value : α} (keeps : Keeps view action)
    (ran : action start = .ok value after) : view after = view start := by
  simpa [stateAfter, ran] using keeps start

theorem Keeps.error {action : EStateM ε σ α} {start after : σ} {fault : ε}
    (keeps : Keeps view action) (ran : action start = .error fault after) :
    view after = view start := by
  simpa [stateAfter, ran] using keeps start

theorem Keeps.comp {υ : Type} {action : EStateM ε σ α} (keeps : Keeps view action) (further : τ → υ) :
    Keeps (fun state => further (view state)) action :=
  fun state => congrArg further (keeps state)

theorem keeps_pure (value : α) : Keeps view (pure value : EStateM ε σ α) := fun _ => rfl

theorem keeps_get : Keeps view (get : EStateM ε σ σ) := fun _ => rfl

theorem keeps_throw (fault : ε) : Keeps view (throw fault : EStateM ε σ α) := fun _ => rfl

theorem keeps_modify {change : σ → σ} (same : ∀ state, view (change state) = view state) :
    Keeps view (modify change : EStateM ε σ PUnit) := same

theorem Keeps.bind {first : EStateM ε σ α} {next : α → EStateM ε σ β} (before : Keeps view first)
    (behind : ∀ value, Keeps view (next value)) : Keeps view (first >>= next) := by
  intro state
  -- A first action that fails ends the whole one, so its own frame is all there is.
  cases ran : first state with
  | ok given middle => rw [bind_ok next ran, behind given middle, before.ok ran]
  | error fault middle =>
    rw [bind_error next ran]
    exact before.error ran

/-- A view is the one that a first action leaves if everything behind it keeps the view. -/
theorem view_stateAfter_bind {first : EStateM ε σ α} {next : α → EStateM ε σ β}
    (behind : ∀ value, Keeps view (next value)) (state : σ) :
    view (stateAfter ((first >>= next) state)) = view (stateAfter (first state)) := by
  cases ran : first state with
  | ok given middle => rw [bind_ok next ran, behind given middle, stateAfter]
  | error fault middle => rw [bind_error next ran, stateAfter, stateAfter]

theorem keeps_forM {items : List α} {action : α → EStateM ε σ PUnit}
    (each : ∀ item ∈ items, Keeps view (action item)) : Keeps view (items.forM action) := by
  -- By induction on the items: the list runs one action before the rest.
  induction items with
  | nil => exact keeps_pure _
  | cons item rest ih =>
    change Keeps view (action item >>= fun _ => rest.forM action)
    exact (each item (by simp)).bind fun _ => ih fun other member => each other (by simp [member])

/-- A view of the state is the same before and after an action that starts from some state, however it
ends. -/
def KeepsFrom (view : σ → τ) (start : σ) (action : EStateM ε σ α) : Prop :=
  view (stateAfter (action start)) = view start

theorem keeps_iff_from {action : EStateM ε σ α} :
    Keeps view action ↔ ∀ start, KeepsFrom view start action := Iff.rfl

theorem KeepsFrom.bind {first : EStateM ε σ α} {next : α → EStateM ε σ β} {start : σ}
    (before : KeepsFrom view start first) (behind : ∀ value, Keeps view (next value)) :
    KeepsFrom view start (first >>= next) :=
  (view_stateAfter_bind behind start).trans before

/-- What follows a step that only reads starts from the same state, and knows what was read of it. -/
theorem KeepsFrom.reading {first : EStateM ε σ α} {next : α → EStateM ε σ β} {start : σ}
    (reads : Keeps id first)
    (behind : ∀ value, first start = .ok value start → KeepsFrom view start (next value)) :
    KeepsFrom view start (first >>= next) := by
  cases ran : first start with
  | ok given middle =>
    obtain rfl : middle = start := reads.ok ran
    rw [KeepsFrom, bind_ok next ran, behind given ran]
  | error fault middle =>
    obtain rfl : middle = start := reads.error ran
    rw [KeepsFrom, bind_error next ran, stateAfter]

end Keeps

/-! ## What an action maintains -/

section Maintains

variable {ε σ τ α β : Type} {inv : σ → Prop}

/-- What holds of the state before an action holds of it afterwards, however the action ends. -/
def Maintains (inv : σ → Prop) (action : EStateM ε σ α) : Prop :=
  ∀ state, inv state → inv (stateAfter (action state))

theorem Keeps.maintains {action : EStateM ε σ α} (keeps : Keeps id action) : Maintains inv action := by
  intro state holds
  have same : stateAfter (action state) = state := keeps state
  rwa [same]

theorem maintains_modify {change : σ → σ} (writes : ∀ state, inv state → inv (change state)) :
    Maintains inv (modify change : EStateM ε σ PUnit) := writes

/-- What follows a look at the state may know what holds of it. -/
theorem maintains_get_bind {next : σ → EStateM ε σ β}
    (behind : ∀ state, inv state → inv (stateAfter (next state state))) :
    Maintains inv ((get : EStateM ε σ σ) >>= next) := behind

theorem Maintains.bind {first : EStateM ε σ α} {next : α → EStateM ε σ β}
    (before : Maintains inv first) (behind : ∀ value, Maintains inv (next value)) :
    Maintains inv (first >>= next) := by
  intro state holds
  have middle := before state holds
  cases ran : first state with
  | ok given between =>
    rw [bind_ok next ran]
    rw [ran] at middle
    exact behind given between middle
  | error fault between =>
    rw [bind_error next ran]
    rwa [ran] at middle

theorem maintains_forM {items : List α} {action : α → EStateM ε σ PUnit}
    (each : ∀ item ∈ items, Maintains inv (action item)) : Maintains inv (items.forM action) := by
  induction items with
  | nil => exact (keeps_pure _).maintains
  | cons item rest ih =>
    change Maintains inv (action item >>= fun _ => rest.forM action)
    exact (each item List.mem_cons_self).bind fun _ =>
      ih fun other member => each other (List.mem_cons_of_mem _ member)

end Maintains

/-! ## Actions within larger states -/

section Lifted

variable {ε σ τ α : Type} {view : World → τ}

/-- An executor with another ledger. -/
def Run.Executor.withWorld (executor : Run.Executor σ) (world : World) : Run.Executor σ :=
  { executor with world := world }

@[simp] theorem Run.Executor.world_withWorld (executor : Run.Executor σ) (world : World) :
    (executor.withWorld world).world = world := rfl

@[simp] theorem Run.Executor.withWorld_world (executor : Run.Executor σ) :
    executor.withWorld executor.world = executor := rfl

theorem onWorld_ok {action : EStateM ε World α} {executor : Run.Executor σ} {value : α}
    {after : World} (wrap : ε → Run.Fault) (ran : action executor.world = .ok value after) :
    Run.onWorld action wrap executor = .ok value (executor.withWorld after) := by
  rw [Run.onWorld, ran]
  rfl

theorem onWorld_error {action : EStateM ε World α} {executor : Run.Executor σ} {fault : ε}
    {after : World} (wrap : ε → Run.Fault) (ran : action executor.world = .error fault after) :
    Run.onWorld action wrap executor = .error (wrap fault) (executor.withWorld after) := by
  rw [Run.onWorld, ran]
  rfl

theorem ok_onWorld {action : EStateM ε World α} {wrap : ε → Run.Fault}
    {executor after : Run.Executor σ} {value : α}
    (ran : Run.onWorld action wrap executor = .ok value after) :
    action executor.world = .ok value after.world ∧ after = executor.withWorld after.world := by
  unfold Run.onWorld at ran
  split at ran
  · rename_i ended
    simp only [EStateM.Result.ok.injEq] at ran
    obtain ⟨rfl, rfl⟩ := ran
    exact ⟨ended, rfl⟩
  · simp at ran

theorem ok_onMachine {action : World.Action α} {start after : σ × World} {value : α}
    (ran : Machine.Action.onWorld action start = .ok value after) :
    action start.2 = .ok value after.2 := by
  obtain ⟨state, world⟩ := start
  change action world = _
  cases ended : action world with
  | ok given final =>
    simp only [Machine.Action.onWorld, ended, EStateM.Result.ok.injEq] at ran
    obtain ⟨rfl, rfl⟩ := ran
    rfl
  | error fault final => simp [Machine.Action.onWorld, ended] at ran

theorem ok_onStarted {action : Machine.Action σ α} {executor after : Run.Executor σ} {value : α}
    (ran : Run.onStarted action executor = .ok value after) :
    ∃ machine, action (executor.machine, executor.world) = .ok value (machine, after.world) := by
  unfold Run.onStarted at ran
  split at ran
  · split at ran
    · rename_i machine world ended
      simp only [EStateM.Result.ok.injEq] at ran
      obtain ⟨rfl, rfl⟩ := ran
      exact ⟨machine, ended⟩
    · simp at ran
  · simp at ran

theorem keeps_onWorld {action : EStateM ε World α} (keeps : Keeps view action)
    (wrap : ε → Run.Fault) :
    Keeps (fun executor : Run.Executor σ => view executor.world) (Run.onWorld action wrap) := by
  intro executor
  cases ran : action executor.world with
  | ok value world => simpa [Run.onWorld, ran, stateAfter] using keeps.ok ran
  | error fault world => simpa [Run.onWorld, ran, stateAfter] using keeps.error ran

theorem maintains_onWorld {inv : World → Prop} {action : EStateM ε World α}
    (maintains : Maintains inv action) (wrap : ε → Run.Fault) :
    Maintains (fun executor : Run.Executor σ => inv executor.world) (Run.onWorld action wrap) := by
  intro executor holds
  have after := maintains executor.world holds
  cases ran : action executor.world with
  | ok value world => simpa [Run.onWorld, ran, stateAfter] using after
  | error fault world => simpa [Run.onWorld, ran, stateAfter] using after

theorem keeps_onMachine {action : World.Action α} (keeps : Keeps view action) :
    Keeps (fun state : σ × World => view state.2) (Machine.Action.onWorld action) := by
  rintro ⟨state, world⟩
  cases ran : action world with
  | ok value after => simpa [Machine.Action.onWorld, ran, stateAfter] using keeps.ok ran
  | error fault after => simpa [Machine.Action.onWorld, ran, stateAfter] using keeps.error ran

theorem keeps_onStarted {action : Machine.Action σ α}
    (keeps : Keeps (fun state : σ × World => view state.2) action) :
    Keeps (fun executor : Run.Executor σ => view executor.world) (Run.onStarted action) := by
  intro executor
  unfold Run.onStarted
  split
  · cases ran : action (executor.machine, executor.world) with
    | ok value after => exact keeps.ok ran
    | error fault after => exact keeps.error ran
  · rfl

end Lifted
end ChainScenario
