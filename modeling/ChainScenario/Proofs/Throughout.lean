import ChainScenario.Proofs.Nesting
import ChainScenario.Proofs.Reachable

/-!
# What holds throughout a run

The steps of a scenario, and of all files that it runs, work on one ledger. Main statement:
`Running.invariant`, what every step that is not external maintains holds of the ledger in every state
that the run comes to.
-/
namespace ChainScenario.Run

open Expression (References)

variable {σ : Type} {inv : World → Prop}

/-! ## Lists of actions -/

/-- What each action of a list maintains where it runs holds wherever one of them runs, and at the end. -/
theorem forM_invariant {ε τ α : Type} (holds : τ → Prop) (action : α → EStateM ε τ PUnit)
    {items : List α} {start : τ} (begins : holds start)
    (each : ∀ before item after state, items = before ++ item :: after →
      before.forM action start = .ok () state → holds state → holds (stateAfter (action item state))) :
    (∀ before after state, items = before ++ after → before.forM action start = .ok () state →
      holds state) ∧ holds (stateAfter (items.forM action start)) := by
  -- By induction on the list, from every state: the first action leaves the others to start from.
  induction items generalizing start with
  | nil =>
    refine ⟨fun before after state split ran => ?_, begins⟩
    obtain ⟨rfl, -⟩ := List.append_eq_nil_iff.1 split.symm
    obtain ⟨-, rfl⟩ := ok_pure.1 ran
    exact begins
  | cons item rest ih =>
    have first := each [] item rest start rfl rfl begins
    change _ ∧ holds (stateAfter ((action item >>= fun _ => rest.forM action) start))
    cases acted : action item start with
    | error fault middle =>
      rw [acted] at first
      refine ⟨fun before after state split ran => ?_, ?_⟩
      · cases before with
        | nil =>
          obtain ⟨-, rfl⟩ := ok_pure.1 ran
          exact begins
        | cons other others =>
          obtain ⟨rfl, -⟩ := List.cons.inj split
          change (action item >>= fun _ => others.forM action) start = _ at ran
          rw [bind_error _ acted] at ran
          cases ran
      · rw [bind_error _ acted]
        exact first
    | ok done middle =>
      rw [acted] at first
      obtain ⟨within, last⟩ := ih first fun before other after state split ran =>
        each (item :: before) other after state (by rw [split]; rfl) ((bind_ok _ acted).trans ran)
      refine ⟨fun before after state split ran => ?_, ?_⟩
      · cases before with
        | nil =>
          obtain ⟨-, rfl⟩ := ok_pure.1 ran
          exact begins
        | cons other others =>
          obtain ⟨rfl, rest⟩ := List.cons.inj split
          change (action item >>= fun _ => others.forM action) start = _ at ran
          rw [bind_ok _ acted] at ran
          exact within others after state rest ran
      · rw [bind_ok _ acted]
        exact last

/-! ## One scenario -/

section Scenarios

variable (costs : ∀ world costs, inv world → inv (World.withCosts world costs))

theorem world_setTracing (machine : Machine σ) (enable : Bool) :
    Keeps Executor.world (setTracing machine enable) := by
  refine keeps_modify fun executor => ?_
  split <;> rfl

theorem world_quiet (machine : Machine σ) (executor : Executor σ) :
    (executor.quiet machine).world = executor.world := by
  unfold Executor.quiet
  split <;> rfl

include costs

theorem maintains_startMachine (machine : Machine σ) (schedule : GasSchedule) :
    Maintains (fun executor : Executor σ => inv executor.world) (startMachine machine schedule) := by
  have machines : ∀ {α : Type} (action : EStateM Machine.Fault σ α),
      Maintains (fun executor : Executor σ => inv executor.world) (onMachine action) := by
    intro α action executor holds
    have kept : Keeps (fun executor : Executor σ => id executor.world) (onMachine action) :=
      keeps_onMachine action
    have same : (stateAfter (onMachine action executor)).world = executor.world := kept executor
    rw [same]
    exact holds
  refine maintains_get_bind fun executor holds => ?_
  split
  · refine ((machines _).bind fun given => (maintains_modify ?_).bind fun _ => ?_) executor holds
    · exact fun executor holds => costs executor.world given holds
    · exact (machines _).bind fun _ => maintains_modify fun _ holds => holds
  · exact holds

variable {setup : Setup σ} {scenario : Scenario} {references : References} {start : Executor σ}

/-- What the steps of a scenario maintain where it comes to them holds where it comes to them, and when it
ends. -/
theorem scenario_invariant (begins : inv start.world)
    (each : ∀ step state, Comes setup scenario references start step state → inv state.world →
      inv (stateAfter (runStep setup step state)).world) :
    (∀ step state, Comes setup scenario references start step state → inv state.world) ∧
      inv (stateAfter (scenarioWith setup.machine (externalSteps setup) scenario references
        start)).world := by
  obtain ⟨entered, enters⟩ : ∃ entered,
      enterScenario scenario references start = .ok () entered := ⟨_, rfl⟩
  have inside : inv entered.world := by
    rw [ok_modify.1 enters]
    exact begins
  have running := maintains_startMachine costs setup.machine scenario.gasSchedule entered inside
  cases starts : startMachine setup.machine scenario.gasSchedule entered with
  | error fault stopped =>
    -- a scenario whose machine does not start comes to no step
    rw [starts] at running
    refine ⟨?_, ?_⟩
    · rintro step state ⟨before, after, -, ran⟩
      rw [upTo, bind_ok _ enters, bind_error _ starts] at ran
      cases ran
    · rw [scenarioWith, bind_ok _ enters, bind_error _ starts]
      exact running
  | ok done started =>
    rw [starts] at running
    change inv started.world at running
    have traced : ∀ middle, ∃ state, setTracing setup.machine (Executor.tracesGas middle) middle =
        .ok () state ∧ state.world = middle.world := fun middle =>
      ⟨_, rfl, world_setTracing setup.machine _ middle⟩
    -- a step runs in the state that tracing was set in, which is the one that the scenario comes to it in
    obtain ⟨within, last⟩ := forM_invariant (inv ∘ Executor.world)
      (tracedStep setup.machine (externalSteps setup)) running
      fun before step after middle split ran holds => by
        obtain ⟨state, traces, same⟩ := traced middle
        have comes : Comes setup scenario references start step state := by
          refine ⟨before, after, split, ?_⟩
          rw [upTo, bind_ok _ enters, bind_ok _ starts, bind_ok _ ran]
          exact traces
        have acted := each step state comes (by rw [same]; exact holds)
        change inv (stateAfter ((setTracing setup.machine middle.tracesGas >>= fun _ =>
          afterwards (runStep setup step) (Executor.quiet setup.machine)) middle)).world
        rw [bind_ok _ traces, stateAfter_afterwards, world_quiet]
        exact acted
    refine ⟨?_, ?_⟩
    · rintro step state ⟨before, after, split, ran⟩
      rw [upTo, bind_ok _ enters, bind_ok _ starts] at ran
      obtain ⟨_, middle, steps, rest⟩ := ok_bind.1 ran
      obtain ⟨other, traces, same⟩ := traced middle
      obtain rfl : other = state := by
        change setTracing setup.machine middle.tracesGas middle = _ at rest
        rw [traces] at rest
        cases rest
        rfl
      rw [same]
      exact within before (step :: after) middle split steps
    · rw [scenarioWith, bind_ok _ enters, bind_ok _ starts]
      exact last

/-! ## Files within it -/

variable (own : ∀ said step state, Running setup scenario references start said step state →
  (∀ external, step ≠ .externalSteps external) → inv state.world →
    inv (stateAfter (runStep setup step state)).world)

include own

theorem externalSteps_invariant (run : ExternalSteps × Executor σ) :
    ∀ said, Running setup scenario references start said (.externalSteps run.1) run.2 →
      inv run.2.world → inv (stateAfter (externalSteps setup run.1 run.2)).world := by
  -- By induction on how deeply files run each other: inner external steps maintain it already.
  induction run using (@wellFounded_within σ setup).induction with
  | _ run ih =>
    obtain ⟨external, outer⟩ := run
    intro said running holds
    rw [externalSteps_eq]
    split
    · exact holds
    · rename_i allowed
      rw [visitFile]
      split
      · exact holds
      · rename_i known
        rw [stateAfter_afterwards]
        change inv (stateAfter (fileWith setup (externalSteps setup) _ _ _ _)).world
        cases read : readFile setup _ (setup.files.absolute (References.resolve _ external.path)) with
        | error fault =>
          rw [fileWith_eq_throw setup read]
          exact holds
        | ok file =>
          obtain ⟨inner, within⟩ := file
          rw [fileWith_eq_scenarioWith setup read]
          refine (scenario_invariant costs ?_ ?_).2
          · exact holds
          intro step state comes before
          have inside : Within setup external outer step state :=
            ⟨Nat.lt_of_not_le allowed, known, read, comes⟩
          by_cases nests : ∃ nested, step = .externalSteps nested
          · obtain ⟨nested, rfl⟩ := nests
            exact ih (nested, state) inside _ (.nested running inside) before
          · exact own _ _ _ (.nested running inside) (not_exists.1 nests) before

theorem runStep_invariant {said : List (Option Bool)} {step : Step} {state : Executor σ}
    (running : Running setup scenario references start said step state) (holds : inv state.world) :
    inv (stateAfter (runStep setup step state)).world := by
  by_cases nests : ∃ external, step = .externalSteps external
  · obtain ⟨external, rfl⟩ := nests
    exact externalSteps_invariant costs own (external, state) said running holds
  · exact own _ _ _ running (not_exists.1 nests) holds

/-- What every step of a run that is not external maintains holds in every state that the run comes to,
before a step and after it. -/
theorem Running.invariant (begins : inv start.world) {said : List (Option Bool)} {step : Step}
    {state : Executor σ} (running : Running setup scenario references start said step state) :
    inv state.world ∧ inv (stateAfter (runStep setup step state)).world := by
  have before : inv state.world := by
    induction running with
    | own comes =>
      exact (scenario_invariant costs begins fun step state comes =>
        runStep_invariant costs own (.own comes)).1 _ _ comes
    | @nested said external outer _ _ running inside ih =>
      obtain ⟨allowed, known, read, comes⟩ := inside
      refine (scenario_invariant costs (by exact ih) fun step state comes => ?_).1 _ _ comes
      exact runStep_invariant costs own (.nested running ⟨allowed, known, read, comes⟩)
  exact ⟨before, runStep_invariant costs own running before⟩

end Scenarios

/-! ## Steps -/

section Steps

variable {setup : Setup σ}

theorem world_print (text : String) : Keeps Executor.world (print text : Run σ Unit) :=
  keeps_modify fun _ => rfl

theorem world_reportGas (machine : Machine σ) : Keeps Executor.world (reportGas machine) := by
  refine keeps_get.bind fun executor => ?_
  split
  · exact world_print _
  · exact keeps_pure _

theorem world_transactionStep (machine : Machine σ) (step : TransactionStep) (state : Executor σ) :
    (stateAfter (transactionStep machine step state)).world =
      (stateAfter (transact machine step.identifier step.transaction state)).world :=
  congrArg Executor.world (stateAfter_transactionStep machine step state)

/-- Of the steps that are not external only settings and transactions can change the ledger. -/
theorem runStep_maintains {step : Step} {state : Executor σ}
    (own : ∀ external, step ≠ .externalSteps external) (holds : inv state.world)
    (sets : ∀ setting, step = .setState setting → Maintains inv setting.apply)
    (transacts : ∀ sent, step = .transaction sent →
      inv (stateAfter (transact setup.machine sent.identifier sent.transaction state)).world) :
    inv (stateAfter (runStep setup step state)).world := by
  have reports : ∀ action : Run σ Unit,
      (stateAfter ((action >>= fun _ => reportGas setup.machine) state)).world =
        (stateAfter (action state)).world :=
    fun action => view_stateAfter_bind (fun _ => world_reportGas _) state
  cases step with
  | externalSteps nested => exact absurd rfl (own nested)
  | setState step =>
    change inv (stateAfter ((onWorld step.apply id >>= fun _ => reportGas setup.machine) state)).world
    rw [reports]
    exact maintains_onWorld (sets step rfl) id state holds
  | transaction step =>
    change inv (stateAfter ((transactionStep setup.machine step >>= fun _ =>
      reportGas setup.machine) state)).world
    rw [reports, world_transactionStep]
    exact transacts step rfl
  | checkState step =>
    have compares : Keeps Executor.world (checkState step : Run σ Unit) := by
      refine Keeps.bind (keeps_get.bind fun _ => keeps_pure _) fun world => ?_
      refine (keeps_takeOver _ _).bind fun mismatches => ?_
      split
      · exact keeps_throw _
      · exact keeps_pure _
    change inv (stateAfter ((checkState step >>= fun _ => reportGas setup.machine) state)).world
    rw [reports, compares state]
    exact holds
  | dumpState _ =>
    have shows : Keeps Executor.world (dumpState : Run σ Unit) := by
      refine Keeps.bind (keeps_get.bind fun _ => keeps_pure _) fun world => ?_
      exact (keeps_takeOver _ _).bind fun _ => world_print _
    change inv (stateAfter ((dumpState >>= fun _ => reportGas setup.machine) state)).world
    rw [reports, shows state]
    exact holds

end Steps

/-! ## Where a run begins and what it runs -/

section Launched

variable {setup : Setup σ} {scenario : Scenario} {references : References} {start : Executor σ}

/-- A run at top level begins on an empty ledger. -/
theorem Launched.empty (launched : Launched setup scenario references start) :
    start.world.accounts = .empty ∧ start.world.mocks = [] := by
  cases launched with
  | new scenario references => exact ⟨rfl, rfl⟩
  | test obtained ran read =>
    -- the test before it, if there was one, is forgotten
    obtain ⟨tally, middle, -, begins⟩ := ok_bind.1 ran
    obtain ⟨_, ready, begins, ended⟩ := ok_bind.1 begins
    obtain ⟨-, rfl⟩ := ok_pure.1 ended
    obtain ⟨_, printed, -, resets⟩ := ok_bind.1 begins
    rw [ok_modify.1 resets]
    exact ⟨rfl, rfl⟩

/-- Every step of a run stands in the scenario that is run or in a file that was read. -/
theorem Running.listed {said : List (Option Bool)} {step : Step} {state : Executor σ}
    (running : Running setup scenario references start said step state) :
    step ∈ scenario.steps ∨ ∃ outer path within file,
      readFile setup outer path = .ok (file, within) ∧ step ∈ file.steps := by
  cases running with
  | own comes =>
    obtain ⟨before, after, split, -⟩ := comes
    exact .inl (by rw [split]; simp)
  | nested _ inside =>
    obtain ⟨-, -, read, before, after, split, -⟩ := inside
    refine .inr ⟨_, _, _, _, read, ?_⟩
    change _ = before ++ step :: after at split
    rw [withOptions] at split
    rw [split]
    simp

/-- Without external steps every step of a run stands in its scenario. -/
theorem Running.mem_steps (plain : ∀ external, Step.externalSteps external ∉ scenario.steps)
    {said : List (Option Bool)} {step : Step} {state : Executor σ}
    (running : Running setup scenario references start said step state) :
    step ∈ scenario.steps := by
  induction running with
  | own comes =>
    obtain ⟨before, after, split, -⟩ := comes
    rw [split]
    simp
  | nested _ _ ih => exact absurd ih (plain _)

end Launched

end ChainScenario.Run
