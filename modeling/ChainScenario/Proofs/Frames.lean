import ChainScenario.Proofs.Atomicity
import ChainScenario.Proofs.Reading
import ChainScenario.Run.Suite

/-!
# What belongs to the file that is being run

An executor keeps a frame for the file that it runs: its references, its switches and how deeply it is
nested. Steps other than external ones leave the frame alone. `upTo` runs a scenario up to a step, and
`scenarioWith_eq_upTo` ties it to the scenario as it is run: what comes after `upTo` is the step itself.
Main statements: `framed_stepWith`, and `frame_upTo`, which says in what frame the steps of a scenario run.
-/
namespace ChainScenario

open Expression (References)

theorem Keeps.maintains_eq {ε τ υ α : Type} {view : τ → υ} {action : EStateM ε τ α}
    (keeps : Keeps view action) (value : υ) : Maintains (fun state => view state = value) action :=
  fun state same => (keeps state).trans same

namespace Run

/-- What an executor keeps for the file that is being run. -/
structure Frame where
  started : Bool
  checkGas : Bool
  gasSwitches : List Bool
  references : Option References
  depth : Nat

def Executor.frame {σ : Type} (executor : Executor σ) : Frame :=
  ⟨executor.started, executor.checkGas, executor.gasSwitches, executor.references, executor.depth⟩

variable {σ : Type}

/-! ## Operations that leave the frame alone -/

section Operations

variable {ε τ α : Type} {view : Executor σ → τ}

theorem framed_onWorld (action : EStateM ε World α) (wrap : ε → Fault) :
    Keeps Executor.frame (onWorld action wrap : Run σ α) := by
  intro executor
  unfold onWorld
  split <;> rfl

theorem framed_onStarted (action : Machine.Action σ α) :
    Keeps Executor.frame (onStarted action) := by
  intro executor
  unfold onStarted
  split
  · split <;> rfl
  · rfl

theorem framed_print (text : String) : Keeps Executor.frame (print text : Run σ Unit) :=
  keeps_modify fun _ => rfl

theorem keeps_takeOver (result : Except ε α) (wrap : ε → Fault) :
    Keeps view (ofExcept result wrap) := by
  unfold ofExcept
  split
  · exact keeps_pure _
  · exact keeps_throw _

theorem keeps_world : Keeps view (world : Run σ World) := keeps_get.bind fun _ => keeps_pure _

theorem keeps_attempt {action : Run σ α} (keeps : Keeps view action) :
    Keeps view (attempt action) := by
  intro executor
  rw [attempt]
  -- Whether the action fails or not, its state is the one that goes on.
  split <;> rename_i ran
  · exact keeps.ok ran
  · exact keeps.error ran

theorem stateAfter_afterwards {action : Run σ α} {final : Executor σ → Executor σ}
    (executor : Executor σ) :
    stateAfter (afterwards action final executor) = final (stateAfter (action executor)) := by
  rw [afterwards]
  split <;> rename_i ran <;> rw [ran] <;> rfl

theorem maintains_afterwards {inv : Executor σ → Prop} {action : Run σ α}
    {final : Executor σ → Executor σ} (maintains : Maintains inv action)
    (ends : ∀ executor, inv executor → inv (final executor)) :
    Maintains inv (afterwards action final) := by
  intro executor holds
  rw [stateAfter_afterwards]
  exact ends _ (maintains executor holds)

end Operations

/-! ## Transactions -/

section Transactions

variable (machine : Machine σ)

private theorem framed_printGas (tx description : String) (given : UInt64) (output : CallOutput) :
    Keeps Executor.frame (printGas tx description given output : Run σ Unit) := by
  refine keeps_get.bind fun executor => ?_
  split
  · exact framed_print _
  · exact keeps_pure _

private theorem framed_moveTokens (call : Call) :
    Keeps Executor.frame (moveTokens call : Run σ CallOutput) := by
  refine (framed_onWorld _ _).bind fun output => ?_
  split
  · exact keeps_pure _
  · exact keeps_throw _

private theorem framed_callContract (tx : String) (transaction : Transaction) :
    Keeps Executor.frame (callContract machine tx transaction) := by
  refine (keeps_receiverOf transaction).bind fun receiver => ?_
  split
  · exact keeps_throw _
  · dsimp only
    split
    · exact (framed_moveTokens _).bind fun _ => framed_onStarted _
    · exact framed_onStarted _

private theorem framed_outcome (tx : String) (transaction : Transaction) (gas : UInt64) :
    Keeps Executor.frame (outcome machine tx transaction gas) := by
  have printed : ∀ {action : Run σ CallOutput} {description : String} {given : UInt64},
      Keeps Executor.frame action → Keeps Executor.frame (action >>= fun output =>
        printGas tx description given output >>= fun _ => pure output) :=
    fun keeps => keeps.bind fun _ => (framed_printGas _ _ _ _).bind fun _ => keeps_pure _
  unfold outcome
  split
  · exact printed (framed_onStarted _)
  · exact framed_callContract _ _ _
  · exact printed (framed_callContract _ _ _)
  · exact printed (framed_callContract _ _ _)
  · split
    · exact keeps_pure _
    · exact framed_moveTokens _
  · exact (keeps_receiverOf _).bind fun _ => keeps_pure _

private theorem framed_applyOutcome (transaction : Transaction) (output : CallOutput) :
    Keeps Executor.frame (applyOutcome transaction output : Run σ Unit) := by
  unfold applyOutcome
  dsimp only
  split
  · refine (framed_onWorld _ _).bind fun _ => (framed_onWorld _ _).bind fun _ => ?_
    split
    · exact keeps_throw _
    · exact keeps_pure _
  · exact (framed_onWorld _ _).bind fun _ => keeps_pure _

private theorem framed_perform (tx : String) (transaction : Transaction) (gas : UInt64) :
    Keeps Executor.frame (perform machine tx transaction gas) := by
  refine keeps_world.bind fun world => ?_
  split
  · refine (framed_outcome _ _ _ _).bind fun output => ?_
    split
    · exact (framed_applyOutcome _ _).bind fun _ => keeps_pure _
    · exact keeps_pure _
  · exact keeps_pure _

private theorem framed_bracket {action : Run σ CallOutput} (keeps : Keeps Executor.frame action) :
    Keeps Executor.frame (bracket action) := by
  refine (framed_onWorld _ _).bind fun _ => (keeps_attempt keeps).bind fun ended => ?_
  split
  · split
    · exact (framed_onWorld _ _).bind fun _ => keeps_pure _
    · exact (framed_onWorld _ _).bind fun _ => keeps_pure _
  · exact (framed_onWorld _ _).bind fun _ => keeps_throw _

theorem framed_transact (tx : String) (transaction : Transaction) :
    Keeps Executor.frame (transact machine tx transaction) := by
  unfold transact
  dsimp only
  split
  · exact (framed_onWorld _ _).bind fun _ => framed_bracket (framed_perform _ _ _ _)
  · exact framed_bracket (framed_perform _ _ _ _)

theorem framed_transactionStep (step : TransactionStep) :
    Keeps Executor.frame (transactionStep machine step) :=
  (framed_transact _ _ _).bind fun _ => keeps_get.bind fun _ => keeps_takeOver _ _

/-- What is expected of a transaction has no part in what its step leaves behind. -/
theorem stateAfter_transactionStep (step : TransactionStep) (executor : Executor σ) :
    stateAfter (transactionStep machine step executor) =
      stateAfter (transact machine step.identifier step.transaction executor) := by
  change id (stateAfter _) = id (stateAfter _)
  exact view_stateAfter_bind (fun _ => keeps_get.bind fun _ => keeps_takeOver _ _) executor

end Transactions

/-! ## Steps -/

section Steps

variable (machine : Machine σ) {external : ExternalSteps → Run σ Unit}

/-- What settings, transactions and prints keep, every step keeps that is not external. -/
theorem keeps_stepWith {τ : Type} {view : Executor σ → τ}
    (sets : ∀ step : SetState, Keeps view (onWorld step.apply id))
    (transacts : ∀ step, Keeps view (transactionStep machine step))
    (prints : ∀ text, Keeps view (print text)) {step : Step}
    (own : ∀ nested, step ≠ .externalSteps nested) :
    Keeps view (stepWith machine external step) := by
  have reports : Keeps view (reportGas machine) := by
    refine keeps_get.bind fun executor => ?_
    split
    · exact prints _
    · exact keeps_pure _
  cases step with
  | externalSteps nested => exact absurd rfl (own nested)
  | setState step => exact (sets step).bind fun _ => reports
  | checkState step =>
    have compares : Keeps view (checkState step : Run σ Unit) := by
      refine keeps_world.bind fun world => (keeps_takeOver _ _).bind fun mismatches => ?_
      split
      · exact keeps_throw _
      · exact keeps_pure _
    exact compares.bind fun _ => reports
  | transaction step => exact (transacts step).bind fun _ => reports
  | dumpState _ =>
    have shows : Keeps view (dumpState : Run σ Unit) :=
      keeps_world.bind fun world => (keeps_takeOver _ _).bind fun _ => prints _
    exact shows.bind fun _ => reports

theorem framed_setTracing (enable : Bool) : Keeps Executor.frame (setTracing machine enable) := by
  refine keeps_modify fun executor => ?_
  split <;> rfl

theorem frame_quiet (executor : Executor σ) : (executor.quiet machine).frame = executor.frame := by
  unfold Executor.quiet
  split <;> rfl

/-- Steps other than external ones leave the frame alone. -/
theorem framed_stepWith {step : Step} (own : ∀ nested, step ≠ .externalSteps nested) :
    Keeps Executor.frame (stepWith machine external step) :=
  keeps_stepWith machine (fun _ => framed_onWorld _ _) (framed_transactionStep machine)
    framed_print own

theorem framed_tracedStep {step : Step} (own : ∀ nested, step ≠ .externalSteps nested) :
    Keeps Executor.frame (tracedStep machine external step) := by
  refine keeps_get.bind fun _ => (framed_setTracing machine _).bind fun _ => fun executor => ?_
  rw [stateAfter_afterwards, frame_quiet]
  exact framed_stepWith machine own executor

/-- What external steps maintain of the frame, all steps maintain. -/
theorem maintains_stepWith (inv : Frame → Prop)
    (nested : ∀ step, Maintains (fun executor => inv executor.frame) (external step)) (step : Step) :
    Maintains (fun executor => inv executor.frame) (stepWith machine external step) := by
  intro executor holds
  cases step with
  | externalSteps step => exact nested step executor holds
  | _ => rwa [framed_stepWith machine (by simp) executor]

theorem maintains_traced {inv : Executor σ → Prop} {step : Step}
    (traces : ∀ enable, Maintains inv (setTracing machine enable))
    (quiets : ∀ executor, inv executor → inv (executor.quiet machine))
    (runs : Maintains inv (stepWith machine external step)) :
    Maintains inv (tracedStep machine external step) :=
  maintains_get_bind fun executor holds =>
    (traces executor.tracesGas).bind (fun _ => maintains_afterwards runs quiets) executor holds

theorem maintains_tracedStep (inv : Frame → Prop)
    (nested : ∀ step, Maintains (fun executor => inv executor.frame) (external step)) (step : Step) :
    Maintains (fun executor => inv executor.frame) (tracedStep machine external step) := by
  refine maintains_traced machine ?_ ?_ (maintains_stepWith machine inv nested step)
  · intro enable executor holds
    rwa [framed_setTracing machine enable executor]
  · intro executor holds
    rwa [frame_quiet machine executor]

end Steps

/-! ## Scenarios -/

/-- The frame in which the steps of a scenario run. -/
def Frame.inside (frame : Frame) (scenario : Scenario) (references : References) : Frame where
  started := true
  checkGas := scenario.checkGas
  gasSwitches :=
    if !frame.started || scenario.isNewTest then [scenario.traceGas] else frame.gasSwitches
  references := some references
  depth := frame.depth

/-- Runs a scenario up to where a step of it runs, the steps before it being given. -/
def upTo (machine : Machine σ) (external : ExternalSteps → Run σ Unit) (scenario : Scenario)
    (references : References) (before : List Step) : Run σ Unit := do
  enterScenario scenario references
  startMachine machine scenario.gasSchedule
  before.forM (tracedStep machine external)
  setTracing machine (← get).tracesGas

section Scenarios

variable (machine : Machine σ) {external : ExternalSteps → Run σ Unit} {scenario : Scenario}
  {references : References}

/-- A scenario runs up to a step, runs it, and goes on with the steps after it. -/
theorem scenarioWith_eq_upTo {before after : List Step} {step : Step}
    (steps : scenario.steps = before ++ step :: after) :
    scenarioWith machine external scenario references =
      (do
        upTo machine external scenario references before
        afterwards (stepWith machine external step) (Executor.quiet machine)
        after.forM (tracedStep machine external)) := by
  simp only [scenarioWith, upTo, steps, List.forM_eq_forM, List.forM_append, List.forM_cons,
    tracedStep, bind_assoc]

theorem framed_startMachine (schedule : GasSchedule) :
    Keeps (fun executor : Executor σ => { executor.frame with started := true })
      (startMachine machine schedule) := by
  have machines : ∀ {α : Type} (action : EStateM Machine.Fault σ α),
      Keeps (fun executor : Executor σ => { executor.frame with started := true })
        (onMachine action) := by
    intro α action executor
    unfold onMachine
    split <;> rfl
  -- The costs go to the ledger and the new state to the machine; of the frame only `started` is written.
  unfold startMachine
  refine keeps_get.bind fun executor => ?_
  split
  · refine (machines _).bind fun costs => (keeps_modify ?_).bind fun _ => ?_
    · exact fun _ => rfl
    · exact (machines _).bind fun _ => keeps_modify fun _ => rfl
  · exact keeps_pure _

theorem startMachine_of_started {schedule : GasSchedule} {executor : Executor σ}
    (started : executor.started) : startMachine machine schedule executor = .ok () executor := by
  rw [startMachine, get_bind, started]
  rfl

theorem ok_startMachine {schedule : GasSchedule} {executor after : Executor σ}
    (ran : startMachine machine schedule executor = .ok () after) : after.started := by
  cases started : executor.started with
  | true =>
    rw [startMachine_of_started machine started] at ran
    obtain ⟨-, rfl⟩ := (EStateM.Result.ok.injEq ..).mp ran
    exact started
  | false =>
    rw [startMachine, get_bind, started] at ran
    obtain ⟨costs, _, -, rest⟩ := ok_bind.1 ran
    obtain ⟨_, _, -, rest⟩ := ok_bind.1 rest
    obtain ⟨_, _, -, rest⟩ := ok_bind.1 rest
    rw [ok_modify.1 rest]

/-- External steps leave the frame of a run that has started. -/
def Restores (external : ExternalSteps → Run σ Unit) : Prop :=
  ∀ step executor, executor.started → (stateAfter (external step executor)).frame = executor.frame

theorem Restores.maintains (restores : Restores external) {frame : Frame} (started : frame.started)
    (step : ExternalSteps) :
    Maintains (fun executor => executor.frame = frame) (external step) := by
  rintro executor rfl
  exact restores step executor started

/-- A scenario that gets as far as its steps runs them in its own frame. -/
theorem frame_entered {executor entered started : Executor σ}
    (enters : enterScenario scenario references executor = .ok () entered)
    (starts : startMachine machine scenario.gasSchedule entered = .ok () started) :
    started.frame = executor.frame.inside scenario references := by
  -- Entering sets all of the frame but `started`, which starting the machine sets.
  have kept := (framed_startMachine machine _).ok starts
  have running : started.frame = { started.frame with started := true } := by
    rw [Executor.frame, ok_startMachine machine starts]
  rw [running, kept, ok_modify.1 enters]
  rfl

theorem frame_upTo (restores : Restores external) {before : List Step}
    {executor state : Executor σ}
    (ran : upTo machine external scenario references before executor = .ok () state) :
    state.frame = executor.frame.inside scenario references := by
  obtain ⟨_, entered, enters, rest⟩ := ok_bind.1 ran
  obtain ⟨_, started, starts, rest⟩ := ok_bind.1 rest
  obtain ⟨_, behind, steps, rest⟩ := ok_bind.1 rest
  obtain ⟨_, _, looks, traces⟩ := ok_bind.1 rest
  obtain ⟨rfl, rfl⟩ := (EStateM.Result.ok.injEq ..).mp looks
  -- Once entered, the frame is what every step before this one leaves alone.
  have kept := maintains_forM (fun step (_ : step ∈ before) =>
    maintains_tracedStep machine (· = _) (restores.maintains rfl) step) started
    (frame_entered machine enters starts)
  rw [steps] at kept
  exact ((framed_setTracing machine _).ok traces).trans kept

/-- In a run that has started, a scenario runs its steps at once. -/
theorem scenarioWith_of_started (external : ExternalSteps → Run σ Unit) (scenario : Scenario)
    (references : References) {executor : Executor σ} (started : executor.started) :
    ∃ inside, scenarioWith machine external scenario references executor =
        scenario.steps.forM (tracedStep machine external) inside ∧
      inside.world = executor.world ∧
      inside.frame = executor.frame.inside scenario references := by
  obtain ⟨inside, enters⟩ : ∃ inside,
      enterScenario scenario references executor = .ok () inside := ⟨_, rfl⟩
  have starts : startMachine machine scenario.gasSchedule inside = .ok () inside := by
    rw [ok_modify.1 enters]
    exact startMachine_of_started machine started
  refine ⟨inside, ?_, ?_, frame_entered machine enters starts⟩
  · rw [scenarioWith, bind_ok _ enters, bind_ok _ starts]
  · rw [ok_modify.1 enters]

/-- A scenario leaves a run that has started in the frame of the scenario, however it ends. -/
theorem frame_scenarioWith (restores : Restores external) {executor : Executor σ}
    (started : executor.started) :
    (stateAfter (scenarioWith machine external scenario references executor)).frame =
      executor.frame.inside scenario references := by
  obtain ⟨inside, runs, -, frame⟩ :=
    scenarioWith_of_started machine external scenario references started
  rw [runs]
  -- External steps give the frame back and no other step writes it, so it is an invariant of the steps.
  exact maintains_forM
    (fun step _ => maintains_tracedStep machine (· = _) (restores.maintains rfl) step) inside frame

theorem keeps_depth_scenarioWith (nested : ∀ step, Keeps Executor.depth (external step)) :
    Keeps Executor.depth (scenarioWith machine external scenario references) := by
  have enters : Keeps Executor.depth (enterScenario scenario references : Run σ Unit) :=
    keeps_modify fun _ => rfl
  have starts : Keeps Executor.depth (startMachine machine scenario.gasSchedule) :=
    (framed_startMachine machine _).comp Frame.depth
  refine enters.bind fun _ => starts.bind fun _ => fun executor => ?_
  have steps : ∀ step ∈ scenario.steps, Maintains (fun state => state.depth = executor.depth)
      (tracedStep machine external step) := fun step _ =>
    maintains_tracedStep machine (·.depth = executor.depth) (fun step => (nested step).maintains_eq _)
      step
  exact maintains_forM steps executor rfl

end Scenarios

/-! ## Files -/

section Files

variable (setup : Setup σ)

theorem fileWith_eq_scenarioWith {external : ExternalSteps → Run σ Unit}
    {references within : References} {path : String} {options : FileOptions} {scenario : Scenario}
    (read : readFile setup references (setup.files.absolute path) = .ok (scenario, within)) :
    fileWith setup external references path options =
      scenarioWith setup.machine external (withOptions options scenario) within := by
  rw [fileWith, read]
  rfl

theorem fileWith_eq_throw {external : ExternalSteps → Run σ Unit} {references : References}
    {path : String} {options : FileOptions} {fault : Fault}
    (unread : readFile setup references (setup.files.absolute path) = .error fault) :
    fileWith setup external references path options = throw fault := by
  rw [fileWith, unread]
  rfl

theorem keeps_depth_fileWith {external : ExternalSteps → Run σ Unit}
    (nested : ∀ step, Keeps Executor.depth (external step)) (references : References) (path : String)
    (options : FileOptions) :
    Keeps Executor.depth (fileWith setup external references path options) :=
  (keeps_takeOver _ _).bind fun _ => keeps_depth_scenarioWith _ nested

/-- Runs the file of external steps; `nested` runs the files that it names in turn. -/
def visitFile (nested : ExternalSteps → Run σ Unit) (step : ExternalSteps) : Run σ Unit :=
  fun outer =>
    match outer.references with
    | none => .error (.noContext step.path) outer
    | some references =>
      afterwards (fileWith setup nested references (references.resolve step.path) {})
        (Executor.leaveFile outer)
        (outer.enterFile (step.traceGas.getD outer.tracesGas))

theorem externalStepsWithin_succ (levels : Nat) (step : ExternalSteps) :
    externalStepsWithin setup (levels + 1) step =
      visitFile setup (externalStepsWithin setup levels) step := by
  funext outer
  rw [externalStepsWithin, get_bind, visitFile]
  cases outer.references with
  | none => rfl
  | some references => rfl

/-- The frame that an outer file goes on with. -/
def Frame.resumed (outer frame : Frame) : Frame where
  started := frame.started
  checkGas := outer.checkGas
  gasSwitches := frame.gasSwitches.tail
  references := outer.references
  depth := frame.depth - 1

theorem frame_leaveFile (outer executor : Executor σ) :
    (outer.leaveFile executor).frame = outer.frame.resumed executor.frame := rfl

theorem keeps_depth_visitFile {nested : ExternalSteps → Run σ Unit}
    (keeps : ∀ step, Keeps Executor.depth (nested step)) (step : ExternalSteps) :
    Keeps Executor.depth (visitFile setup nested step) := by
  intro outer
  rw [visitFile]
  split
  · rfl
  · -- Within the file the depth is one more, which is taken back when it is left.
    rw [stateAfter_afterwards]
    exact congrArg (· - 1) (keeps_depth_fileWith setup keeps _ _ _ _)

theorem keeps_depth_externalStepsWithin (levels : Nat) (step : ExternalSteps) :
    Keeps Executor.depth (externalStepsWithin setup levels step) := by
  induction levels generalizing step with
  | zero => exact keeps_throw _
  | succ levels ih =>
    rw [externalStepsWithin_succ]
    exact keeps_depth_visitFile setup ih step

end Files

end Run
end ChainScenario
