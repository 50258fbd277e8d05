import ChainScenario.Proofs.Frames
import ChainScenario.Run.Suite

/-!
# Executors between runs

What a new executor becomes by anything that can be run at top level, however it ends, and by changes of
its ledger from outside. `upToTest` runs a suite up to one of its files, and `foldlM_suiteFile_eq` ties it
to the suite as it is run: what comes after `upToTest` is the run of the file. Main statement:
`Obtained.depth_eq_zero`, no file is within another one then.
-/
namespace ChainScenario.Run

open Expression (References)

variable {σ : Type}

/-! ## Suites -/

section Suites

/-- The options under which a suite runs its files. -/
def Suite.options (suite : Suite) : FileOptions :=
  { newTest := true, forceTraceGas := suite.forceTraceGas }

variable (setup : Setup σ) (references : References) (suite : Suite) (exclusions : List Glob)

/-- Names a file of a suite that is run next, and forgets what ran before it. -/
def beginTest (path : String) : Run σ Unit := do
  print s!"Scenario: {(Path.relativeTo? suite.general path).getD path} ... "
  reset setup.machine

/-- Runs a suite up to where one of its files is run, the files before it being given. -/
def upToTest (before : List String) (path : String) : Run σ Tally := do
  let tally ← before.foldlM (suiteFile setup references suite exclusions) {}
  beginTest setup suite path
  return tally

/-- Counts a file that was run. -/
def count (tally : Tally) : Except Fault Unit → Run σ Tally
  | .ok () => do
    printLine "  ok"
    return { tally with passed := tally.passed + 1 }
  | .error fault => do
    printLine s!"  FAIL: {fault.message}"
    return { tally with failed := tally.failed + 1 }

theorem suiteFile_eq {path : String} (included : exclusions.any (·.isMatch path) = false)
    (tally : Tally) :
    suiteFile setup references suite exclusions tally path =
      (do
        beginTest setup suite path
        let ended ← attempt (runFile setup references path suite.options)
        count tally ended) := by
  -- The sides differ only in where it is asked how the file ended.
  simp only [suiteFile, beginTest, included, bind_assoc, Bool.false_eq_true, if_false]
  refine bind_congr fun _ => bind_congr fun _ => bind_congr fun ended => ?_
  cases ended <;> rfl

/-- A suite runs up to a file, runs it, counts it, and goes on with the files after it. -/
theorem foldlM_suiteFile_eq {before after : List String} {path : String}
    (included : exclusions.any (·.isMatch path) = false) :
    (before ++ path :: after).foldlM (suiteFile setup references suite exclusions) {} =
      (do
        let tally ← upToTest setup references suite exclusions before path
        let ended ← attempt (runFile setup references path suite.options)
        let tally ← count tally ended
        after.foldlM (suiteFile setup references suite exclusions) tally) := by
  simp only [List.foldlM_append, List.foldlM_cons, upToTest,
    suiteFile_eq setup references suite exclusions included, bind_assoc, pure_bind]

theorem maintains_attempt {inv : Executor σ → Prop} {action : Run σ α}
    (maintains : Maintains inv action) : Maintains inv (attempt action) := by
  intro executor holds
  have after := maintains executor holds
  rw [attempt]
  split <;> rename_i ran <;> rwa [ran] at after

theorem maintains_foldlM {ε τ α β : Type} {inv : τ → Prop} {action : β → α → EStateM ε τ β}
    (each : ∀ value item, Maintains inv (action value item)) (items : List α) (value : β) :
    Maintains inv (items.foldlM action value) := by
  induction items generalizing value with
  | nil => exact (keeps_pure _).maintains
  | cons item rest ih =>
    rw [List.foldlM_cons]
    exact (each value item).bind ih

variable {inv : Executor σ → Prop} (prints : ∀ text, Maintains inv (print text))
  (resets : Maintains inv (reset setup.machine))
  (tests : ∀ path, Maintains inv (runFile setup references path suite.options))

include prints resets tests

/-- What prints, resets and tests maintain, a suite maintains. -/
theorem maintains_suiteFile (tally : Tally) (path : String) :
    Maintains inv (suiteFile setup references suite exclusions tally path) := by
  refine (prints _).bind fun _ => ?_
  dsimp only
  split
  · exact (prints _).bind fun _ => (keeps_pure _).maintains
  · refine resets.bind fun _ => (maintains_attempt (tests path)).bind fun ended => ?_
    split
    · exact (prints _).bind fun _ => (keeps_pure _).maintains
    · exact (prints _).bind fun _ => (keeps_pure _).maintains

theorem maintains_upToTest (before : List String) (path : String) :
    Maintains inv (upToTest setup references suite exclusions before path) := by
  refine (maintains_foldlM (fun _ _ => ?_) _ _).bind fun _ =>
    ((prints _).bind fun _ => resets).bind fun _ => (keeps_pure _).maintains
  exact maintains_suiteFile setup references suite exclusions prints resets tests _ _

theorem maintains_runSuite : Maintains inv (runSuite setup references suite) := by
  refine (keeps_takeOver _ _).maintains.bind fun exclusions => (keeps_takeOver _ _).maintains.bind
    fun paths => Maintains.bind (maintains_foldlM (fun _ _ => ?_) _ _) fun tally => ?_
  · exact maintains_suiteFile setup references suite exclusions prints resets tests _ _
  · refine (prints _).bind fun _ => ?_
    split
    · exact (keeps_throw _).maintains
    · exact (keeps_pure _).maintains

end Suites

/-! ## Depth -/

section Depth

variable (setup : Setup σ)

theorem keeps_depth_externalSteps (step : ExternalSteps) :
    Keeps Executor.depth (externalSteps setup step) :=
  keeps_get.bind fun _ => keeps_depth_externalStepsWithin setup _ step

theorem keeps_depth_runStep (step : Step) : Keeps Executor.depth (runStep setup step) :=
  fun executor => maintains_stepWith setup.machine (·.depth = executor.depth)
    (fun step => (keeps_depth_externalSteps setup step).maintains_eq _) step executor rfl

theorem keeps_depth_runFile (references : References) (path : String) (options : FileOptions) :
    Keeps Executor.depth (runFile setup references path options) :=
  keeps_depth_fileWith setup (keeps_depth_externalSteps setup) references path options

theorem keeps_depth_print (text : String) : Keeps Executor.depth (print text : Run σ Unit) :=
  (framed_print text).comp Frame.depth

theorem keeps_depth_reset : Keeps Executor.depth (reset setup.machine) := keeps_modify fun _ => rfl

theorem keeps_depth_upToTest (references : References) (suite : Suite) (exclusions : List Glob)
    (before : List String) (path : String) :
    Keeps Executor.depth (upToTest setup references suite exclusions before path) :=
  fun executor => maintains_upToTest setup references suite exclusions
    (fun text => (keeps_depth_print text).maintains_eq executor.depth)
    ((keeps_depth_reset setup).maintains_eq _)
    (fun path => (keeps_depth_runFile setup references path _).maintains_eq _) before path executor rfl

theorem keeps_depth_runSuite (references : References) (suite : Suite) :
    Keeps Executor.depth (runSuite setup references suite) :=
  fun executor => maintains_runSuite setup references suite
    (fun text => (keeps_depth_print text).maintains_eq executor.depth)
    ((keeps_depth_reset setup).maintains_eq _)
    (fun path => (keeps_depth_runFile setup references path _).maintains_eq _) executor rfl

end Depth

/-! ## Executors at top level -/

/-- What a new executor becomes by runs at top level, some of which may fail, and by changes of its ledger
from outside that leave the costs of built-in functions and the machine type. -/
inductive Obtained (setup : Setup σ) : Executor σ → Prop
  | new : Obtained setup (.new setup.machine)
  | start {executor : Executor σ} (obtained : Obtained setup executor) (schedule : GasSchedule) :
      Obtained setup (stateAfter (startMachine setup.machine schedule executor))
  | step {executor : Executor σ} (obtained : Obtained setup executor) (step : Step) :
      Obtained setup (stateAfter (runStep setup step executor))
  | scenario {executor : Executor σ} (obtained : Obtained setup executor) (scenario : Scenario)
      (references : References) :
      Obtained setup (stateAfter (runScenario setup scenario references executor))
  | file {executor : Executor σ} (obtained : Obtained setup executor) (references : References)
      (path : String) (options : FileOptions) :
      Obtained setup (stateAfter (runFile setup references path options executor))
  | suite {executor : Executor σ} (obtained : Obtained setup executor) (references : References)
      (suite : Suite) : Obtained setup (stateAfter (runSuite setup references suite executor))
  | reset {executor : Executor σ} (obtained : Obtained setup executor) :
      Obtained setup (stateAfter (Run.reset setup.machine executor))
  | edit {executor : Executor σ} (obtained : Obtained setup executor) {world : World}
      (costs : world.builtinCosts = executor.world.builtinCosts)
      (type : world.vmType = executor.world.vmType) : Obtained setup (executor.withWorld world)

theorem Obtained.depth_eq_zero {setup : Setup σ} {executor : Executor σ}
    (obtained : Obtained setup executor) : executor.depth = 0 := by
  -- Runs at top level are as deep at their end as at their start, also those that fail.
  induction obtained with
  | new => rfl
  | start _ schedule ih =>
    have starts : Keeps Executor.depth (startMachine setup.machine schedule) :=
      (framed_startMachine _ schedule).comp Frame.depth
    exact (starts _).trans ih
  | step _ step ih => exact (keeps_depth_runStep setup step _).trans ih
  | scenario _ scenario references ih =>
    exact (keeps_depth_scenarioWith _ (keeps_depth_externalSteps setup) _).trans ih
  | file _ references path options ih =>
    exact (keeps_depth_runFile setup references path options _).trans ih
  | suite _ references suite ih => exact (keeps_depth_runSuite setup references suite _).trans ih
  | reset _ ih => exact ih
  | edit _ _ _ ih => exact ih

end ChainScenario.Run
