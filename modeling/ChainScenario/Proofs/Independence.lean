import ChainScenario.Proofs.Decided
import ChainScenario.Proofs.Obtained
import ChainScenario.Proofs.Reachable
import ChainScenario.Proofs.Walking

/-!
# Files of a suite do not see each other

Over the dummy machine nothing of an executor but the costs of built-in functions outlives a reset and the
start of a test, and these are always the same. Main statement: `runSuite_independent`, a file of a suite
ends as it does alone on a new executor.
-/
namespace ChainScenario

open Expression (References)

/-! ## What a reset leaves -/

/-- What a reset leaves of a ledger: the costs of built-in functions and the machine type. -/
def World.terms (world : World) : Option (OrdMap String UInt64) × Bytes :=
  (world.builtinCosts, world.vmType)

theorem SetState.keeps_terms (step : SetState) : Keeps World.terms step.apply := by
  have sets : ∀ setting : AccountSetting, Keeps World.terms setting.apply := by
    intro setting world
    have maintains : Maintains (fun after => after.terms = world.terms) setting.apply :=
      setting.maintains_apply (fun _ _ same _ _ => same) (fun _ _ _ same _ _ _ => same)
    exact maintains world rfl
  refine (keeps_forM fun setting _ => sets setting).bind fun _ => ?_
  refine keeps_get.bind fun _ => (Setting.keeps_ofExcept _).bind fun _ => ?_
  refine Keeps.bind (keeps_modify ?_) fun _ => ?_
  · exact fun _ => rfl
  refine keeps_get.bind fun _ => (Setting.keeps_ofExcept _).bind fun _ => ?_
  refine Keeps.bind (keeps_modify ?_) fun _ => ?_
  · exact fun _ => rfl
  exact (keeps_forM fun _ _ => Setting.keeps_ofExcept _).bind fun _ => keeps_modify fun _ => rfl

/-- A ledger without the costs of built-in functions: its accounts, blocks, hashes and addresses. -/
def World.withoutCosts (world : World) : World := { world with builtinCosts := none }

namespace Run

/-- What a reset leaves of the ledger of an executor. -/
def Executor.terms {σ : Type} (executor : Executor σ) : Option (OrdMap String UInt64) × Bytes :=
  executor.world.terms

theorem keeps_terms_transact (tx : String) (transaction : Transaction) :
    Keeps Executor.terms (transact Dummy.machine tx transaction) := by
  intro executor
  by_cases missing : executor.world.lacksSender transaction
  · rw [transact_eq_of_lacksSender missing]
    rfl
  · have charged : (executor.world.charged transaction).terms = executor.world.terms :=
      congrArg (fun context : World.Context => (context.builtinCosts, context.vmType))
        (World.context_charged _ _)
    have performed := (keeps_perform tx transaction (availableGas transaction)).comp
      fun context => (context.builtinCosts, context.vmType)
    rw [transact_eq missing, bracket_eq (keeps_perform _ _ _)]
    -- A commit drops the copies, a return goes back to those from before.
    split
    · rename_i output after ran
      have kept : after.terms = _ := performed.ok ran
      change (if _ then _ else _ : Executor Dummy).terms = _
      split
      · exact kept.trans charged
      · exact kept.trans charged
    · rename_i fault after ran
      have kept : after.terms = _ := performed.error ran
      exact kept.trans charged

theorem keeps_terms_print (text : String) : Keeps Executor.terms (print text : Run Dummy Unit) :=
  keeps_modify fun _ => rfl

/-- No step but an external one changes what a reset leaves. -/
theorem keeps_terms_stepWith {external : ExternalSteps → Run Dummy Unit} {step : Step}
    (own : ∀ nested, step ≠ .externalSteps nested) :
    Keeps Executor.terms (stepWith Dummy.machine external step) := by
  refine keeps_stepWith Dummy.machine (fun step => ?_) (fun step => ?_) keeps_terms_print own
  · exact keeps_onWorld step.keeps_terms _
  · exact (keeps_terms_transact _ _).bind fun _ => keeps_get.bind fun _ => keeps_takeOver _ _

/-! ## What is always the same -/

/-- The ledger carries the machine type, and the costs of built-in functions once the machine was started;
both are the same in every run over the dummy machine. -/
structure Executor.Priced (executor : Executor Dummy) : Prop where
  vmType : executor.world.vmType = Dummy.machine.vmType
  costs : executor.started →
    executor.world.builtinCosts = some (Dummy.gasCosts.getD builtinSection .empty)

section Priced

theorem maintains_priced {action : Run Dummy α} (terms : Keeps Executor.terms action)
    (frame : Keeps Executor.frame action) : Maintains Executor.Priced action := by
  intro executor priced
  have kept := terms executor
  have same : (stateAfter (action executor)).started = executor.started :=
    congrArg Frame.started (frame executor)
  exact ⟨(congrArg Prod.snd kept).trans priced.vmType, fun started =>
    (congrArg Prod.fst kept).trans (priced.costs (same ▸ started))⟩

theorem priced_startMachine (schedule : GasSchedule) :
    Maintains Executor.Priced (startMachine Dummy.machine schedule) := by
  refine maintains_get_bind fun executor priced => ?_
  split
  · exact ⟨priced.vmType, fun _ => rfl⟩
  · exact priced

theorem priced_print (text : String) : Maintains Executor.Priced (print text) :=
  maintains_priced (keeps_terms_print text) (framed_print text)

theorem priced_reset : Maintains Executor.Priced (reset Dummy.machine) :=
  maintains_modify fun _ priced => ⟨priced.vmType, priced.costs⟩

section Steps

variable {external : ExternalSteps → Run Dummy Unit}
  (nested : ∀ step, Maintains Executor.Priced (external step))

include nested

theorem priced_stepWith (step : Step) :
    Maintains Executor.Priced (stepWith Dummy.machine external step) := by
  cases step with
  | externalSteps step => exact nested step
  | _ => exact maintains_priced (keeps_terms_stepWith (by simp)) (framed_stepWith _ (by simp))

theorem priced_tracedStep (step : Step) :
    Maintains Executor.Priced (tracedStep Dummy.machine external step) := by
  refine maintains_traced _ (fun enable => ?_) (fun executor priced => ?_) (priced_stepWith nested step)
  · refine maintains_priced (keeps_modify fun _ => ?_) (framed_setTracing _ _)
    split <;> rfl
  · unfold Executor.quiet
    split
    · exact ⟨priced.vmType, priced.costs⟩
    · exact priced

theorem priced_scenarioWith (scenario : Scenario) (references : References) :
    Maintains Executor.Priced (scenarioWith Dummy.machine external scenario references) := by
  have enters : Maintains Executor.Priced (enterScenario scenario references) :=
    maintains_modify fun _ priced => ⟨priced.vmType, priced.costs⟩
  exact enters.bind fun _ => (priced_startMachine _).bind fun _ =>
    maintains_forM fun step _ => priced_tracedStep nested step

theorem priced_fileWith (files : Files.Tree) (maxDepth : Nat) (references : References)
    (path : String) (options : FileOptions) :
    Maintains Executor.Priced
      (fileWith (onDummy files maxDepth) external references path options) :=
  (keeps_takeOver _ _).maintains.bind fun _ => priced_scenarioWith nested _ _

end Steps

variable {files : Files.Tree} {maxDepth : Nat}

theorem priced_externalStepsWithin (levels : Nat) (step : ExternalSteps) :
    Maintains Executor.Priced (externalStepsWithin (onDummy files maxDepth) levels step) := by
  induction levels generalizing step with
  | zero => exact (keeps_throw _).maintains
  | succ levels ih =>
    intro outer priced
    rw [externalStepsWithin_succ, visitFile]
    split
    · exact priced
    · refine maintains_afterwards (priced_fileWith ih files maxDepth _ _ _) ?_ _ ?_
      · exact fun inner priced => ⟨priced.vmType, priced.costs⟩
      · exact ⟨priced.vmType, priced.costs⟩

theorem priced_externalSteps (step : ExternalSteps) :
    Maintains Executor.Priced (externalSteps (onDummy files maxDepth) step) :=
  maintains_get_bind fun executor priced => priced_externalStepsWithin _ step executor priced

theorem priced_runFile (references : References) (path : String) (options : FileOptions) :
    Maintains Executor.Priced (runFile (onDummy files maxDepth) references path options) :=
  priced_fileWith priced_externalSteps files maxDepth references path options

theorem Obtained.priced {executor : Executor Dummy} (obtained : Obtained (onDummy files maxDepth) executor) :
    executor.Priced := by
  -- The costs are set when the machine is started, and then with the same table every time.
  induction obtained with
  | new => exact ⟨rfl, nofun⟩
  | start _ schedule ih => exact priced_startMachine schedule _ ih
  | step _ step ih => exact priced_stepWith priced_externalSteps step _ ih
  | scenario _ scenario references ih =>
    exact priced_scenarioWith priced_externalSteps scenario references _ ih
  | file _ references path options ih => exact priced_runFile references path options _ ih
  | suite _ references suite ih =>
    exact maintains_runSuite _ references suite priced_print priced_reset
      (fun path => priced_runFile references path _) _ ih
  | reset _ ih => exact priced_reset _ ih
  | edit _ costs type ih => exact ⟨type.trans ih.vmType, fun started => costs.trans (ih.costs started)⟩

end Priced

/-! ## A file that starts afresh -/

/-- An executor over the dummy machine that knows nothing of earlier runs. -/
structure Executor.Fresh (executor : Executor Dummy) : Prop where
  depth : executor.depth = 0
  world : executor.world.withoutCosts = .new Dummy.machine.vmType
  priced : executor.Priced

theorem fresh_new : (Executor.new Dummy.machine).Fresh := ⟨rfl, rfl, rfl, nofun⟩

theorem Executor.Priced.withCosts_eq {executor : Executor Dummy} (priced : executor.Priced)
    (started : executor.started) : executor.world.withCosts Dummy.gasCosts = executor.world := by
  rw [World.withCosts, ← priced.costs started]

/-- Whether the machine is started now or was before, the costs are those it starts with. -/
theorem Executor.Priced.starts {executor : Executor Dummy} (priced : executor.Priced)
    (schedule : GasSchedule) :
    ∃ after, startMachine Dummy.machine schedule executor = .ok () after ∧
      after.world = executor.world.withCosts Dummy.gasCosts := by
  cases started : executor.started with
  | true =>
    exact ⟨executor, startMachine_of_started _ started, (priced.withCosts_eq started).symm⟩
  | false =>
    rw [startMachine, get_bind, started]
    exact ⟨_, rfl, rfl⟩

/-- The state in which the first step of a scenario runs that starts afresh. -/
theorem Executor.Fresh.enters {executor : Executor Dummy} (fresh : executor.Fresh)
    (scenario : Scenario) (references : References)
    (renewed : !executor.started || scenario.isNewTest) :
    ∃ entered started, enterScenario scenario references executor = .ok () entered ∧
      startMachine Dummy.machine scenario.gasSchedule entered = .ok () started ∧
      started.world = (World.new Dummy.machine.vmType).withCosts Dummy.gasCosts ∧
      started.frame = ⟨true, scenario.checkGas, [scenario.traceGas], some references, 0⟩ := by
  obtain ⟨entered, enters⟩ : ∃ entered,
      enterScenario scenario references executor = .ok () entered := ⟨_, rfl⟩
  have world : entered.world = executor.world := by rw [ok_modify.1 enters]
  have priced : entered.Priced := by
    rw [ok_modify.1 enters]
    exact ⟨fresh.priced.vmType, fresh.priced.costs⟩
  obtain ⟨started, starts, priced⟩ := priced.starts scenario.gasSchedule
  refine ⟨entered, started, enters, starts, ?_, ?_⟩
  · rw [priced, world, ← fresh.world]
    rfl
  · rw [frame_entered _ enters starts]
    simp [Frame.inside, Executor.frame, renewed, fresh.depth]

/-- From two executors that know nothing of earlier runs, a file is run alike. -/
theorem matches_runFile {start other : Executor Dummy} (fresh : start.Fresh) (fresh' : other.Fresh)
    (new : other.started = false) (files : Files.Tree) (maxDepth : Nat) (references : References)
    (path : String) (forceTraceGas : Bool) :
    Matches (fun state other => state.world.withoutCosts = other.world.withoutCosts)
      (runFile (onDummy files maxDepth) references path
        { newTest := true, forceTraceGas := forceTraceGas } start)
      (runFile (onDummy files maxDepth) references path { forceTraceGas := forceTraceGas } other) := by
  -- A file that cannot be read fails at once; the steps of one that can start in one frame over one ledger.
  cases read : readFile (onDummy files maxDepth) references (files.absolute path) with
  | error fault =>
    rw [runFile, fileWith_eq_throw _ read, fileWith_eq_throw _ read]
    exact .error fault (fresh.world.trans fresh'.world.symm)
  | ok file =>
    obtain ⟨scenario, within⟩ := file
    rw [runFile, fileWith_eq_scenarioWith _ read, fileWith_eq_scenarioWith _ read]
    obtain ⟨_, started, enters, starts, world, frame⟩ :=
      fresh.enters (withOptions ⟨true, forceTraceGas⟩ scenario) within (by simp [withOptions])
    obtain ⟨_, started', enters', starts', world', frame'⟩ :=
      fresh'.enters (withOptions ⟨false, forceTraceGas⟩ scenario) within (by simp [new])
    have level : Level started started' :=
      level_of_frame (world.trans world'.symm) (frame.trans frame'.symm)
    have steps := alike_forM (fun step (_ : step ∈ scenario.steps) =>
      alike_tracedStep (alike_externalSteps files maxDepth) step) started started' level
    rw [scenarioWith, scenarioWith, bind_ok _ enters, bind_ok _ enters']
    change Matches _ ((startMachine Dummy.machine _ >>= _) _) ((startMachine Dummy.machine _ >>= _) _)
    rw [bind_ok _ starts, bind_ok _ starts']
    exact steps.mono fun _ _ level => congrArg World.withoutCosts level.1.world

/-! ## Suites -/

/-- What becomes of a file of a suite. -/
inductive Fate where
  | passed
  | failed
  | skipped
  deriving DecidableEq

/-- What becomes of a file that was run. -/
def Fate.of : Except Fault Unit → Fate
  | .ok () => passed
  | .error _ => failed

/-- The number of files of each fate. -/
def Tally.of (fates : List Fate) : Tally where
  passed := fates.count .passed
  failed := fates.count .failed
  skipped := fates.count .skipped

theorem Tally.of_nil : Tally.of [] = {} := rfl

theorem Tally.total_of (fates : List Fate) :
    (Tally.of fates).passed + (Tally.of fates).failed + (Tally.of fates).skipped = fates.length := by
  induction fates with
  | nil => rfl
  | cons fate rest ih =>
    simp only [Tally.of, List.count_cons, List.length_cons] at ih ⊢
    cases fate <;> simp <;> omega

section Suites

variable (files : Files.Tree) (maxDepth : Nat) (references : References) (suite : Suite)
  (exclusions : List Glob)

/-- A file of a suite is run alone on a new executor. -/
def alone (path : String) : EStateM.Result Fault (Executor Dummy) Unit :=
  runFile (onDummy files maxDepth) references path { forceTraceGas := suite.forceTraceGas }
    (.new Dummy.machine)

/-- What becomes of a file of a suite: it is skipped, or fares as it does alone. -/
def fate (path : String) : Fate :=
  if exclusions.any (·.isMatch path) then .skipped
  else .of (verdict (alone files maxDepth references suite path))

/-- No file is being run, and what a reset leaves is as always. -/
structure Executor.AtRest (executor : Executor Dummy) : Prop where
  depth : executor.depth = 0
  priced : executor.Priced

/-- A file of a suite is run by an executor that knows nothing of those before it. -/
theorem Executor.AtRest.begins {executor : Executor Dummy} (rest : executor.AtRest) (path : String) :
    ∃ start, beginTest (onDummy files maxDepth) suite path executor = .ok () start ∧ start.Fresh := by
  -- A reset clears the ledger but for the costs and the machine type.
  refine ⟨_, rfl, rest.depth, ?_, rest.priced.vmType, rest.priced.costs⟩
  change { World.new executor.world.vmType with builtinCosts := none } = _
  rw [rest.priced.vmType]
  rfl

theorem Obtained.atRest {files : Files.Tree} {maxDepth : Nat} {executor : Executor Dummy}
    (obtained : Obtained (onDummy files maxDepth) executor) : executor.AtRest :=
  ⟨obtained.depth_eq_zero, obtained.priced⟩

theorem atRest_print (text : String) : Maintains Executor.AtRest (print text) :=
  fun executor rest => ⟨rest.depth, priced_print text executor rest.priced⟩

theorem atRest_reset : Maintains Executor.AtRest (reset Dummy.machine) :=
  fun executor rest => ⟨rest.depth, priced_reset executor rest.priced⟩

theorem atRest_runFile (path : String) (options : FileOptions) :
    Maintains Executor.AtRest (runFile (onDummy files maxDepth) references path options) :=
  fun executor rest => ⟨(keeps_depth_runFile _ references path options executor).trans rest.depth,
    priced_runFile references path options executor rest.priced⟩

theorem atRest_suiteFile (tally : Tally) (path : String) :
    Maintains Executor.AtRest
      (suiteFile (onDummy files maxDepth) references suite exclusions tally path) :=
  maintains_suiteFile _ references suite exclusions atRest_print atRest_reset
    (fun path => atRest_runFile files maxDepth references path _) tally path

theorem attempt_eq {action : Run σ α} (executor : Executor σ) :
    attempt action executor = .ok (verdict (action executor)) (stateAfter (action executor)) := by
  rw [attempt]
  split <;> rename_i ran <;> rw [ran] <;> rfl

theorem count_eq (fates : List Fate) (ended : Except Fault Unit) (executor : Executor σ) :
    ∃ after, count (Tally.of fates) ended executor = .ok (Tally.of (fates ++ [.of ended])) after := by
  cases ended with
  | ok _ => exact ⟨_, by simp [Tally.of, Fate.of]; rfl⟩
  | error fault => exact ⟨_, by simp [Tally.of, Fate.of]; rfl⟩

/-- A suite counts a file by what becomes of it alone. -/
theorem suiteFile_counts {executor : Executor Dummy} (rest : executor.AtRest) (fates : List Fate)
    (path : String) :
    ∃ after, suiteFile (onDummy files maxDepth) references suite exclusions (.of fates) path executor =
      .ok (.of (fates ++ [fate files maxDepth references suite exclusions path])) after := by
  -- A file that runs starts afresh, so its verdict is the one it has alone.
  cases excluded : exclusions.any (·.isMatch path) with
  | true =>
    have counted : Tally.of (fates ++ [.skipped]) =
        { Tally.of fates with skipped := (Tally.of fates).skipped + 1 } := by simp [Tally.of]
    simp only [suiteFile, fate, excluded, if_true, counted]
    exact ⟨_, rfl⟩
  | false =>
    obtain ⟨start, begins, fresh⟩ := rest.begins files maxDepth suite path
    have same := (matches_runFile fresh fresh_new rfl files maxDepth references path
      suite.forceTraceGas).verdict_eq
    rw [suiteFile_eq _ _ _ _ excluded, bind_ok _ begins, bind_ok _ (attempt_eq _), Suite.options, same,
      fate, excluded]
    exact count_eq fates _ _

theorem foldlM_counts {executor : Executor Dummy} (rest : executor.AtRest) (paths : List String)
    (fates : List Fate) :
    ∃ after, paths.foldlM (suiteFile (onDummy files maxDepth) references suite exclusions) (.of fates)
        executor =
      .ok (.of (fates ++ paths.map (fate files maxDepth references suite exclusions))) after ∧
        after.AtRest := by
  -- By induction on the files: each leaves an executor at rest to the next.
  induction paths generalizing fates executor with
  | nil => exact ⟨executor, by rw [List.map_nil, List.append_nil]; rfl, rest⟩
  | cons path paths ih =>
    obtain ⟨middle, counted⟩ :=
      suiteFile_counts files maxDepth references suite exclusions rest fates path
    have between := atRest_suiteFile files maxDepth references suite exclusions (.of fates) path
      executor rest
    rw [counted] at between
    obtain ⟨after, others, ends⟩ :=
      ih between (fates ++ [fate files maxDepth references suite exclusions path])
    rw [List.append_assoc] at others
    rw [List.foldlM_cons, bind_ok _ counted]
    exact ⟨after, others, ends⟩

/-- The tests before a file leave it to an executor that knows nothing of them. -/
theorem upToTest_fresh {executor : Executor Dummy} (rest : executor.AtRest) (before : List String)
    (path : String) :
    ∃ start, upToTest (onDummy files maxDepth) references suite exclusions before path executor =
      .ok (.of (before.map (fate files maxDepth references suite exclusions))) start ∧ start.Fresh := by
  obtain ⟨middle, counted, between⟩ :=
    foldlM_counts files maxDepth references suite exclusions rest before []
  rw [Tally.of_nil] at counted
  obtain ⟨start, begins, fresh⟩ := between.begins files maxDepth suite path
  refine ⟨start, ?_, fresh⟩
  rw [upToTest, bind_ok _ counted, bind_ok _ begins]
  rfl

/-- What a suite prints last. -/
def summary (tally : Tally) : String :=
  s!"Done. Passed: {tally.passed}. Failed: {tally.failed}. Skipped: {tally.skipped}."

/-- A suite whose patterns are valid and whose directory can be walked counts its files, and fails exactly if
one of them does. -/
theorem runSuite_eq {executor : Executor Dummy} (rest : executor.AtRest) {paths : List String}
    (valid : suite.exclusions = .ok exclusions) (walks : suite.paths files = .ok paths) :
    let tally := Tally.of (paths.map (fate files maxDepth references suite exclusions))
    ∃ earlier after, after.printed = earlier ++ (summary tally ++ "\n") ∧
      runSuite (onDummy files maxDepth) references suite executor =
        if tally.failed = 0 then .ok () after else .error .someFailed after := by
  intro tally
  obtain ⟨middle, counted, -⟩ :=
    foldlM_counts files maxDepth references suite exclusions rest paths []
  have takes : ofExcept (suite.paths (onDummy files maxDepth).files) id =
      (pure paths : Run Dummy (List String)) := by
    rw [show suite.paths (onDummy files maxDepth).files = _ from walks]
    rfl
  let after := { middle with printed := middle.printed ++ (summary tally ++ "\n") }
  have prints : (printLine (summary tally) : Run Dummy Unit) middle = .ok () after := rfl
  refine ⟨middle.printed, after, rfl, ?_⟩
  rw [Tally.of_nil] at counted
  rw [runSuite, valid, takes]
  change (paths.foldlM (suiteFile (onDummy files maxDepth) references suite exclusions) {} >>= _)
    executor = _
  rw [bind_ok _ counted]
  change ((printLine (summary tally) : Run Dummy Unit) >>= _) middle = _
  rw [bind_ok _ prints]
  change (if tally.failed ≠ 0 then throw Fault.someFailed else pure () : Run Dummy Unit) after = _
  by_cases none : tally.failed = 0
  · rw [if_neg (not_not.2 none), if_pos none]
    rfl
  · rw [if_pos none, if_neg none]
    rfl

/-- The files of a suite are independent of each other. Whatever ran before, in the suite or before it, a
file that is not excluded ends, and leaves the ledger, as it does alone on a new executor. Every file below
the directory whose name ends as asked is counted once, by what becomes of it alone, and the suite fails
exactly if one of them does. -/
theorem runSuite_independent {files : Files.Tree} {maxDepth : Nat} {executor : Executor Dummy}
    (obtained : Obtained (onDummy files maxDepth) executor) (references : References) {suite : Suite}
    {exclusions : List Glob} {paths : List String} (valid : suite.exclusions = .ok exclusions)
    (walks : suite.paths files = .ok paths) :
    let fates := paths.map (fate files maxDepth references suite exclusions)
    let ended := runSuite (onDummy files maxDepth) references suite executor
    (∀ before path after, paths = before ++ path :: after →
      exclusions.any (·.isMatch path) = false → ∃ start,
        upToTest (onDummy files maxDepth) references suite exclusions before path executor =
          .ok (.of (before.map (fate files maxDepth references suite exclusions))) start ∧
        let own := runFile (onDummy files maxDepth) references path suite.options start
        verdict own = verdict (alone files maxDepth references suite path) ∧
        (stateAfter own).world.withoutCosts =
          (stateAfter (alone files maxDepth references suite path)).world.withoutCosts) ∧
    (files.root.WellNamed → paths.Nodup ∧ ∀ path, path ∈ paths ↔
      files.FileBelow (Path.join suite.general suite.specific) path ∧
        suite.suffix.toList <:+ path.toList) ∧
    (∃ earlier, (stateAfter ended).printed = earlier ++ (summary (.of fates) ++ "\n")) ∧
    (Tally.of fates).passed + (Tally.of fates).failed + (Tally.of fates).skipped = paths.length ∧
    verdict ended = if .failed ∈ fates then .error .someFailed else .ok () := by
  intro fates ended
  obtain ⟨earlier, after, printed, ran⟩ :=
    runSuite_eq files maxDepth references suite exclusions obtained.atRest valid walks
  refine ⟨fun before path _ _ _ => ?_, fun named => ?_, ⟨earlier, ?_⟩, ?_, ?_⟩
  · obtain ⟨start, begins, fresh⟩ :=
      upToTest_fresh files maxDepth references suite exclusions obtained.atRest before path
    have same := matches_runFile fresh fresh_new rfl files maxDepth references path suite.forceTraceGas
    exact ⟨start, begins, same.verdict_eq, same.states⟩
  · exact ⟨Suite.nodup_paths named walks, fun _ => Suite.mem_paths named walks⟩
  · -- The summary is printed before the suite fails, so it is there in either case.
    have last : stateAfter ended = after := by
      rw [show ended = _ from ran]
      split <;> rfl
    rw [last, printed]
  · rw [Tally.total_of, List.length_map]
  · have none : (Tally.of fates).failed = 0 ↔ .failed ∉ fates := List.count_eq_zero
    rw [show ended = _ from ran]
    by_cases fails : .failed ∈ fates
    · rw [if_neg (mt none.1 (not_not.2 fails)), if_pos fails]
      rfl
    · rw [if_pos (none.2 fails), if_neg fails]
      rfl

end Suites

/-- A directory with two files, the first of which is no scenario. -/
def mixed : Files.Tree where
  root := .directory [("tests", .directory
    [("bad.json", .file []), ("good.json", .file (Utf8.ofString "\x7b\"steps\": []\x7d"))])]
  workingDirectory := "/"

/-- The suite of this directory. -/
def mixedSuite : Suite := ⟨"/tests", "", ".json", [], false⟩

theorem wellNamed_mixed : mixed.root.WellNamed := by
  have tests : (Files.Node.directory
      [("bad.json", .file []), ("good.json", .file (Utf8.ofString "\x7b\"steps\": []\x7d"))]).WellNamed :=
    .directory (by simp [Files.isName_iff]) (by simp) (by simp [Files.Node.WellNamed.file])
  exact .directory (by simp [Files.isName_iff]) (by simp) (by simpa using tests)

/-- Both files are counted, one of them fails, and with it the suite. -/
theorem runSuite_independent_mixed :
    mixedSuite.exclusions = .ok [] ∧
      mixedSuite.paths mixed = .ok ["/tests/bad.json", "/tests/good.json"] ∧
      mixed.FileBelow "/tests/" "/tests/good.json" ∧
      (∃ earlier, (stateAfter (runSuite (onDummy mixed 4) .none mixedSuite (.new Dummy.machine))).printed =
        earlier ++ "Done. Passed: 1. Failed: 1. Skipped: 0.\n") ∧
      verdict (runSuite (onDummy mixed 4) .none mixedSuite (.new Dummy.machine)) =
        .error .someFailed := by
  have valid : mixedSuite.exclusions = .ok [] := rfl
  have walks : mixedSuite.paths mixed = .ok ["/tests/bad.json", "/tests/good.json"] := by
    rfl
  have fates : ["/tests/bad.json", "/tests/good.json"].map (fate mixed 4 .none mixedSuite []) =
      [.failed, .passed] := by decide +kernel
  obtain ⟨-, listed, printed, -, ends⟩ :=
    runSuite_independent (.new : Obtained (onDummy mixed 4) _) .none valid walks
  rw [fates] at printed ends
  have good := ((listed wellNamed_mixed).2 "/tests/good.json").1 (by simp)
  exact ⟨valid, walks, good.1, printed, ends⟩

end Run
end ChainScenario
