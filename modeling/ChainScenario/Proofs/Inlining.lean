import ChainScenario.Proofs.Decided
import ChainScenario.Proofs.Nesting

/-!
# External steps in one list

External steps can be replaced by the steps of their file, and so on until no external steps are left.
Main statement: `runScenario_inlined`, over the dummy machine a scenario ends as this list of steps does.
-/
namespace ChainScenario

open Expression (References)

namespace Run

/-- A step, and whether the file that it was written in compares remaining gas. -/
structure Inlined where
  checkGas : Bool
  step : Step

/-- The steps of a scenario, with the steps that `nested` gives in the place of external ones. -/
def inlineSteps (nested : ExternalSteps → Except Fault (List Inlined)) (checkGas : Bool) :
    List Step → Except Fault (List Inlined)
  | [] => return []
  | .externalSteps step :: steps => return (← nested step) ++ (← inlineSteps nested checkGas steps)
  | step :: steps => return ⟨checkGas, step⟩ :: (← inlineSteps nested checkGas steps)

/-- The steps of the file of external steps, in which at most `levels` files are within each other. -/
def inlineFile (setup : Setup σ) :
    Nat → References → ExternalSteps → Except Fault (List Inlined)
  | 0, _, step => throw (.tooDeep setup.maxDepth step.path)
  | levels + 1, references, step => do
    let (scenario, within) ← readFile setup references
      (setup.files.absolute (references.resolve step.path))
    inlineSteps (inlineFile setup levels within) scenario.checkGas scenario.steps

/-- Runs a list of steps without external ones. -/
def runInlined (setup : Setup σ) (steps : List Inlined) : Run σ Unit :=
  steps.forM fun inlined => do
    modify fun executor => { executor with checkGas := inlined.checkGas }
    tracedStep setup.machine (externalSteps setup) inlined.step

theorem inlineSteps_own {nested : ExternalSteps → Except Fault (List Inlined)} {checkGas : Bool}
    {step : Step} {steps : List Step} (own : ∀ nested, step ≠ .externalSteps nested) :
    inlineSteps nested checkGas (step :: steps) =
      (return ⟨checkGas, step⟩ :: (← inlineSteps nested checkGas steps)) := by
  cases step with
  | externalSteps step => exact absurd rfl (own step)
  | _ => rfl

theorem runInlined_append (setup : Setup σ) (steps others : List Inlined) :
    runInlined setup (steps ++ others) =
      (do runInlined setup steps; runInlined setup others) := by
  simp only [runInlined, List.forM_eq_forM, List.forM_append]

/-! ## One list beside the files -/

/-- A run is in a frame, and another one that has started has the same ledger. -/
structure Follows (frame : Frame) (state other : Executor Dummy) : Prop where
  world : state.world = other.world
  frame : state.frame = frame
  started : other.started

section Follows

variable {files : Files.Tree} {maxDepth : Nat} {frame : Frame}
  {external : ExternalSteps → Run Dummy Unit}

/-- A step of a file runs like the step in the list. -/
theorem follows_own {step : Step} (own : ∀ nested, step ≠ .externalSteps nested)
    (started : frame.started) :
    Alike (Follows frame) (tracedStep Dummy.machine external step)
      (runInlined (onDummy files maxDepth) [⟨frame.checkGas, step⟩]) := by
  have alike : Alike (fun state other => Even state other ∧ state.frame = frame ∧ other.frame.started)
      (tracedStep Dummy.machine external step)
      (tracedStep Dummy.machine (externalSteps (onDummy files maxDepth)) step) := by
    refine (alike_tracedStep_own own).and ?_
    rintro state other ⟨rfl, running⟩
    refine ⟨framed_tracedStep _ own state, ?_⟩
    rwa [framed_tracedStep _ own other]
  rintro state other ⟨world, rfl, started'⟩
  -- The list sets the switch of the file first, and then nothing that decides the step differs.
  let checking : Executor Dummy := { other with checkGas := state.checkGas }
  have ran : runInlined (onDummy files maxDepth) [⟨state.frame.checkGas, step⟩] other =
      tracedStep Dummy.machine (externalSteps (onDummy files maxDepth)) step checking := by
    simp only [runInlined, List.forM_eq_forM, List.forM_cons, List.forM_nil, bind_pure_unit]
    rfl
  rw [ran]
  refine (alike state checking ⟨⟨world, ?_, rfl⟩, rfl, started'⟩).mono ?_
  · exact started.trans started'.symm
  · rintro _ _ ⟨even, same, running⟩
    exact ⟨even.world, same, running⟩

/-- What runs external steps like a list may do so within a step that traces gas. -/
theorem follows_traced {step : ExternalSteps} {inlined : List Inlined}
    (follows : Alike (Follows frame) (external step) (runInlined (onDummy files maxDepth) inlined)) :
    Alike (Follows frame) (tracedStep Dummy.machine external (.externalSteps step))
      (runInlined (onDummy files maxDepth) inlined) := by
  rintro state other ⟨world, same, started⟩
  -- Only the file switches tracing around its external steps, which the ledger does not show.
  obtain ⟨traced, sets, even⟩ := silent_setTracing Dummy.machine state.tracesGas state
  have traces : traced.frame = frame := ((framed_setTracing _ _).ok sets).trans same
  have ended : Matches (Follows frame) (stepWith Dummy.machine external (.externalSteps step) traced)
      (runInlined (onDummy files maxDepth) inlined other) :=
    follows traced other ⟨even.world.symm.trans world, traces, started⟩
  rw [tracedStep, get_bind, bind_ok _ sets]
  refine matches_afterwards ended fun state other holds => ?_
  exact ⟨(even_quiet _ state).world.symm.trans holds.world, (frame_quiet _ state).trans holds.frame,
    holds.started⟩

/-- If external steps run like the lists in their place, all steps of a file do. -/
theorem follows_steps {nested : ExternalSteps → Except Fault (List Inlined)}
    (follows : ∀ step inlined, nested step = .ok inlined →
      Alike (Follows frame) (external step) (runInlined (onDummy files maxDepth) inlined))
    (started : frame.started) {steps : List Step} {inlined : List Inlined}
    (inlines : inlineSteps nested frame.checkGas steps = .ok inlined) :
    Alike (Follows frame) (steps.forM (tracedStep Dummy.machine external))
      (runInlined (onDummy files maxDepth) inlined) := by
  -- By induction on the steps: one of the file itself is the head of the list, external steps begin it.
  induction steps generalizing inlined with
  | nil =>
    obtain rfl := Except.ok.inj inlines
    exact alike_pure _
  | cons step steps ih =>
    change Alike _ (tracedStep Dummy.machine external step >>= fun _ =>
      steps.forM (tracedStep Dummy.machine external)) _
    by_cases own : ∀ nested, step ≠ .externalSteps nested
    · rw [inlineSteps_own own] at inlines
      obtain ⟨others, rest, ended⟩ := except_bind.1 inlines
      obtain rfl := Except.ok.inj ended
      rw [← List.singleton_append, runInlined_append]
      exact (follows_own own started).bind fun _ => ih rest
    · obtain ⟨external, rfl⟩ : ∃ external, step = .externalSteps external := by
        simpa using own
      obtain ⟨first, given, inlines⟩ := except_bind.1 inlines
      obtain ⟨others, rest, ended⟩ := except_bind.1 inlines
      obtain rfl := Except.ok.inj ended
      rw [runInlined_append]
      exact (follows_traced (follows external first given)).bind fun _ => ih rest

/-- The file of external steps runs like the list of its steps. -/
theorem follows_externalStepsWithin {levels : Nat} {references : References} {step : ExternalSteps}
    {inlined : List Inlined}
    (inlines : inlineFile (onDummy files maxDepth) levels references step = .ok inlined)
    {frame : Frame} (started : frame.started) (known : frame.references = some references) :
    Alike (Follows frame) (externalStepsWithin (onDummy files maxDepth) levels step)
      (runInlined (onDummy files maxDepth) inlined) := by
  -- By induction on the levels: a file one level deeper runs in a frame of its own.
  induction levels generalizing references step inlined frame with
  | zero => cases inlines
  | succ levels ih =>
    obtain ⟨⟨scenario, within⟩, read, inlines⟩ := except_bind.1 inlines
    rintro outer other ⟨world, rfl, started'⟩
    let entered := outer.enterFile (step.traceGas.getD outer.tracesGas)
    have resumed : outer.frame.resumed (entered.frame.inside (withOptions {} scenario) within) =
        outer.frame := by
      rw [inside_readFile read (by exact started)]
      rfl
    have enters : visitFile (onDummy files maxDepth)
          (externalStepsWithin (onDummy files maxDepth) levels) step outer =
        afterwards (scenarioWith Dummy.machine (externalStepsWithin (onDummy files maxDepth) levels)
          (withOptions {} scenario) within) outer.leaveFile entered := by
      rw [visitFile, show outer.references = some references from known]
      dsimp only
      rw [fileWith_eq_scenarioWith _ read]
      rfl
    obtain ⟨inside, runs, same, frame⟩ := scenarioWith_of_started Dummy.machine
      (externalStepsWithin (onDummy files maxDepth) levels) (withOptions {} scenario) within
      (show entered.started from started)
    have steps : Matches (Follows (entered.frame.inside (withOptions {} scenario) within)) _ _ :=
      follows_steps (fun step inlined given => ih given rfl rfl) rfl inlines inside other
        ⟨same.trans world, frame, started'⟩
    rw [externalStepsWithin_succ, enters]
    refine matches_afterwards (by rw [runs]; exact steps) fun state other holds => ?_
    exact ⟨holds.world, (congrArg outer.frame.resumed holds.frame).trans resumed, holds.started⟩

theorem follows_externalSteps {references : References} {step : ExternalSteps}
    {inlined : List Inlined}
    (inlines : inlineFile (onDummy files maxDepth) (maxDepth - frame.depth) references step =
      .ok inlined)
    (started : frame.started) (known : frame.references = some references) :
    Alike (Follows frame) (externalSteps (onDummy files maxDepth) step)
      (runInlined (onDummy files maxDepth) inlined) := by
  intro state other follows
  rw [externalSteps, get_bind, show state.depth = frame.depth from congrArg Frame.depth follows.frame]
  exact follows_externalStepsWithin inlines started known state other follows

end Follows

/-! ## Lists without external steps -/

/-- A step is not an external one. -/
def Inlined.Own (inlined : Inlined) : Prop := ∀ nested, inlined.step ≠ .externalSteps nested

theorem own_inlineSteps {nested : ExternalSteps → Except Fault (List Inlined)}
    (own : ∀ step inlined, nested step = .ok inlined → ∀ item ∈ inlined, item.Own) {checkGas : Bool}
    {steps : List Step} {inlined : List Inlined}
    (inlines : inlineSteps nested checkGas steps = .ok inlined) : ∀ item ∈ inlined, item.Own := by
  induction steps generalizing inlined with
  | nil =>
    obtain rfl := Except.ok.inj inlines
    simp
  | cons step steps ih =>
    by_cases plain : ∀ nested, step ≠ .externalSteps nested
    · rw [inlineSteps_own plain] at inlines
      obtain ⟨others, rest, ended⟩ := except_bind.1 inlines
      obtain rfl := Except.ok.inj ended
      exact List.forall_mem_cons.2 ⟨plain, ih rest⟩
    · obtain ⟨external, rfl⟩ : ∃ external, step = .externalSteps external := by simpa using plain
      obtain ⟨first, given, inlines⟩ := except_bind.1 inlines
      obtain ⟨others, rest, ended⟩ := except_bind.1 inlines
      obtain rfl := Except.ok.inj ended
      exact List.forall_mem_append.2 ⟨own external first given, ih rest⟩

theorem own_inlineFile {setup : Setup σ} {levels : Nat} {references : References}
    {step : ExternalSteps} {inlined : List Inlined}
    (inlines : inlineFile setup levels references step = .ok inlined) :
    ∀ item ∈ inlined, item.Own := by
  induction levels generalizing references step inlined with
  | zero => cases inlines
  | succ levels ih =>
    obtain ⟨_, -, inlines⟩ := except_bind.1 inlines
    exact own_inlineSteps (fun _ _ given => ih given) inlines

/-- If all files that external steps name can be read, and none is nested too deeply, a scenario in a run
that has started ends as the list without external steps does, and leaves the same ledger. -/
theorem runScenario_inlined {files : Files.Tree} {maxDepth : Nat} {executor : Executor Dummy}
    (started : executor.started) {scenario : Scenario} {references : References}
    {inlined : List Inlined}
    (inlines : inlineSteps (inlineFile (onDummy files maxDepth) (maxDepth - executor.depth) references)
      scenario.checkGas scenario.steps = .ok inlined) :
    (∀ item ∈ inlined, item.Own) ∧
      verdict (runScenario (onDummy files maxDepth) scenario references executor) =
        verdict (runInlined (onDummy files maxDepth) inlined executor) ∧
      (stateAfter (runScenario (onDummy files maxDepth) scenario references executor)).world =
        (stateAfter (runInlined (onDummy files maxDepth) inlined executor)).world := by
  obtain ⟨inside, runs, world, frame⟩ := scenarioWith_of_started Dummy.machine
    (externalSteps (onDummy files maxDepth)) scenario references started
  have steps : Matches (Follows (executor.frame.inside scenario references)) _ _ :=
    follows_steps (fun step inlined given => follows_externalSteps given rfl rfl) rfl inlines inside
      executor ⟨world, frame, started⟩
  refine ⟨own_inlineSteps (fun _ _ given => own_inlineFile given) inlines, ?_⟩
  change verdict (scenarioWith _ _ _ _ _) = _ ∧ (stateAfter (scenarioWith _ _ _ _ _)).world = _
  rw [show scenarioWith (onDummy files maxDepth).machine _ _ _ _ = _ from runs]
  exact ⟨steps.verdict_eq, steps.states.world⟩

/-- A file in a directory of its own, which shows the accounts without comparing gas and runs another file
that shows them too. -/
def nestedFiles : Files.Tree where
  root := .directory [("sub", .directory
    [("inner.json", .file (Utf8.ofString
      "\x7b\"checkGas\": false, \"steps\": [\x7b\"step\": \"dumpState\"\x7d, \x7b\"step\": \"externalSteps\", \"path\": \"last.json\"\x7d]\x7d")),
     ("last.json", .file (Utf8.ofString "\x7b\"steps\": [\x7b\"step\": \"dumpState\"\x7d]\x7d"))])]
  workingDirectory := "/"

/-- Whether a list only shows the accounts, with these switches. -/
def isShowing : List Bool → List Inlined → Bool
  | [], [] => true
  | checkGas :: switches, ⟨checks, .dumpState comment⟩ :: rest =>
    checkGas == checks && comment == "" && isShowing switches rest
  | _, _ => false

theorem eq_of_isShowing {switches : List Bool} {inlined : List Inlined}
    (same : isShowing switches inlined = true) : inlined = switches.map (⟨·, .dumpState ""⟩) := by
  fun_induction isShowing switches inlined with
  | case1 => rfl
  | case2 checkGas switches checks comment rest ih =>
    simp only [Bool.and_eq_true, beq_iff_eq] at same
    obtain ⟨⟨rfl, rfl⟩, shows⟩ := same
    rw [ih shows, List.map_cons]
  | case3 => cases same

/-- Both files are found and read, each in its own directory. -/
theorem runScenario_inlined_nested :
    let started : Executor Dummy := { Executor.new Dummy.machine with started := true }
    let inlined := [⟨false, .dumpState ""⟩, ⟨true, .dumpState ""⟩]
    inlineSteps (inlineFile (onDummy nestedFiles 2) (2 - started.depth) ⟨"/main.json", .empty⟩) true
        [.externalSteps ⟨"", "sub/inner.json", none⟩] = .ok inlined ∧
      verdict (runScenario (onDummy nestedFiles 2)
          { steps := [.externalSteps ⟨"", "sub/inner.json", none⟩] } ⟨"/main.json", .empty⟩ started) =
        verdict (runInlined (onDummy nestedFiles 2) inlined started) := by
  have shows : ((inlineSteps (inlineFile (onDummy nestedFiles 2) 2 ⟨"/main.json", .empty⟩) true
      [.externalSteps ⟨"", "sub/inner.json", none⟩]).toOption.map (isShowing [false, true])) =
        some true := by decide +kernel
  obtain ⟨inlined, inlines, same⟩ := ok_of_toOption_map shows
  obtain rfl := eq_of_isShowing same
  have started : ({ Executor.new Dummy.machine with started := true } : Executor Dummy).started := rfl
  exact ⟨inlines, (runScenario_inlined started inlines).2.1⟩

end Run
end ChainScenario
