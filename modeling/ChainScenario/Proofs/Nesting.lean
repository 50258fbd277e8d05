import ChainScenario.Proofs.Alike
import ChainScenario.Proofs.Obtained
import ChainScenario.Proofs.Reading
import ChainScenario.Proofs.SetState

/-!
# Files that run each other

External steps run a file, whose own external steps run further files. `Running` says in which states
the steps of all these files run. Main statement: `externalSteps_disciplined`, a file leaves what the
outer one runs with as it found it, and how deep a step runs and whether it traces gas can be read
off the external steps around it.
-/
namespace ChainScenario

open Expression (References)

/-! ## Files that were read -/

/-- No file says that the machine starts afresh. -/
theorem Scenario.Reader.isNewTest_scenario {context : Expression.Context} {value : Json}
    {scenario : Scenario} (read : Scenario.Reader.scenario context value = .ok scenario) :
    scenario.isNewTest = false := by
  obtain ⟨fields, -, read⟩ := except_bind.1 read
  have each : ∀ name reader, scenarioField context name = some reader →
      ∀ value (target result : Scenario), target.isNewTest = false →
        reader value target = .ok result → result.isNewTest = false := by
    intro name reader known value target result same ran
    -- Every reader sets a field of its own, and none sets this one.
    unfold scenarioField at known
    split at known
    case h_7 => cases known
    all_goals
      obtain ⟨given, -, rfl⟩ := setting_ok known ran
      exact same
  exact readFields_preserves each rfl read

namespace Run

variable {σ : Type} {setup : Setup σ}

theorem isNewTest_readFile {references within : References} {path : String} {scenario : Scenario}
    (read : readFile setup references path = .ok (scenario, within)) :
    scenario.isNewTest = false := by
  obtain ⟨contents, -, read⟩ := except_bind.1 read
  obtain ⟨parsed, parses, ended⟩ := except_bind.1 read
  obtain ⟨value, -, given⟩ := except_bind.1 (ok_mapError.1 parses)
  obtain ⟨rfl, -⟩ := Prod.mk.inj (Except.ok.inj ended)
  exact Scenario.Reader.isNewTest_scenario given

/-! ## The recursion of external steps -/

section Recursion

variable {depth : Nat} {first second : ExternalSteps → Run σ Unit}

/-- Two states are the same, at a depth. -/
def SameAt (depth : Nat) (state other : Executor σ) : Prop := state = other ∧ state.depth = depth

theorem alike_of_keeps_depth {action : Run σ α} (keeps : Keeps Executor.depth action) :
    Alike (SameAt depth) action action := by
  rintro state _ ⟨rfl, deep⟩
  have after := (keeps state).trans deep
  cases ran : action state with
  | ok value _ => exact .ok value ⟨rfl, by rwa [ran] at after⟩
  | error fault _ => exact .error fault ⟨rfl, by rwa [ran] at after⟩

theorem eq_of_matches {left right : EStateM.Result Fault (Executor σ) α}
    (same : Matches (SameAt depth) left right) : left = right := by
  cases same with
  | ok value holds => rw [holds.1]
  | error fault holds => rw [holds.1]

/-- What runs the files of external steps alike at a depth may be exchanged in a file at that depth. -/
theorem alike_fileWith_depth (nested : ∀ step, Alike (SameAt depth) (first step) (second step))
    (references : References) (path : String) (options : FileOptions) :
    Alike (SameAt depth) (fileWith setup first references path options)
      (fileWith setup second references path options) := by
  -- All but the external steps is the same on both sides, and keeps the depth at which these agree.
  refine (alike_takeOver _ _).bind fun ⟨scenario, within⟩ => ?_
  have enters : Keeps Executor.depth
      (enterScenario (withOptions options scenario) within : Run σ Unit) := keeps_modify fun _ => rfl
  refine (alike_of_keeps_depth enters).bind fun _ => ?_
  refine (alike_of_keeps_depth ((framed_startMachine _ _).comp Frame.depth)).bind fun _ => ?_
  refine alike_forM fun step _ => alike_traced ?_ ?_ ?_
  · rintro state _ ⟨rfl, deep⟩
    have traces := (framed_setTracing setup.machine state.tracesGas).comp Frame.depth
    exact alike_of_keeps_depth traces state state ⟨rfl, deep⟩
  · rintro state _ ⟨rfl, deep⟩
    exact ⟨rfl, (congrArg Frame.depth (frame_quiet _ state)).trans deep⟩
  · cases step with
    | externalSteps step => exact nested step
    | _ => exact alike_of_keeps_depth ((framed_stepWith _ (by simp)).comp Frame.depth)

/-- External steps are refused if they are nested too deeply, and run their file otherwise, whose own
external steps are run in the same way. -/
theorem externalSteps_eq (step : ExternalSteps) (outer : Executor σ) :
    externalSteps setup step outer =
      if setup.maxDepth ≤ outer.depth then .error (.tooDeep setup.maxDepth step.path) outer
      else visitFile setup (externalSteps setup) step outer := by
  rw [externalSteps, get_bind]
  split
  case isTrue bounded =>
    rw [Nat.sub_eq_zero_of_le bounded]
    rfl
  case isFalse deeper =>
    obtain ⟨levels, counted⟩ : ∃ levels, setup.maxDepth - outer.depth = levels + 1 :=
      ⟨setup.maxDepth - outer.depth - 1, by omega⟩
    have inner : ∀ step, Alike (SameAt (outer.depth + 1)) (externalStepsWithin setup levels step)
        (externalSteps setup step) := by
      rintro step state _ ⟨rfl, deep⟩
      -- One level deeper there is one level less.
      have left : setup.maxDepth - state.depth = levels := by omega
      rw [externalSteps, get_bind, left]
      exact alike_of_keeps_depth (keeps_depth_externalStepsWithin setup levels step) _ _ ⟨rfl, deep⟩
    rw [counted, externalStepsWithin_succ, visitFile, visitFile]
    split
    · rfl
    · rename_i references _
      have same : fileWith setup (externalStepsWithin setup levels) references
          (references.resolve step.path) {} (outer.enterFile (step.traceGas.getD outer.tracesGas)) =
          fileWith setup (externalSteps setup) references (references.resolve step.path) {} _ :=
        eq_of_matches (alike_fileWith_depth inner _ _ _ _ _ ⟨rfl, rfl⟩)
      rw [afterwards, same]
      rfl

end Recursion

/-! ## What an outer file finds again -/

section Frames

theorem inside_readFile {references within : References} {path : String} {scenario : Scenario}
    {frame : Frame} (read : readFile setup references path = .ok (scenario, within))
    (started : frame.started) :
    frame.inside (withOptions {} scenario) within =
      { frame with checkGas := scenario.checkGas, references := some within } := by
  simp [Frame.inside, withOptions, isNewTest_readFile read, started]

theorem restores_visitFile {nested : ExternalSteps → Run σ Unit} (restores : Restores nested) :
    Restores (visitFile setup nested) := by
  intro step outer started
  rw [visitFile]
  split
  · rfl
  rename_i references _
  rw [stateAfter_afterwards, frame_leaveFile]
  cases read : readFile setup references (setup.files.absolute (references.resolve step.path)) with
  | error fault =>
    rw [fileWith_eq_throw setup read]
    rfl
  | ok file =>
    obtain ⟨scenario, within⟩ := file
    rw [fileWith_eq_scenarioWith setup read, frame_scenarioWith _ restores (by exact started),
      inside_readFile read started]
    rfl

theorem restores_externalStepsWithin (levels : Nat) :
    Restores (externalStepsWithin setup levels) := by
  -- By induction on the levels: what the inner files restore, the file between restores as well.
  induction levels with
  | zero => exact fun _ _ _ => rfl
  | succ levels ih =>
    intro step
    rw [externalStepsWithin_succ]
    exact restores_visitFile ih step

theorem restores_externalSteps : Restores (externalSteps setup) :=
  fun step executor started => restores_externalStepsWithin _ step executor started

end Frames

/-! ## The states in which steps run -/

section Running

/-- A scenario that is run comes to one of its steps, which runs in the state `state`. -/
def Comes (setup : Setup σ) (scenario : Scenario) (references : References) (start : Executor σ)
    (step : Step) (state : Executor σ) : Prop :=
  ∃ before after, scenario.steps = before ++ step :: after ∧
    upTo setup.machine (externalSteps setup) scenario references before start = .ok () state

/-- External steps that run in the state `outer` come to a step of their file. -/
inductive Within (setup : Setup σ) (external : ExternalSteps) (outer : Executor σ) (step : Step)
    (state : Executor σ) : Prop
  | intro {references within : References} {scenario : Scenario}
      (allowed : outer.depth < setup.maxDepth) (known : outer.references = some references)
      (read : readFile setup references (setup.files.absolute (references.resolve external.path)) =
        .ok (scenario, within))
      (comes : Comes setup (withOptions {} scenario) within
        (outer.enterFile (external.traceGas.getD outer.tracesGas)) step state)

/-- A scenario that is run comes to a step of its own, or to a step of a file that it runs, directly or
through other files: what the external steps around it say about tracing gas is listed, innermost
first. -/
inductive Running (setup : Setup σ) (scenario : Scenario) (references : References)
    (start : Executor σ) : List (Option Bool) → Step → Executor σ → Prop
  | own {step : Step} {state : Executor σ} (comes : Comes setup scenario references start step state) :
      Running setup scenario references start [] step state
  | nested {said : List (Option Bool)} {external : ExternalSteps} {outer state : Executor σ}
      {step : Step}
      (running : Running setup scenario references start said (.externalSteps external) outer)
      (comes : Within setup external outer step state) :
      Running setup scenario references start (external.traceGas :: said) step state

/-- A scenario is run at top level: on a new executor, or as a file of a suite. -/
inductive Launched (setup : Setup σ) : Scenario → References → Executor σ → Prop
  | new (scenario : Scenario) (references : References) :
      Launched setup scenario references (.new setup.machine)
  | test {executor start : Executor σ} (obtained : Obtained setup executor)
      {references within : References} {suite : Suite} {exclusions : List Glob}
      {before : List String} {path : String} {tally : Tally} {scenario : Scenario}
      (ran : upToTest setup references suite exclusions before path executor = .ok tally start)
      (read : readFile setup references (setup.files.absolute path) = .ok (scenario, within)) :
      Launched setup (withOptions suite.options scenario) within start

theorem Comes.frame {scenario : Scenario} {references : References} {start state : Executor σ}
    {step : Step} (comes : Comes setup scenario references start step state) :
    state.frame = start.frame.inside scenario references := by
  obtain ⟨_, _, _, ran⟩ := comes
  exact frame_upTo _ restores_externalSteps ran

/-- No file is within another one when a scenario is launched, and its switch is the only one. -/
theorem Launched.inside {scenario : Scenario} {references : References} {start : Executor σ}
    (launched : Launched setup scenario references start) :
    start.frame.inside scenario references =
      ⟨true, scenario.checkGas, [scenario.traceGas], some references, 0⟩ := by
  cases launched with
  | new scenario references => rfl
  | test obtained ran read =>
    have top : start.depth = 0 :=
      ((keeps_depth_upToTest _ _ _ _ _ _).ok ran).trans obtained.depth_eq_zero
    simp [Frame.inside, Executor.frame, withOptions, Suite.options, top]

/-- A frame of a run that has started, at the depth that the external steps around it give, with a switch
for every file: the innermost switch is what the innermost external steps say that say anything, or the
one of the scenario that was launched. -/
structure Frame.Disciplined (frame : Frame) (maxDepth : Nat) (top : Bool)
    (said : List (Option Bool)) : Prop where
  started : frame.started
  depth : frame.depth = said.length
  bounded : frame.depth ≤ maxDepth
  switches : frame.gasSwitches.length = frame.depth + 1
  innermost : frame.gasSwitches.head? = some ((said.findSome? id).getD top)

theorem Launched.disciplined {scenario : Scenario} {references : References} {start : Executor σ}
    (launched : Launched setup scenario references start) {said : List (Option Bool)} {step : Step}
    {state : Executor σ} (running : Running setup scenario references start said step state) :
    state.frame.Disciplined setup.maxDepth scenario.traceGas said := by
  -- By induction on the files around the step: each adds a level and a switch to those of the outer one.
  induction running with
  | own comes =>
    rw [comes.frame, launched.inside]
    exact ⟨rfl, rfl, Nat.zero_le _, rfl, rfl⟩
  | @nested said external outer _ _ _ comes outside =>
    obtain ⟨allowed, -, read, comes⟩ := comes
    rw [comes.frame, inside_readFile read (by exact outside.started)]
    have traces : outer.tracesGas = (said.findSome? id).getD scenario.traceGas := by
      change outer.frame.gasSwitches.headD false = _
      rw [List.headD_eq_head?_getD, outside.innermost]
      rfl
    refine ⟨outside.started, ?_, allowed, ?_, ?_⟩
    · exact congrArg (· + 1) outside.depth
    · exact congrArg (· + 1) outside.switches
    · change some (external.traceGas.getD outer.tracesGas) = _
      rw [traces, List.findSome?_cons]
      cases external.traceGas <;> rfl

/-- Files that run each other without end would become deeper without end. -/
theorem wellFounded_within :
    WellFounded fun inner outer : ExternalSteps × Executor σ =>
      Within setup outer.1 outer.2 (.externalSteps inner.1) inner.2 := by
  refine Subrelation.wf ?_ (measure fun run : ExternalSteps × Executor σ =>
    setup.maxDepth - run.2.depth).wf
  rintro ⟨_, state⟩ ⟨external, outer⟩ ⟨allowed, -, -, comes⟩
  have deeper : state.depth = outer.depth + 1 := congrArg Frame.depth comes.frame
  have above : outer.depth < setup.maxDepth := allowed
  change setup.maxDepth - state.depth < setup.maxDepth - outer.depth
  omega

/-- External steps run their file unless they are nested too deeply, and files do not run each other without
end. However they end, they leave the frame of a run that has started. Every step of a scenario at top level
or of a file within it runs in a frame that the external steps around it determine, and leaves it. -/
theorem externalSteps_disciplined (setup : Setup σ) :
    (∀ step outer, externalSteps setup step outer =
      if setup.maxDepth ≤ outer.depth then .error (.tooDeep setup.maxDepth step.path) outer
      else visitFile setup (externalSteps setup) step outer) ∧
    (WellFounded fun inner outer : ExternalSteps × Executor σ =>
      Within setup outer.1 outer.2 (.externalSteps inner.1) inner.2) ∧
    (∀ step executor, executor.started →
      (stateAfter (externalSteps setup step executor)).frame = executor.frame) ∧
    ∀ scenario references start said step state, Launched setup scenario references start →
      Running setup scenario references start said step state →
        state.frame.Disciplined setup.maxDepth scenario.traceGas said ∧
          (stateAfter (runStep setup step state)).frame = state.frame := by
  refine ⟨externalSteps_eq, wellFounded_within, restores_externalSteps, ?_⟩
  intro scenario references start said step state launched running
  have disciplined := launched.disciplined running
  exact ⟨disciplined, maintains_stepWith _ (· = state.frame)
    (restores_externalSteps.maintains disciplined.started) step state rfl⟩

end Running

/-! ## A file that runs itself -/

/-- External steps that trace gas whatever the file around them does. -/
def loop : ExternalSteps := ⟨"", "loop.json", some true⟩

/-- A single file, which runs itself, two levels deep at most. -/
def looping : Setup Dummy where
  machine := Dummy.machine
  files.root := .directory [("loop.json", .file (Utf8.ofString
    "\x7b\"steps\": [\x7b\"step\": \"externalSteps\", \"path\": \"loop.json\", \"traceGas\": true\x7d]\x7d"))]
  files.workingDirectory := "/"
  maxDepth := 2

/-- References from the file that runs itself. -/
def atLoop : References := ⟨"/loop.json", .empty⟩

/-- Whether steps are those of the file that runs itself. -/
def isLoop : List Step → Bool
  | [.externalSteps ⟨comment, path, traceGas⟩] =>
    comment = "" && path = "loop.json" && traceGas = some true
  | _ => false

theorem eq_of_isLoop {steps : List Step} (same : isLoop steps = true) :
    steps = [.externalSteps loop] := by
  unfold isLoop at same
  split at same
  · simp only [Bool.and_eq_true, decide_eq_true_eq] at same
    obtain ⟨⟨rfl, rfl⟩, rfl⟩ := same
    rfl
  · cases same

theorem read_loop : ∃ scenario within, readFile looping atLoop
      (looping.files.absolute (atLoop.resolve loop.path)) = .ok (scenario, within) ∧
    scenario.steps = [.externalSteps loop] := by
  have steps : ((readFile looping atLoop
      (looping.files.absolute (atLoop.resolve loop.path))).toOption.map
        fun file => isLoop file.1.steps) = some true := by decide +kernel
  obtain ⟨⟨scenario, within⟩, read, same⟩ := ok_of_toOption_map steps
  exact ⟨scenario, within, read, eq_of_isLoop same⟩

/-- The file that runs itself does so at depth one, where it traces gas although the scenario at top level
does not, and leaves that frame when it is stopped. -/
theorem externalSteps_disciplined_loop : ∃ state,
    Running looping { steps := [.externalSteps loop] } atLoop (.new Dummy.machine) [some true]
      (.externalSteps loop) state ∧
    state.frame.Disciplined 2 false [some true] ∧
    (stateAfter (runStep looping (.externalSteps loop) state)).frame = state.frame := by
  obtain ⟨scenario, within, read, steps⟩ := read_loop
  have outside : Running looping { steps := [.externalSteps loop] } atLoop (.new Dummy.machine) []
      (.externalSteps loop) _ := .own ⟨[], [], rfl, rfl⟩
  have inside : Running looping { steps := [.externalSteps loop] } atLoop (.new Dummy.machine)
      [some true] (.externalSteps loop) _ :=
    .nested outside ⟨by decide, rfl, read, [], [], steps, rfl⟩
  exact ⟨_, inside, (externalSteps_disciplined looping).2.2.2 _ _ _ _ _ _ (.new _ _) inside⟩

end Run
end ChainScenario
