import ChainScenario.Machine.Dummy
import ChainScenario.Proofs.Alike
import ChainScenario.Proofs.Frames

/-!
# What decides a run over the dummy machine

How a step over the dummy machine ends, and what it makes of the ledger, depends on nothing but the
ledger, on whether the machine was started and on whether remaining gas is compared. Main statement:
`alike_stepWith`.
-/
namespace ChainScenario

open Expression (References)

namespace Machine.Action

/-- The ledger that is lent to a machine is the same. -/
def SameWorld {σ : Type} (state other : σ × World) : Prop := state.2 = other.2

variable {σ α : Type}

theorem alike_onWorld (action : World.Action α) :
    Alike SameWorld (onWorld action : Machine.Action σ α) (onWorld action) := by
  rintro ⟨machine, world⟩ ⟨machine', _⟩ rfl
  change Matches SameWorld (onWorld action (machine, world)) (onWorld action (machine', world))
  unfold onWorld
  dsimp only
  split
  · exact .ok _ rfl
  · exact .error _ rfl

theorem alike_onState (change : σ → σ) :
    Alike SameWorld (onState change : Machine.Action σ Unit) (onState change) := by
  rintro ⟨machine, world⟩ ⟨machine', _⟩ rfl
  exact .ok _ rfl

end Machine.Action

namespace Dummy

open Machine.Action

theorem alike_create (creation : Creation) :
    Alike SameWorld (create creation) (create creation) := by
  unfold create
  refine alike_get_bind ?_
  rintro ⟨machine, world⟩ ⟨machine', _⟩ rfl
  refine Matches.bind (alike_onWorld _ _ _ rfl) fun _ => ?_
  exact (alike_onState _).bind fun _ => alike_pure _

theorem alike_call (call : Call) : Alike SameWorld (Dummy.call call) (Dummy.call call) := by
  refine (alike_onState _).bind fun _ => ?_
  split
  · exact alike_onWorld _
  split
  · refine alike_get_bind ?_
    rintro ⟨machine, world⟩ ⟨machine', _⟩ rfl
    exact .ok _ rfl
  · exact alike_pure _

end Dummy

namespace Run

variable {σ : Type}

/-- Two states have the same ledger, and the same of what decides how steps end. -/
structure Even (state other : Executor σ) : Prop where
  world : state.world = other.world
  started : state.started = other.started
  checkGas : state.checkGas = other.checkGas

namespace Even

variable {state other third : Executor σ}

theorem symm (even : Even state other) : Even other state :=
  ⟨even.world.symm, even.started.symm, even.checkGas.symm⟩

theorem trans (even : Even state other) (further : Even other third) : Even state third :=
  ⟨even.world.trans further.world, even.started.trans further.started,
    even.checkGas.trans further.checkGas⟩

end Even

/-! ## Operations -/

section Operations

variable {ε α : Type}

theorem alike_onWorld (action : EStateM ε World α) (wrap : ε → Fault) :
    Alike Even (onWorld action wrap : Run σ α) (onWorld action wrap) := by
  intro state other even
  unfold onWorld
  rw [even.world]
  split
  · exact .ok _ ⟨rfl, even.started, even.checkGas⟩
  · exact .error _ ⟨rfl, even.started, even.checkGas⟩

theorem alike_onStarted {action : Machine.Action σ α}
    (alike : Alike Machine.Action.SameWorld action action) :
    Alike Even (onStarted action) (onStarted action) := by
  intro state other even
  unfold onStarted
  rw [even.started]
  split
  · -- The machines may differ, but not in what they make of the ledger.
    obtain ⟨value, _, _, ran, ran', same⟩ | ⟨fault, _, _, ran, ran', same⟩ :=
      (alike (state.machine, state.world) (other.machine, other.world) even.world).ends
    · rw [ran, ran']
      exact .ok _ ⟨same, rfl, even.checkGas⟩
    · rw [ran, ran']
      exact .error _ ⟨same, rfl, even.checkGas⟩
  · exact .error _ even

theorem alike_world : Alike Even (world : Run σ World) world := by
  intro state other even
  change Matches Even (.ok state.world state) (.ok other.world other)
  rw [even.world]
  exact .ok _ even

/-- An action cannot fail and changes nothing that decides how steps end. -/
def Silent (action : Run σ Unit) : Prop :=
  ∀ state, ∃ after, action state = .ok () after ∧ Even state after

theorem alike_of_silent {left right : Run σ Unit} (silent : Silent left) (silent' : Silent right) :
    Alike Even left right := by
  intro state other even
  obtain ⟨after, ran, same⟩ := silent state
  obtain ⟨after', ran', same'⟩ := silent' other
  rw [ran, ran']
  exact .ok _ (same.symm.trans (even.trans same'))

theorem silent_print (text : String) : Silent (print text : Run σ Unit) :=
  fun _ => ⟨_, rfl, rfl, rfl, rfl⟩

theorem silent_printGas (tx description : String) (given : UInt64) (output : CallOutput) :
    Silent (printGas tx description given output : Run σ Unit) := by
  intro state
  rw [printGas, get_bind]
  split
  · exact silent_print _ state
  · exact ⟨state, rfl, rfl, rfl, rfl⟩

theorem silent_reportGas (machine : Machine σ) : Silent (reportGas machine) := by
  intro state
  rw [reportGas, get_bind]
  split
  · exact silent_print _ state
  · exact ⟨state, rfl, rfl, rfl, rfl⟩

theorem even_quiet (machine : Machine σ) (state : Executor σ) : Even state (state.quiet machine) := by
  unfold Executor.quiet
  split <;> exact ⟨rfl, rfl, rfl⟩

theorem silent_setTracing (machine : Machine σ) (enable : Bool) :
    Silent (setTracing machine enable) := by
  refine fun state => ⟨_, rfl, ?_⟩
  dsimp only
  split <;> exact ⟨rfl, rfl, rfl⟩

end Operations

/-! ## Transactions -/

section Transactions

theorem alike_receiverOf (transaction : Transaction) :
    Alike Even (receiverOf transaction : Run σ Account) (receiverOf transaction) := by
  refine alike_world.bind fun world => ?_
  split
  · exact alike_pure _
  · exact alike_throw _

theorem alike_moveTokens (call : Call) :
    Alike Even (moveTokens call : Run σ CallOutput) (moveTokens call) := by
  refine (alike_onWorld _ _).bind fun output => ?_
  split
  · exact alike_pure _
  · exact alike_throw _

theorem alike_callContract (tx : String) (transaction : Transaction) :
    Alike Even (callContract Dummy.machine tx transaction)
      (callContract Dummy.machine tx transaction) := by
  have called := alike_onStarted (Dummy.alike_call (callOf transaction (transactionHash tx)))
  refine (alike_receiverOf transaction).bind fun receiver => ?_
  split
  · exact alike_throw _
  · dsimp only
    split
    · exact (alike_moveTokens _).bind fun _ => called
    · exact called

theorem alike_printed {action : Run σ CallOutput} (alike : Alike Even action action)
    {tx description : String} {given : UInt64} :
    Alike Even (action >>= fun output => printGas tx description given output >>= fun _ => pure output)
      (action >>= fun output => printGas tx description given output >>= fun _ => pure output) :=
  alike.bind fun _ => (alike_of_silent (silent_printGas _ _ _ _) (silent_printGas _ _ _ _)).bind
    fun _ => alike_pure _

theorem alike_outcome (tx : String) (transaction : Transaction) (gas : UInt64) :
    Alike Even (outcome Dummy.machine tx transaction gas)
      (outcome Dummy.machine tx transaction gas) := by
  unfold outcome
  split
  · exact alike_printed (alike_onStarted (Dummy.alike_create _))
  · exact alike_callContract _ _
  · exact alike_printed (alike_callContract _ _)
  · exact alike_printed (alike_callContract _ _)
  · split
    · exact alike_pure _
    · exact alike_moveTokens _
  · exact (alike_receiverOf _).bind fun _ => alike_pure _

theorem alike_applyOutcome (transaction : Transaction) (output : CallOutput) :
    Alike Even (applyOutcome transaction output : Run σ Unit) (applyOutcome transaction output) := by
  unfold applyOutcome
  dsimp only
  split
  · refine (alike_onWorld _ _).bind fun _ => (alike_onWorld _ _).bind fun _ => ?_
    split
    · exact alike_throw _
    · exact alike_pure _
  · exact (alike_onWorld _ _).bind fun _ => alike_pure _

theorem alike_perform (tx : String) (transaction : Transaction) (gas : UInt64) :
    Alike Even (perform Dummy.machine tx transaction gas)
      (perform Dummy.machine tx transaction gas) := by
  refine alike_world.bind fun world => ?_
  split
  · refine (alike_outcome _ _ _).bind fun output => ?_
    split
    · exact (alike_applyOutcome _ _).bind fun _ => alike_pure _
    · exact alike_pure _
  · exact alike_pure _

theorem alike_bracket {action : Run σ CallOutput} (alike : Alike Even action action) :
    Alike Even (bracket action) (bracket action) := by
  refine (alike_onWorld _ _).bind fun _ => (alike_attempt alike).bind fun ended => ?_
  split
  · split
    · exact (alike_onWorld _ _).bind fun _ => alike_pure _
    · exact (alike_onWorld _ _).bind fun _ => alike_pure _
  · exact (alike_onWorld _ _).bind fun _ => alike_throw _

theorem alike_transact (tx : String) (transaction : Transaction) :
    Alike Even (transact Dummy.machine tx transaction) (transact Dummy.machine tx transaction) := by
  unfold transact
  dsimp only
  split
  · exact (alike_onWorld _ _).bind fun _ => alike_bracket (alike_perform _ _ _)
  · exact alike_bracket (alike_perform _ _ _)

theorem alike_transactionStep (step : TransactionStep) :
    Alike Even (transactionStep Dummy.machine step) (transactionStep Dummy.machine step) := by
  refine (alike_transact _ _).bind fun output => alike_get_bind fun state other even => ?_
  -- The comparison with what was expected reads nothing but the switch for remaining gas.
  rw [even.checkGas]
  exact alike_takeOver _ _ _ _ even

end Transactions

/-! ## Steps -/

section Steps

variable {external external' : ExternalSteps → Run Dummy Unit}

/-- A step over the dummy machine that is not external is decided by the ledger, by whether the machine was
started and by whether remaining gas is compared. -/
theorem alike_stepWith {step : Step} (own : ∀ nested, step ≠ .externalSteps nested) :
    Alike Even (stepWith Dummy.machine external step) (stepWith Dummy.machine external' step) := by
  have reports : Alike Even (reportGas Dummy.machine) (reportGas Dummy.machine) :=
    alike_of_silent (silent_reportGas _) (silent_reportGas _)
  cases step with
  | externalSteps nested => exact absurd rfl (own nested)
  | setState step => exact (alike_onWorld _ _).bind fun _ => reports
  | checkState step =>
    refine Alike.bind (alike_world.bind fun world => (alike_takeOver _ _).bind fun mismatches => ?_)
      fun _ => reports
    split
    · exact alike_throw _
    · exact alike_pure _
  | transaction step => exact (alike_transactionStep step).bind fun _ => reports
  | dumpState _ =>
    refine Alike.bind (alike_world.bind fun world => (alike_takeOver _ _).bind fun accounts => ?_)
      fun _ => reports
    exact alike_of_silent (silent_print _) (silent_print _)

theorem alike_tracedStep_own {step : Step} (own : ∀ nested, step ≠ .externalSteps nested) :
    Alike Even (tracedStep Dummy.machine external step)
      (tracedStep Dummy.machine external' step) := by
  refine alike_traced (fun state other even => ?_) (fun state other even => ?_) (alike_stepWith own)
  · exact alike_of_silent (silent_setTracing _ _) (silent_setTracing _ _) state other even
  · exact (even_quiet _ state).symm.trans (even.trans (even_quiet _ other))

end Steps

/-! ## Scenarios and files -/

section Files

/-- Two states differ at most in what the machine keeps for itself and in what was printed. -/
def Level (state other : Executor σ) : Prop := Even state other ∧ state.frame = other.frame

theorem level_of_frame {state other : Executor σ} (world : state.world = other.world)
    (frame : state.frame = other.frame) : Level state other :=
  ⟨⟨world, congrArg Frame.started frame, congrArg Frame.checkGas frame⟩, frame⟩

theorem alike_level {left right : Run σ α} (alike : Alike Even left right)
    (keeps : Keeps Executor.frame left) (keeps' : Keeps Executor.frame right) :
    Alike Level left right :=
  alike.and fun state other same => (keeps state).trans (same.trans (keeps' other).symm)

variable {external external' : ExternalSteps → Run Dummy Unit}

theorem alike_tracedStep (nested : ∀ step, Alike Level (external step) (external' step)) (step : Step) :
    Alike Level (tracedStep Dummy.machine external step)
      (tracedStep Dummy.machine external' step) := by
  refine alike_traced (fun state other level => ?_) (fun state other level => ?_) ?_
  · exact alike_level (alike_of_silent (silent_setTracing _ _) (silent_setTracing _ _))
      (framed_setTracing _ _) (framed_setTracing _ _) state other level
  · exact ⟨(even_quiet _ state).symm.trans (level.1.trans (even_quiet _ other)),
      (frame_quiet _ state).trans (level.2.trans (frame_quiet _ other).symm)⟩
  · cases step with
    | externalSteps step => exact nested step
    | _ =>
      exact alike_level (alike_stepWith (by simp)) (framed_stepWith _ (by simp))
        (framed_stepWith _ (by simp))

theorem alike_startMachine (schedule : GasSchedule) :
    Alike Level (startMachine Dummy.machine schedule) (startMachine Dummy.machine schedule) := by
  refine alike_get_bind fun state other level => ?_
  rw [level.1.started]
  split
  · -- The table of costs belongs to the machine, not to its state, so both ledgers get the same.
    refine .ok _ (level_of_frame ?_ ?_)
    · exact congrArg (World.withCosts · Dummy.gasCosts) level.1.world
    · exact congrArg (fun frame => { frame with started := true }) level.2
  · exact .ok _ level

theorem alike_scenarioWith (nested : ∀ step, Alike Level (external step) (external' step))
    (scenario : Scenario) (references : References) :
    Alike Level (scenarioWith Dummy.machine external scenario references)
      (scenarioWith Dummy.machine external' scenario references) := by
  have enters : Alike Level (enterScenario scenario references : Run Dummy Unit)
      (enterScenario scenario references) := by
    refine alike_modify fun state other level => level_of_frame level.1.world ?_
    exact congrArg (fun frame => { frame with
      references := some references
      checkGas := scenario.checkGas
      gasSwitches := if !frame.started || scenario.isNewTest then [scenario.traceGas]
        else frame.gasSwitches }) level.2
  exact enters.bind fun _ => (alike_startMachine _).bind fun _ =>
    alike_forM fun step _ => alike_tracedStep nested step

/-- Runs over the dummy machine. -/
def onDummy (files : Files.Tree) (maxDepth : Nat) : Setup Dummy := ⟨Dummy.machine, files, maxDepth⟩

variable (files : Files.Tree) (maxDepth : Nat)

theorem alike_fileWith_level (nested : ∀ step, Alike Level (external step) (external' step))
    (references : References) (path : String) (options : FileOptions) :
    Alike Level (fileWith (onDummy files maxDepth) external references path options)
      (fileWith (onDummy files maxDepth) external' references path options) :=
  (alike_takeOver _ _).bind fun _ => alike_scenarioWith nested _ _

theorem alike_externalStepsWithin (levels : Nat) (step : ExternalSteps) :
    Alike Level (externalStepsWithin (onDummy files maxDepth) levels step)
      (externalStepsWithin (onDummy files maxDepth) levels step) := by
  -- By induction on the levels: both sides enter a file, and leave it, in one frame.
  induction levels generalizing step with
  | zero => exact alike_throw _
  | succ levels ih =>
    intro state other level
    have switches : state.tracesGas = other.tracesGas :=
      congrArg (fun frame => frame.gasSwitches.headD false) level.2
    rw [externalStepsWithin_succ, visitFile, visitFile, switches,
      show state.references = other.references from congrArg Frame.references level.2]
    split
    · exact .error _ level
    · refine alike_afterwards (alike_fileWith_level files maxDepth ih _ _ _) ?_ _ _ ?_
      · intro inner inner' within
        refine level_of_frame within.1.world ?_
        rw [frame_leaveFile, frame_leaveFile, level.2, within.2]
      · refine level_of_frame level.1.world ?_
        exact congrArg (fun frame => { frame with
          gasSwitches := step.traceGas.getD other.tracesGas :: frame.gasSwitches
          depth := frame.depth + 1 }) level.2

theorem alike_externalSteps (step : ExternalSteps) :
    Alike Level (externalSteps (onDummy files maxDepth) step)
      (externalSteps (onDummy files maxDepth) step) := by
  refine alike_get_bind fun state other level => ?_
  rw [show state.depth = other.depth from congrArg Frame.depth level.2]
  exact alike_externalStepsWithin files maxDepth _ step _ _ level

end Files

end Run
end ChainScenario
