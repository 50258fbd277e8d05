import ChainScenario.Run.Dump
import ChainScenario.Run.GasReport
import ChainScenario.Run.SetState
import ChainScenario.Run.Transaction
import ChainScenario.Scenario.Reader.Step

/-!
# Running scenarios

Steps run one after another until one fails. A file that is run by another one sees the same ledger
and machine; when it ends, whether well or not, the outer file goes on with its own references and
switches. How deeply files may run each other bounds the recursion.
-/
namespace ChainScenario.Run

open Expression (References)

/-- Switches the gas tracing of the machine, if it was started. -/
def setTracing (machine : Machine σ) (enable : Bool) : Run σ Unit :=
  modify fun executor =>
    if executor.started then { executor with machine := machine.setTracing enable executor.machine }
    else executor

/-- Prints the gas used so far, if gas is traced. -/
def reportGas (machine : Machine σ) : Run σ Unit := do
  let executor ← get
  if executor.tracesGas && executor.started then
    print (GasReport.render (machine.gasTrace executor.machine))

/-- Prints all accounts. -/
def dumpState : Run σ Unit := do
  let accounts ← ofExcept (Dump.worldJson (← world)) fun cause => .ledger (.tokenStorage cause)
  printLine ("world state dump:\n" ++ accounts.pretty)

/-- Compares the ledger with what is expected. -/
def checkState (step : CheckState) : Run σ Unit := do
  let mismatches ← ofExcept (StateCheck.compare (← world) step) .ledger
  if !mismatches.isEmpty then throw (.wrongState step.identifier mismatches)

/-- Runs a step; `external` runs the files of external steps. -/
def stepWith (machine : Machine σ) (external : ExternalSteps → Run σ Unit) (step : Step) :
    Run σ Unit := do
  match step with
  | .externalSteps step => external step
  | .setState step => onWorld step.apply id; reportGas machine
  | .checkState step => checkState step; reportGas machine
  | .transaction step => transactionStep machine step; reportGas machine
  | .dumpState _ => dumpState; reportGas machine

/-- Starts the machine, unless it was started before. -/
def startMachine (machine : Machine σ) (schedule : GasSchedule) : Run σ Unit := do
  if !(← get).started then
    let costs ← onMachine (machine.gasCosts schedule)
    -- the ledger keeps the costs even if the machine does not start
    modify fun executor => { executor with world := executor.world.withCosts costs }
    onMachine (machine.start costs)
    modify fun executor => { executor with started := true }

/-- Takes over the switches of a scenario and how it refers to files. -/
def enterScenario (scenario : Scenario) (references : References) : Run σ Unit :=
  modify fun executor =>
    { executor with
      references := some references
      checkGas := scenario.checkGas
      gasSwitches :=
        if !executor.started || scenario.isNewTest then [scenario.traceGas]
        else executor.gasSwitches }

/-- Runs an action and what must follow it, whether it fails or not. -/
def afterwards (action : Run σ α) (final : Executor σ → Executor σ) : Run σ α := fun executor =>
  match action executor with
  | .ok value executor => .ok value (final executor)
  | .error fault executor => .error fault (final executor)

/-- The state of a run when tracing is off. -/
def Executor.quiet (machine : Machine σ) (executor : Executor σ) : Executor σ :=
  if executor.started then { executor with machine := machine.setTracing false executor.machine }
  else executor

def tracedStep (machine : Machine σ) (external : ExternalSteps → Run σ Unit) (step : Step) :
    Run σ Unit := do
  setTracing machine (← get).tracesGas
  afterwards (stepWith machine external step) (Executor.quiet machine)

def scenarioWith (machine : Machine σ) (external : ExternalSteps → Run σ Unit)
    (scenario : Scenario) (references : References) : Run σ Unit := do
  enterScenario scenario references
  startMachine machine scenario.gasSchedule
  scenario.steps.forM (tracedStep machine external)

/-- How a file is run. -/
structure FileOptions where
  /-- Whether the machine and the ledger start afresh. -/
  newTest : Bool := false
  /-- Whether gas is traced whatever the file says. -/
  forceTraceGas : Bool := false

/-- Reads a scenario file; its path is where its references start from. -/
def readFile (setup : Setup σ) (references : References) (path : String) :
    Except Fault (Scenario × References) := do
  let contents ← (setup.files.read path).mapError (.unreadable path)
  let references := { references with context := path }
  let scenario ← (Scenario.read ⟨setup.machine.vmType, references, setup.files⟩ contents).mapError
    .scenario
  return (scenario, references)

def withOptions (options : FileOptions) (scenario : Scenario) : Scenario :=
  { scenario with
    isNewTest := scenario.isNewTest || options.newTest
    traceGas := scenario.traceGas || options.forceTraceGas }

/-- Runs a scenario file. -/
def fileWith (setup : Setup σ) (external : ExternalSteps → Run σ Unit) (references : References)
    (path : String) (options : FileOptions) : Run σ Unit := do
  let (scenario, references) ← ofExcept
    (readFile setup references (setup.files.absolute path)) id
  scenarioWith setup.machine external (withOptions options scenario) references

/-- The state of a run that starts with a file of another one. -/
def Executor.enterFile (traceGas : Bool) (executor : Executor σ) : Executor σ :=
  { executor with
    gasSwitches := traceGas :: executor.gasSwitches
    depth := executor.depth + 1 }

/-- The state of a run that goes on after a file of another one. -/
def Executor.leaveFile (outer executor : Executor σ) : Executor σ :=
  { executor with
    references := outer.references
    checkGas := outer.checkGas
    gasSwitches := executor.gasSwitches.tail
    depth := executor.depth - 1 }

/-- Runs the file of external steps with at most `levels` files within each other. -/
def externalStepsWithin (setup : Setup σ) : Nat → ExternalSteps → Run σ Unit
  | 0, step => throw (.tooDeep setup.maxDepth step.path)
  | levels + 1, step => do
    let outer ← get
    match outer.references with
    | none => throw (.noContext step.path)
    | some references =>
      -- the switch of the file itself counts for nothing here
      modify (Executor.enterFile (step.traceGas.getD outer.tracesGas))
      afterwards
        (fileWith setup (externalStepsWithin setup levels) references
          (references.resolve step.path) {})
        (Executor.leaveFile outer)

/-- Runs the file of external steps as deeply as allowed. -/
def externalSteps (setup : Setup σ) (step : ExternalSteps) : Run σ Unit := do
  externalStepsWithin setup (setup.maxDepth - (← get).depth) step

def runStep (setup : Setup σ) : Step → Run σ Unit := stepWith setup.machine (externalSteps setup)

def runScenario (setup : Setup σ) : Scenario → References → Run σ Unit :=
  scenarioWith setup.machine (externalSteps setup)

/-- Runs a scenario file. -/
def runFile (setup : Setup σ) : References → String → FileOptions → Run σ Unit :=
  fileWith setup (externalSteps setup)

/-- Forgets the ledger and what the machine keeps. -/
def reset (machine : Machine σ) : Run σ Unit :=
  modify fun executor =>
    { executor with
      machine := if executor.started then machine.reset executor.machine else executor.machine
      world := executor.world.clear }

end ChainScenario.Run
