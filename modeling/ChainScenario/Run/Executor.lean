import ChainScenario.Expression.References
import ChainScenario.Run.Fault

/-!
# Executors

The state of a run: the ledger, the machine, and what belongs to the scenario file that is being run.
What a run prints is part of the state.
-/
namespace ChainScenario.Run

/-- What stays the same during a run. -/
structure Setup (σ : Type) where
  machine : Machine σ
  files : Files.Tree
  /-- How deeply files may run each other. -/
  maxDepth : Nat

/-- The state of a run. -/
structure Executor (σ : Type) where
  world : World
  machine : σ
  /-- Whether the machine was started. -/
  started : Bool
  /-- Whether remaining gas is compared. -/
  checkGas : Bool
  /-- Whether gas is traced, for every file that is being run, innermost first. -/
  gasSwitches : List Bool
  references : Option Expression.References
  /-- How many files are being run by other files. -/
  depth : Nat
  printed : String

/-- The state before any run. -/
def Executor.new (machine : Machine σ) : Executor σ where
  world := .new machine.vmType
  machine := machine.initial
  started := false
  checkGas := true
  gasSwitches := []
  references := none
  depth := 0
  printed := ""

def Executor.tracesGas (executor : Executor σ) : Bool := executor.gasSwitches.headD false

end Run

/-- A run that may end early. -/
abbrev Run (σ α : Type) := EStateM Run.Fault (Run.Executor σ) α

namespace Run

/-- An operation on the ledger. -/
def onWorld (action : EStateM ε World α) (wrap : ε → Fault) : Run σ α := fun executor =>
  match action executor.world with
  | .ok value world => .ok value { executor with world := world }
  | .error fault world => .error (wrap fault) { executor with world := world }

/-- An operation of the machine that does not see the ledger. -/
def onMachine (action : EStateM Machine.Fault σ α) : Run σ α := fun executor =>
  match action executor.machine with
  | .ok value machine => .ok value { executor with machine := machine }
  | .error fault machine => .error (.ofMachine fault) { executor with machine := machine }

def onStarted (action : Machine.Action σ α) : Run σ α := fun executor =>
  if executor.started then
    match action (executor.machine, executor.world) with
    | .ok value (machine, world) => .ok value { executor with machine := machine, world := world }
    | .error fault (machine, world) =>
      .error (.ofMachine fault) { executor with machine := machine, world := world }
  else .error .noMachine executor

def print (text : String) : Run σ Unit :=
  modify fun executor => { executor with printed := executor.printed ++ text }

def printLine (text : String) : Run σ Unit := print (text ++ "\n")

/-- The ledger. -/
def world : Run σ World := return (← get).world

/-- Takes over a result that does not depend on the state. -/
def ofExcept (result : Except ε α) (wrap : ε → Fault) : Run σ α :=
  match result with
  | .ok value => pure value
  | .error fault => throw (wrap fault)

/-- The result of an action, a fault being a result too. -/
def attempt (action : Run σ α) : Run σ (Except Fault α) := fun executor =>
  match action executor with
  | .ok value executor => .ok (.ok value) executor
  | .error fault executor => .ok (.error fault) executor

end ChainScenario.Run
