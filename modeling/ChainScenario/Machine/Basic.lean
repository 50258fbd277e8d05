import ChainScenario.Builtin.Function
import ChainScenario.Contract.Gas
import ChainScenario.Scenario.Basic

/-!
# Virtual machines

What a run needs of the machine under test. The ledger is lent to the machine for the duration of a
call; between calls the machine keeps only its own state.
-/
namespace ChainScenario

namespace Machine

/-- Why a machine gives no result. -/
inductive Fault where
  /-- The machine itself fails. -/
  | failed (message : String)
  /-- The ledger fails. -/
  | ledger (fault : World.Fault)
  deriving DecidableEq, Repr

/-- Why a machine gives no result, in words. -/
def Fault.message : Fault → String
  | failed message => message
  | ledger fault => fault.message

/-- What a machine does with the ledger while it runs a call. -/
abbrev Action (σ α : Type) := EStateM Fault (σ × World) α

/-- An operation on the ledger alone. -/
def Action.onWorld (action : World.Action α) : Action σ α := fun (state, world) =>
  match action world with
  | .ok value world => .ok value (state, world)
  | .error fault world => .error (.ledger fault) (state, world)

def Action.onState (change : σ → σ) : Action σ Unit := modify fun (state, world) => (change state, world)

end Machine

/-- A virtual machine with states `σ`. -/
structure Machine (σ : Type) where
  /-- The machine type in addresses of contracts. -/
  vmType : Bytes
  /-- The state before the machine is started. -/
  initial : σ
  gasCosts : GasSchedule → EStateM Machine.Fault σ GasCosts
  start : GasCosts → EStateM Machine.Fault σ Unit
  /-- Deploys a contract. -/
  create : Creation → Machine.Action σ CallOutput
  /-- Calls a function of a contract. -/
  call : Call → Machine.Action σ CallOutput
  /-- Starts or stops recording gas. -/
  setTracing : Bool → σ → σ
  /-- The gas recorded so far. -/
  gasTrace : σ → GasTrace
  /-- Forgets contracts and recorded gas. -/
  reset : σ → σ

end ChainScenario
