import ChainScenario.Builtin.Accounts
import ChainScenario.Builtin.Tokens

/-!
# Running built-in functions

A call is paid for, carried out, and its refusal turned into a return code.
-/
namespace ChainScenario.Builtin

def Function.action : Function → Call → Action CallOutput
  | tokenTransfer => Builtin.tokenTransfer
  | instanceTransfer => Builtin.instanceTransfer
  | multiTransfer => Builtin.multiTransfer
  | localMint => Builtin.localMint
  | localBurn => Builtin.localBurn
  | create => Builtin.create
  | addQuantity => Builtin.addQuantity
  | burn => Builtin.burn
  | addUris => Builtin.addUris
  | updateAttributes => Builtin.updateAttributes
  | setRoles => changeRoles grant
  | unsetRoles => changeRoles revoke
  | changeOwner => Builtin.changeOwner
  | claimRewards => Builtin.claimRewards
  | setUsername => Builtin.setUsername
  | saveKeyValue => Builtin.saveKeyValue

/-- The result of an action, a refusal being a result too. -/
def settle (gasLeft : UInt64) (action : Action CallOutput) : World.Action CallOutput := fun world =>
  match action world with
  | .ok output world => .ok { output with gasRemaining := gasLeft } world
  | .error (.refused refusal) world => .ok (.failure .userError refusal.message) world
  | .error (.broken fault) world => .error fault world

/-- Runs the built-in function that a call names. -/
def run (call : Call) : World.Action CallOutput := do
  match (← get).builtinCosts with
  | none => throw .builtinsNotReady
  | some costs =>
    match Function.ofName? call.function with
    | none => throw (.functionNotFound call.function)
    | some function =>
      let cost := costs.getD call.function 0
      if call.input.gasProvided < cost then return .failure .outOfGas "not enough gas"
      else settle (call.input.gasProvided - cost) (function.action call)

end ChainScenario.Builtin
