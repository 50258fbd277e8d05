import ChainScenario.Builtin.Function

/-!
# Built-in functions on accounts

Owners, rewards, user names and plain storage.
-/
namespace ChainScenario.Builtin

open Builtin.Action

def ownContract (call : Call) : Action Account := do
  demand (Address.isContract call.recipient) .invalidAddress
  let contract ← need ((← get).account? call.recipient) .invalidAddress
  demand (contract.owner == call.input.caller) .operationNotPermitted
  return contract

def changeOwner (call : Call) : Action CallOutput := do
  match call.input.arguments with
  | [owner] =>
    demand (owner.length == Address.length) .invalidArguments
    let contract ← ownContract call
    put call.recipient { contract with owner := owner }
    return .success
  | _ => refuse .invalidArguments

/-- Pays the rewards of a contract out to its owner. -/
def claimRewards (call : Call) : Action CallOutput := do
  match call.input.arguments with
  | [] =>
    let contract ← ownContract call
    put call.recipient { contract with developerReward := 0 }
    -- looked up only now: a contract may own itself
    let owner := (← get).accountOrBlank call.input.caller
    put call.input.caller { owner with balance := owner.balance + contract.developerReward }
    return { CallOutput.success with returnData := [Bytes.ofNat contract.developerReward] }
  | _ => refuse .invalidArguments

/-- Gives a user name to an account that has none. -/
def setUsername (call : Call) : Action CallOutput := do
  match call.input.arguments with
  | [username] =>
    demand (!username.isEmpty) .invalidArguments
    let account := (← get).accountOrBlank call.recipient
    demand account.username.isEmpty .usernameTaken
    put call.recipient { account with username := username }
    return .success
  | _ => refuse .invalidArguments

/-- The keys and values of a list in which they alternate. -/
def pairs? : List Bytes → Option (List (Bytes × Bytes))
  | [] => some []
  | [_] => none
  | key :: value :: rest => (pairs? rest).map ((key, value) :: ·)

/-- Stores values under keys that are not the protocol's. -/
def saveKeyValue (call : Call) : Action CallOutput := do
  demand (call.recipient == call.input.caller) .operationNotPermitted
  let entries ← need (pairs? call.input.arguments) .invalidArguments
  demand (!entries.isEmpty) .invalidArguments
  demand (entries.all fun entry => !Address.isProtected entry.1) .operationNotPermitted
  let account := (← get).accountOrBlank call.recipient
  put call.recipient (entries.foldl (fun account entry => account.save entry.1 entry.2) account)
  return .success

end ChainScenario.Builtin
