import ChainScenario.Builtin.Run
import ChainScenario.Machine.Basic

/-!
# The dummy machine

A machine that cannot run contract code. Deployments succeed without a constructor, owners may upgrade
their contracts, built-in functions work, and any other call ends with an invalid contract.
-/
namespace ChainScenario

/-- The state of the dummy machine. -/
structure Dummy where
  tracing : Bool
  trace : GasTrace
  deriving Inhabited

namespace Dummy

/-- The machine before its first call. -/
def fresh : Dummy := ⟨false, .empty⟩

/-- The operations every contract uses. -/
def baseOperations : List String :=
  ["StorePerByte", "ReleasePerByte", "DataCopyPerByte", "PersistPerByte", "CompilePerByte",
    "AoTPreparePerByte", "GetCode"]

/-- A section in which every operation costs one. -/
def unitCosts (names : List String) : OrdMap String UInt64 :=
  .ofList (names.map fun name => (name, 1))

/-- Gas costs of one for every known operation. -/
def gasCosts : GasCosts :=
  .ofList [(builtinSection, unitCosts (Builtin.Function.all.map (·.name))),
    ("BaseOperationCost", unitCosts baseOperations)]

/-- Records a call that used no gas, if gas is recorded. -/
def record (address : Bytes) (function : String) (dummy : Dummy) : Dummy :=
  if dummy.tracing then { dummy with trace := dummy.trace.record address function 0 } else dummy

/-- The metadata given, or the usual one if none is. -/
def metadataOrDefault (metadata : Bytes) : Bytes :=
  if metadata.isEmpty then Account.defaultCodeMetadata else metadata

def installed (input : CallInput) (address code metadata : Bytes) : CallOutput :=
  { CallOutput.success with
    gasRemaining := input.gasProvided
    changes := OrdMap.empty.insert address
      ⟨0, input.value, [], code, metadataOrDefault metadata, input.caller⟩ }

/-- Deploys a contract at an address that depends on the creator and its nonce. -/
def create (creation : Creation) : Machine.Action Dummy CallOutput := do
  let caller := creation.input.caller
  let (_, world) ← get
  let nonce := ((world.account? caller).map (·.nonce)).getD 0
  -- the nonce was raised when the transaction was charged
  let address ← .onWorld (World.createAddress caller (if nonce = 0 then 0 else nonce - 1))
  .onState (record address "init")
  return installed creation.input address creation.code creation.codeMetadata

/-- Replaces the code of a contract; only its owner may. -/
def upgrade (world : World) (call : Call) : CallOutput :=
  match world.account? call.recipient with
  | none => .failure .contractNotFound "contract not found"
  | some contract =>
    if contract.owner ≠ call.input.caller then .failure .upgradeFailed "upgrade not allowed"
    else
      let code := call.input.arguments.headD []
      if code.isEmpty then .failure .upgradeFailed "missing contract code"
      else installed call.input call.recipient code ((call.input.arguments.drop 1).headD [])

/-- Calls a function: a built-in one or the upgrade of a contract. -/
def call (call : Call) : Machine.Action Dummy CallOutput := do
  .onState (record call.recipient call.function)
  if Builtin.isBuiltin call.function then .onWorld (Builtin.run call)
  else if call.function = upgradeFunction then return upgrade (← get).2 call
  else return .failure .contractInvalid "dummy VM cannot execute contract code"

def machine : Machine Dummy where
  vmType := [0, 0]
  initial := fresh
  gasCosts _ := return gasCosts
  start _ := set fresh
  create := create
  call := call
  setTracing enable dummy := { dummy with tracing := enable }
  gasTrace := trace
  reset dummy := { dummy with trace := .empty }

end Dummy
end ChainScenario
