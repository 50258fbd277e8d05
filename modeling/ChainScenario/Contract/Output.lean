import ChainScenario.Contract.ReturnCode
import ChainScenario.OrdMap
import ChainScenario.Bytes.Basic

/-!
# Results of calls

What a call returns, and the changes of accounts it asks for.
-/
namespace ChainScenario

/-- The changes asked for on an account. -/
structure AccountChange where
  nonce : UInt64
  balanceDelta : Int
  /-- Storage entries to write, in order. -/
  storage : List (Bytes × Bytes)
  code : Bytes
  codeMetadata : Bytes
  codeDeployer : Bytes
  deriving DecidableEq, Repr, Inhabited

def AccountChange.none : AccountChange := ⟨0, 0, [], [], [], []⟩

/-- An event. -/
structure LogEntry where
  identifier : Bytes
  address : Bytes
  topics : List Bytes
  data : List Bytes
  deriving DecidableEq, Repr, Inhabited

/-- The result of a call; the changes count only if the call ended well. -/
structure CallOutput where
  returnData : List Bytes
  returnCode : ReturnCode
  message : String
  gasRemaining : UInt64
  gasRefund : Nat
  /-- The changes by address. -/
  changes : OrdMap Bytes AccountChange
  /-- The accounts to delete. -/
  deleted : List Bytes
  logs : List LogEntry

namespace CallOutput

/-- Success without any effect. -/
def success : CallOutput := ⟨[], .ok, "", 0, 0, .empty, [], []⟩

instance : Inhabited CallOutput := ⟨success⟩

/-- Failure without any effect. -/
def failure (code : ReturnCode) (message : String) : CallOutput :=
  { success with returnCode := code, message := message }

/-- Whether the call ended well. -/
def succeeded (output : CallOutput) : Bool := output.returnCode == .ok

end CallOutput
end ChainScenario
