import ChainScenario.Token.Basic

/-!
# Calls

What a contract or a built-in function is called with.
-/
namespace ChainScenario

/-- The function that replaces the code of a contract. -/
def upgradeFunction : String := "upgradeContract"

/-- An amount of a token that comes with a call. -/
structure TokenTransfer where
  token : Bytes
  nonce : UInt64
  value : Nat
  kind : Token.Kind
  deriving DecidableEq, Repr, Inhabited

/-- What every call comes with. -/
structure CallInput where
  caller : Bytes
  arguments : List Bytes
  value : Nat
  gasPrice : UInt64
  gasProvided : UInt64
  originalHash : Bytes
  currentHash : Bytes
  transfers : List TokenTransfer
  deriving DecidableEq, Repr, Inhabited

/-- A call of a function. -/
structure Call where
  input : CallInput
  recipient : Bytes
  function : String
  deriving DecidableEq, Repr, Inhabited

/-- A deployment of a contract. -/
structure Creation where
  input : CallInput
  code : Bytes
  codeMetadata : Bytes
  deriving DecidableEq, Repr, Inhabited

end ChainScenario
